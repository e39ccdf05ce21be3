import QuantumSafe.EventRun
import QuantumSafe.SyslogChecks

set_option autoImplicit false

/- `probe_syslog_delivery_no_cleartext` as two processes: the tcpdump watcher
thread and the delivery loop, which share the flag `cleartext_seen`. -/
namespace QuantumSafe.SyslogChecks

open PyText EventRun
open PyRegex (WordClass)

def probeMessage : Text := text "quantum-safe-syslog-probe"

/-- The arguments that the loop reads. -/
structure Probe where
  node : Text
  switchIp : Text
  needle : Option Text

def Probe.probeNeedle (probe : Probe) : Text :=
  match probe.needle with
  | some (c :: rest) => c :: rest
  | _ => probeMessage ++ text "-" ++ probe.node

/-- Where the delivery loop stands. `killing` and `returning` follow a grep that
found the needle. -/
inductive Location where
  | atLoop
  | testing
  | grepping
  | killing
  | returning
  | sleeping
  | returned
  | raised (reason : SyslogCheckError)
deriving DecidableEq, Repr

structure Delivery where
  location : Location
  cleartextSeen : Bool
  watching : Bool
deriving DecidableEq, Repr

/-- Both threads have been started and the probe log has been sent. -/
def Delivery.start : Delivery := ⟨.atLoop, false, true⟩

inductive DeliveryEvent where
  | deadline (passed : Bool)
  | test
  | grep (stdout : Text)
  | kill
  | returns
  | sleep
  | report (output : Text)
deriving DecidableEq, Repr

/-- The three tests of a polling round. -/
def afterDeadline (probe : Probe) (passed : Bool) : Location :=
  if passed then .raised (.deliveryTimeout probe.node probe.probeNeedle) else .testing

def afterTest (probe : Probe) (cleartextSeen : Bool) : Location :=
  if cleartextSeen then .raised (.cleartextObserved probe.node probe.switchIp) else .grepping

def afterGrep (probe : Probe) (stdout : Text) : Location :=
  if contains probe.probeNeedle stdout then .killing else .sleeping

def deliveryStep [WordClass] (probe : Probe) (s : Delivery) : DeliveryEvent → Option Delivery
  | .deadline passed =>
      if s.location = .atLoop then some { s with location := afterDeadline probe passed } else none
  | .test =>
      if s.location = .testing then some { s with location := afterTest probe s.cleartextSeen }
      else none
  | .grep stdout =>
      if s.location = .grepping then some { s with location := afterGrep probe stdout } else none
  | .kill => if s.location = .killing then some { s with location := .returning } else none
  | .returns => if s.location = .returning then some { s with location := .returned } else none
  | .sleep => if s.location = .sleeping then some { s with location := .atLoop } else none
  | .report output =>
      if s.watching then
        some ⟨s.location, s.cleartextSeen || tcpdumpCapturedPacket output, false⟩
      else none

/-- Past the flag test of the current polling round. -/
def Location.PastTest (location : Location) : Prop :=
  location = .grepping ∨ location = .killing ∨ location = .returning ∨ location = .returned

/-- Whether the watcher has reported a packet since the last flag test. -/
def capturedSinceTest [WordClass] (before : Bool) : List DeliveryEvent → Bool
  | [] => before
  | .test :: rest => capturedSinceTest false rest
  | .report output :: rest => capturedSinceTest (before || tcpdumpCapturedPacket output) rest
  | _ :: rest => capturedSinceTest before rest

/-- Past its flag test, the loop runs with a flag that tells exactly whether a
packet was reported since. -/
def FlagCurrent (captured : Bool) (s : Delivery) : Prop :=
  s.location.PastTest → s.cleartextSeen = captured

theorem flagCurrent_step [WordClass] {probe : Probe} {captured : Bool} {s next : Delivery}
    {event : DeliveryEvent} (current : FlagCurrent captured s)
    (steps : deliveryStep probe s event = some next) :
    FlagCurrent (capturedSinceTest captured [event]) next := by
  obtain ⟨location, seen, watching⟩ := s
  intro past
  cases event with
  | deadline passed =>
      simp only [deliveryStep, Option.ite_none_right_eq_some, Option.some.injEq] at steps
      obtain ⟨-, rfl⟩ := steps
      cases passed <;> simp [Location.PastTest, afterDeadline] at past
  | test =>
      simp only [deliveryStep, Option.ite_none_right_eq_some, Option.some.injEq] at steps
      obtain ⟨-, rfl⟩ := steps
      cases seen with
      | false => rfl
      | true => simp [Location.PastTest, afterTest] at past
  | grep stdout =>
      simp only [deliveryStep, Option.ite_none_right_eq_some, Option.some.injEq] at steps
      obtain ⟨here, rfl⟩ := steps
      exact current (Or.inl here)
  | kill =>
      simp only [deliveryStep, Option.ite_none_right_eq_some, Option.some.injEq] at steps
      obtain ⟨here, rfl⟩ := steps
      exact current (Or.inr (Or.inl here))
  | returns =>
      simp only [deliveryStep, Option.ite_none_right_eq_some, Option.some.injEq] at steps
      obtain ⟨here, rfl⟩ := steps
      exact current (Or.inr (Or.inr (Or.inl here)))
  | sleep =>
      simp only [deliveryStep, Option.ite_none_right_eq_some, Option.some.injEq] at steps
      obtain ⟨-, rfl⟩ := steps
      simp [Location.PastTest] at past
  | report output =>
      simp only [deliveryStep, Option.ite_none_right_eq_some, Option.some.injEq] at steps
      obtain ⟨-, rfl⟩ := steps
      have same : seen = captured := current past
      simp only [capturedSinceTest, same]

theorem capturedSinceTest_cons [WordClass] (before : Bool) (event : DeliveryEvent)
    (rest : List DeliveryEvent) :
    capturedSinceTest before (event :: rest) =
      capturedSinceTest (capturedSinceTest before [event]) rest := by
  cases event <;> rfl

theorem flagCurrent_run [WordClass] {probe : Probe} {captured : Bool} {s final : Delivery}
    {events : List DeliveryEvent} (current : FlagCurrent captured s)
    (runs : run (deliveryStep probe) s events = some final) :
    FlagCurrent (capturedSinceTest captured events) final := by
  induction events generalizing s captured with
  | nil => exact Option.some.inj runs ▸ current
  | cons event rest ih =>
      obtain ⟨next, first, others⟩ := Option.bind_eq_some_iff.mp runs
      rw [capturedSinceTest_cons]
      exact ih (flagCurrent_step current first) others

/-- For every schedule of the two processes and every grep outcome, the function
returns with the flag clear exactly when no packet was reported between the last
flag test and the return. -/
theorem returns_unseen_iff [WordClass] (probe : Probe) (events : List DeliveryEvent) (final : Delivery)
    (returns : run (deliveryStep probe) Delivery.start (events ++ [.returns]) = some final) :
    final.cleartextSeen = false ↔ capturedSinceTest false events = false := by
  obtain ⟨before, polled, last⟩ := run_snoc (deliveryStep probe) returns
  simp only [deliveryStep, Option.ite_none_right_eq_some, Option.some.injEq] at last
  obtain ⟨here, rfl⟩ := last
  have untested : FlagCurrent false Delivery.start := fun _ => rfl
  have seen : before.cleartextSeen = capturedSinceTest false events :=
    flagCurrent_run untested polled (Or.inr (Or.inr (Or.inl here)))
  show before.cleartextSeen = false ↔ _
  rw [seen]

attribute [local instance] PyRegex.asciiWords

private def exampleProbe : Probe := ⟨text "ceos1-both", text "172.20.127.11", some (text "probe")⟩

theorem returns_unseen_iff_quiet :
    (⟨.returned, false, true⟩ : Delivery).cleartextSeen = false ↔
      capturedSinceTest false [.deadline false, .test, .grep (text "a probe"), .kill] = false :=
  returns_unseen_iff exampleProbe [.deadline false, .test, .grep (text "a probe"), .kill]
    ⟨.returned, false, true⟩ (by decide)

/-- A packet reported after the flag test and before the grep goes unnoticed. -/
theorem returns_with_cleartext_seen :
    ¬ ∀ (probe : Probe) (events : List DeliveryEvent) (final : Delivery),
      run (deliveryStep probe) Delivery.start (events ++ [.returns]) = some final →
      final.cleartextSeen = false := by
  intro noneMissed
  have unseen := noneMissed exampleProbe
    [.deadline false, .test, .report (text "1 packet captured"), .grep (text "a probe"), .kill]
    ⟨.returned, true, false⟩ (by decide)
  cases unseen

end QuantumSafe.SyslogChecks
