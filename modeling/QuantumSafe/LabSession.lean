import QuantumSafe.DeadlineLoops
import QuantumSafe.DockerCalls
import QuantumSafe.LabReport

set_option autoImplicit false

/- What the live checks of the lab do to the outside: they run processes, read a clock,
sleep, and report the outcome of a check. -/
namespace QuantumSafe.LabSession

open PyText Interaction DockerCalls
open LabReport (CheckStats recorded)
open TlsWire (CheckStatus)

inductive Command where
  | run (argv : List Text) (input : Option Text) (timeout : Option Nat)
  | monotonic
  | sleep (seconds : ℚ)
  | report (status : CheckStatus) (tag detail : Text)
  | print (shown : Text)
deriving DecidableEq

/-- How a process ends, and the time of `time.monotonic()`. Each command looks at what it
asked for. -/
structure Answer where
  outcome : Outcome
  clock : ℚ

abbrev Exchange := Command × Answer

abbrev Session (Failure Value : Type) := Program Command Answer Failure Value

variable {Failure : Type}

def subprocessRun (argv : List Text) (input : Option Text) (timeout : Option Nat) :
    Session Failure Outcome :=
  .ask (.run argv input timeout) fun answer => .done answer.outcome

def monotonic : Session Failure ℚ := .ask .monotonic fun answer => .done answer.clock

def sleep (seconds : ℚ) : Session Failure Unit := .ask (.sleep seconds) fun _ => .done ()

def reportCheck (status : CheckStatus) (tag detail : Text) : Session Failure Unit :=
  .ask (.report status tag detail) fun _ => .done ()

def reportOk (tag detail : Text) : Session Failure Unit := reportCheck .ok tag detail

def print (shown : Text) : Session Failure Unit := .ask (.print shown) fun _ => .done ()

def Command.isRun : Command → Bool
  | .run _ _ _ => true
  | _ => false

def Command.status : Command → Option CheckStatus
  | .report status _ _ => some status
  | _ => none

/-- What a transcript reports, in order. -/
def statuses (transcript : List Exchange) : List CheckStatus :=
  transcript.filterMap fun exchange => exchange.1.status

/-- The processes of a transcript, in order. -/
def processes (transcript : List Exchange) : List Exchange :=
  transcript.filter fun exchange => exchange.1.isRun

@[simp] theorem statuses_nil : statuses [] = [] := rfl

@[simp] theorem statuses_cons (exchange : Exchange) (rest : List Exchange) :
    statuses (exchange :: rest) = exchange.1.status.toList ++ statuses rest := by
  cases told : exchange.1.status <;> simp [statuses, told]

@[simp] theorem processes_nil : processes [] = [] := rfl

@[simp] theorem processes_cons (exchange : Exchange) (rest : List Exchange) :
    processes (exchange :: rest) = (if exchange.1.isRun then [exchange] else []) ++ processes rest := by
  rw [processes, List.filter_cons]
  split <;> rfl

@[simp] theorem statuses_append (before after : List Exchange) :
    statuses (before ++ after) = statuses before ++ statuses after := List.filterMap_append

@[simp] theorem processes_append (before after : List Exchange) :
    processes (before ++ after) = processes before ++ processes after := List.filter_append ..

/-- A process leaves its own exchange. -/
theorem subprocessRun_ends {argv : List Text} {input : Option Text} {timeout : Option Nat}
    {transcript : List Exchange} {result : Except Failure Outcome}
    (ends : (subprocessRun argv input timeout).Ends transcript result) :
    ∃ answer, transcript = [(.run argv input timeout, answer)] ∧ result = .ok answer.outcome := by
  obtain ⟨answer, rest, rfl, rfl, same⟩ := ends
  exact ⟨answer, rfl, same⟩

theorem monotonic_ends {transcript : List Exchange} {result : Except Failure ℚ}
    (ends : monotonic.Ends transcript result) :
    ∃ answer, transcript = [(.monotonic, answer)] ∧ result = .ok answer.clock := by
  obtain ⟨answer, rest, rfl, rfl, same⟩ := ends
  exact ⟨answer, rfl, same⟩

theorem reportCheck_ends {status : CheckStatus} {tag detail : Text} {transcript : List Exchange}
    {result : Except Failure Unit} (ends : (reportCheck status tag detail).Ends transcript result) :
    ∃ answer, transcript = [(.report status tag detail, answer)] ∧ result = .ok () := by
  obtain ⟨answer, rest, rfl, rfl, same⟩ := ends
  exact ⟨answer, rfl, same⟩

section Tells

variable {Value Result : Type} {allowed : CheckStatus → Prop}

/-- A run that ends normally reports so many checks, and no outcome but these. -/
def Tells (allowed : CheckStatus → Prop) (count : Nat) (session : Session Failure Value) : Prop :=
  ∀ ⦃transcript value⦄, session.Ends transcript (.ok value) →
    (statuses transcript).length = count ∧ ∀ status ∈ statuses transcript, allowed status

theorem tells_of_none {count : Nat} {session : Session Failure Value} (none : count = 0)
    (quiet : ∀ ⦃transcript value⦄, session.Ends transcript (.ok value) → statuses transcript = []) :
    Tells allowed count session := by
  intro transcript value ends
  rw [quiet ends, none]
  exact ⟨rfl, List.forall_mem_nil _⟩

theorem Tells.done (value : Value) : Tells allowed 0 (.done value : Session Failure Value) := by
  apply tells_of_none rfl
  rintro transcript _ ⟨rfl, -⟩
  rfl

theorem Tells.fail (count : Nat) (error : Failure) :
    Tells allowed count (.fail error : Session Failure Value) := by
  rintro transcript _ ⟨-, same⟩
  cases same

theorem Tells.bind {count more : Nat} {first : Session Failure Value}
    {rest : Value → Session Failure Result} (begins : Tells allowed count first)
    (goes : ∀ value, Tells allowed more (rest value)) : Tells allowed (count + more) (first.bind rest) := by
  intro transcript value ends
  obtain ⟨between, before, after, rfl, early, late⟩ := Program.ends_bind_ok ends
  obtain ⟨earlyCount, earlyOnly⟩ := begins early
  obtain ⟨lateCount, lateOnly⟩ := goes between late
  rw [statuses_append, List.length_append, earlyCount, lateCount, List.forall_mem_append]
  exact ⟨rfl, earlyOnly, lateOnly⟩

/-- After something that reports nothing, with what is known of its values. -/
theorem Tells.afterRun {count : Nat} {first : Session Failure Value} {rest : Value → Session Failure Result}
    (quiet : Tells allowed 0 first)
    (goes : ∀ part value, first.Ends part (.ok value) → Tells allowed count (rest value)) :
    Tells allowed count (first.bind rest) := by
  intro transcript value ends
  obtain ⟨between, before, after, rfl, early, late⟩ := Program.ends_bind_ok ends
  rw [statuses_append, List.eq_nil_of_length_eq_zero (quiet early).1, List.nil_append]
  exact goes before between early late

/-- After something that reports nothing. -/
theorem Tells.after {count : Nat} {first : Session Failure Value} {rest : Value → Session Failure Result}
    (quiet : Tells allowed 0 first) (goes : ∀ value, Tells allowed count (rest value)) :
    Tells allowed count (first.bind rest) := quiet.afterRun fun _ value _ => goes value

theorem tells_subprocessRun (argv : List Text) (input : Option Text) (timeout : Option Nat) :
    Tells allowed 0 (subprocessRun argv input timeout : Session Failure Outcome) := by
  apply tells_of_none rfl
  intro transcript value ends
  obtain ⟨answer, rfl, -⟩ := subprocessRun_ends ends
  rfl

theorem tells_sleep (seconds : ℚ) : Tells allowed 0 (sleep seconds : Session Failure Unit) := by
  apply tells_of_none rfl
  rintro transcript _ ⟨answer, rest, rfl, rfl, -⟩
  rfl

theorem tells_reportCheck {status : CheckStatus} (may : allowed status) (tag detail : Text) :
    Tells allowed 1 (reportCheck status tag detail : Session Failure Unit) := by
  rintro transcript _ ⟨answer, rest, rfl, rfl, -⟩
  exact ⟨rfl, List.forall_mem_singleton.mpr may⟩

theorem tells_reportOk (may : allowed .ok) (tag detail : Text) :
    Tells allowed 1 (reportOk tag detail : Session Failure Unit) := tells_reportCheck may tag detail

theorem Tells.forEach {Item : Type} {items : List Item} {body : Item → Session Failure Unit} {count : Nat}
    (each : ∀ item, Tells allowed count (body item)) :
    Tells allowed (items.length * count) (Program.forEach items body) := by
  induction items with
  | nil =>
      rw [List.length_nil, Nat.zero_mul]
      exact Tells.done ()
  | cons item others ih =>
      rw [List.length_cons, Nat.succ_mul, Nat.add_comm]
      exact (each item).bind fun _ => ih

theorem tells_pollTimes {Reason : Type}
    {attempt : Nat → Session Failure (Polling.Step Reason Value)} (each : ∀ index, Tells allowed 0 (attempt index))
    (remaining index : Nat) (last : Option Reason) :
    Tells allowed 0 (pollTimes attempt remaining index last) := by
  induction remaining generalizing index last with
  | zero => exact Tells.done _
  | succ remaining ih =>
      refine (each index).after fun step => ?_
      cases step with
      | left result => exact Tells.done _
      | again reason => exact ih _ _

def Passed (status : CheckStatus) : Prop := status = .ok

theorem passed_ok : Passed .ok := rfl

/-- A run with nothing but passed checks. -/
theorem Tells.recorded {count : Nat} {session : Session Failure Value} (tells : Tells Passed count session)
    {transcript : List Exchange} {value : Value} (ends : session.Ends transcript (.ok value)) :
    LabReport.recorded (statuses transcript) = ⟨count, 0, 0, 0⟩ := by
  rw [List.eq_replicate_iff.mpr (tells ends), LabReport.recorded_replicate_ok]

end Tells

section Bounded

variable {World : Type} {meets : World → Command → Answer → World → Prop} {never : Failure}

theorem bounded_subprocessRun (argv : List Text) (input : Option Text) (timeout : Option Nat) :
    Bounded meets Command.isRun never 1 (subprocessRun argv input timeout) :=
  Bounded.ask fun _ => Bounded.done _

theorem bounded_reportCheck (status : CheckStatus) (tag detail : Text) :
    Bounded meets Command.isRun never 0 (reportCheck status tag detail) :=
  Bounded.ask fun _ => Bounded.done ()

end Bounded

/-- A clock that runs forward, and pauses that take their time. -/
structure TellsTime {World : Type} (meets : World → Command → Answer → World → Prop)
    (time : World → ℚ) : Prop where
  forward : ∀ world command answer next, meets world command answer next → time world ≤ time next
  reads : ∀ world answer next, meets world .monotonic answer next →
    time world ≤ answer.clock ∧ answer.clock ≤ time next
  sleeps : ∀ world seconds answer next, meets world (.sleep seconds) answer next →
    time world + seconds ≤ time next

theorem TellsTime.clocked {World : Type} {meets : World → Command → Answer → World → Prop}
    {time : World → ℚ} (tells : TellsTime meets time) (seconds : ℚ) :
    Clocked meets time .monotonic (.sleep seconds) Answer.clock seconds :=
  ⟨tells.forward, tells.reads, fun world => tells.sleeps world seconds⟩

/-- An outside with a clock: a process takes a second. -/
def onClock (outcome : List Text → Outcome) (now : ℚ) : Command → Answer × ℚ
  | .run argv _ _ => (⟨outcome argv, now⟩, now + 1)
  | .sleep seconds => (⟨.timeoutExpired, now⟩, now + max seconds 0)
  | _ => (⟨.timeoutExpired, now⟩, now)

theorem onClock_tells (outcome : List Text → Outcome) :
    TellsTime (fun now command answer next => onClock outcome now command = (answer, next)) id where
  forward := by
    intro now command answer next meets
    have later : now ≤ (onClock outcome now command).2 := by
      cases command with
      | run argv input timeout => exact le_add_of_nonneg_right zero_le_one
      | monotonic => exact le_refl now
      | sleep seconds => exact le_add_of_nonneg_right (le_max_right seconds 0)
      | report status tag detail => exact le_refl now
      | print shown => exact le_refl now
    rwa [meets] at later
  reads := by
    rintro now answer next meets
    obtain ⟨rfl, rfl⟩ := Prod.mk.inj meets
    exact ⟨le_refl _, le_refl _⟩
  sleeps := by
    rintro now seconds answer next meets
    obtain ⟨rfl, rfl⟩ := Prod.mk.inj meets
    have least := le_max_left seconds 0
    show now + seconds ≤ now + max seconds 0
    linarith

end QuantumSafe.LabSession
