import QuantumSafe.KmeCheckRuns

set_option autoImplicit false

/- All runs of `run_kme_checks`: that they end, and that each process verifies its server. -/
namespace QuantumSafe.KmeChecks

open PyText PyJson PyIpAddress Interaction Interaction.Program DockerCalls LabSession KmeHttp
open KmePool (LoadsError)
open TlsWire (CheckStatus)

variable {printable : Char → Bool} {loads : Text → Except LoadsError Json}

/- Every run ends -/

section Bounds

variable {World : Type} {meets : World → Command → Answer → World → Prop}

variable (meets) in
/-- At most so many processes, and no lack of fuel. -/
abbrev Few {Value : Type} (bound : Nat) (check : Check Value) : Prop :=
  Bounded meets Command.isRun Failure.outOfFuel bound check

theorem few_raise {Value : Type} (message : Text) : Few meets 0 (raise message : Check Value) :=
  Bounded.fail fun same => by cases same

theorem few_curlChecked (title : Text) (argv : List Text) (shown : CompletedProcess → Text) :
    Few meets 1 (curlChecked title argv shown) := by
  have called : Few meets 1 (subprocessRun argv none (some dockerExecTimeoutSec)) :=
    bounded_subprocessRun _ _ _
  refine (called.bind fun outcome => ?_ : Few meets (1 + 0) _)
  cases outcome with
  | timeoutExpired => exact few_raise _
  | completed result =>
      show Few meets 0 (if result.returncode ≠ 0 then _ else _)
      split
      · exact few_raise _
      · exact Bounded.done result

theorem few_assertContains (shown needle label : Text) :
    Few meets 0 (assertContains printable shown needle label) := by
  unfold assertContains
  split
  · exact Bounded.done ()
  · exact few_raise _

theorem few_statusCheck (title label tag detail needle : Text) (argv : List Text)
    (shown : CompletedProcess → Text) :
    Few meets 1 ((curlChecked title argv shown).bind fun result =>
      (assertContains printable result.stdout needle label).bind fun _ => reportOk tag detail) :=
  (few_curlChecked title argv shown).bind fun result =>
    (few_assertContains result.stdout needle label).bind fun _ => bounded_reportCheck _ _ _

theorem firstKey_error {payload : Json} {failure : Failure}
    (refused : firstKey printable payload = .error failure) : failure ≠ .outOfFuel := by
  rintro rfl
  unfold firstKey at refused
  split at refused
  · simp only at refused
    split at refused
    · split at refused <;> cases refused
    · cases refused
    · cases refused
  · cases refused

theorem onlyKey_error {keyId keyB64 : Text} {payload : Json} {failure : Failure}
    (refused : onlyKey printable keyId keyB64 payload = .error failure) : failure ≠ .outOfFuel := by
  rintro rfl
  unfold onlyKey at refused
  split at refused
  · simp only at refused
    split at refused
    · split at refused
      · cases refused
      · split at refused <;> cases refused
    · cases refused
    · cases refused
  · cases refused

theorem few_payloadOf {Value : Type} {stdout : Text} {test : Json → Except Failure Value}
    (fine : ∀ payload failure, test payload = .error failure → failure ≠ .outOfFuel) :
    Few meets 0 (payloadOf loads stdout test) := by
  unfold payloadOf
  split
  · exact Bounded.done _
  · rename_i failure refused
    refine Bounded.fail ?_
    cases loaded : loads stdout with
    | error error =>
        rw [loaded] at refused
        rw [← Except.error.inj refused]
        exact fun same => by cases same
    | ok payload =>
        rw [loaded] at refused
        exact fine payload failure refused

theorem few_encKeysOnce (targets : KmeTargets) : Few meets 1 (encKeysOnce printable loads targets) :=
  (few_curlChecked _ _ _).bind fun _ =>
    (few_payloadOf fun _ _ refused => firstKey_error refused).bind fun _ =>
      (bounded_reportCheck _ _ _).bind fun _ => Bounded.done _

theorem few_checkKmeB (targets : KmeTargets) (key : Option (Text × Text)) :
    Few meets 2 (checkKmeB printable loads targets key) := by
  have peer : Few meets 1 (checkKmeBPeerStatus printable targets) := few_statusCheck _ _ _ _ _ _ _
  refine (peer.bind fun _ => ?_ : Few meets (1 + 1) _)
  cases key with
  | none => exact (few_raise _).mono (Nat.zero_le 1)
  | some key =>
      exact (few_curlChecked _ _ _).bind fun _ =>
        (few_payloadOf fun _ _ refused => onlyKey_error refused).bind fun _ => bounded_reportCheck _ _ _

theorem few_checkHosts (targets : KmeTargets) (hosts : List Text) :
    Few meets (hosts.length * 2) (forEach hosts (checkCeosHostKmeTls printable targets)) :=
  Bounded.forEach fun _ _ =>
    (Bounded.forEach fun _ _ => few_statusCheck _ _ _ _ _ _ _ : Few meets ((hostChecks targets).length * 1) _)

variable {time : World → ℚ}

/-- Seven pauses of five seconds reach over the 35 seconds of the deadline. -/
theorem few_encKeysOnKmeA (tells : TellsTime meets time) {fuel : Nat} (enough : 8 ≤ fuel)
    (targets : KmeTargets) : Few meets 8 (encKeysOnKmeA printable loads fuel targets) := by
  have reached : (encKeysPoolTimeoutSec : ℚ) ≤ encKeysPoolPollSec * (7 : Nat) := by
    norm_num [encKeysPoolTimeoutSec, encKeysPoolPollSec]
  exact retryFor_bounded (tells.clocked encKeysPoolPollSec) ⟨rfl, rfl⟩ (few_encKeysOnce targets) enough reached

theorem few_askedA (tells : TellsTime meets time) {fuel : Nat} (enough : 8 ≤ fuel) (targets : KmeTargets)
    (kmeNodes : List Text) : Few meets 10 (askedA printable loads fuel targets kmeNodes) := by
  unfold askedA
  split
  · have sae : Few meets 1 (checkKmeASaeStatus printable targets) := few_statusCheck _ _ _ _ _ _ _
    have peer : Few meets 1 (checkKmeAPeerStatus printable targets) := few_statusCheck _ _ _ _ _ _ _
    have all : Few meets (1 + (1 + 8)) (checkKmeA printable loads fuel targets) :=
      sae.bind fun _ => peer.bind fun _ => few_encKeysOnKmeA tells enough targets
    exact all.bind fun _ => Bounded.done _
  · exact (Bounded.done _).mono (Nat.zero_le 10)

theorem few_askedB (targets : KmeTargets) (kmeNodes : List Text) (key : Option (Text × Text)) :
    Few meets 2 (askedB printable loads targets kmeNodes key) := by
  unfold askedB
  split
  · exact few_checkKmeB targets key
  · exact (Bounded.done ()).mono (Nat.zero_le 2)

/-- Against a clock that runs forward and pauses that take their time, every run of the KME
checks ends: the wait for the key pool needs no more than eight attempts, and the whole run
no more than twelve processes and two for each host. -/
theorem runKmeChecks_bounded (tells : TellsTime meets time) {fuel : Nat} (enough : 8 ≤ fuel)
    {clabName mgmtSubnet : Text} {kmeNodes : List Text} {hostNodes : Option (List Text)}
    {transcript : List Exchange} {result : Except Failure Unit} {world final : World}
    (ends : (runKmeChecks printable loads fuel clabName mgmtSubnet kmeNodes hostNodes).Ends
      transcript result) (met : Through meets world transcript final) :
    (processes transcript).length ≤ 12 + 2 * (sortedHosts hostNodes).length ∧ result ≠ .error .outOfFuel := by
  have few : Few meets (12 + 2 * (sortedHosts hostNodes).length)
      (runKmeChecks printable loads fuel clabName mgmtSubnet kmeNodes hostNodes) := by
    unfold runKmeChecks
    split
    · refine (Bounded.fail ?_).mono (Nat.zero_le _)
      exact fun same => by cases same
    · rename_i ips known
      have all : Few meets (10 + (2 + (sortedHosts hostNodes).length * 2)) (checkTargets printable loads fuel
          ⟨clabName, ips .kmeA, ips .kmeB⟩ kmeNodes (sortedHosts hostNodes)) :=
        (few_askedA tells enough _ kmeNodes).bind fun key =>
          (few_askedB _ kmeNodes key).bind fun _ => few_checkHosts _ _
      exact all.mono (by omega)
  have bound := few ends met
  rwa [List.countP_eq_length_filter] at bound

end Bounds

/-- The pool of KME A stays empty. -/
private def emptyPool (argv : List Text) : Outcome :=
  if argv.contains (text "-X") then .completed ⟨22, [], []⟩ else exampleAnswer.outcome

theorem runKmeChecks_bounded_emptyPool :
    (processes ((exampleChecks none).live (onClock emptyPool) 0).2.1).length ≤ 12 + 2 * (sortedHosts none).length ∧
      ((exampleChecks none).live (onClock emptyPool) 0).1 ≠ .error .outOfFuel :=
  runKmeChecks_bounded (onClock_tells emptyPool) (Nat.le_refl 8) (ends_live _ _ _)
    (through_live (fun _ _ => rfl) _ _)

/- No run lets go of the verification -/

/-- A process is a curl in a container, or in the management namespace of one, that speaks TLS
1.3 only and verifies the chain of the server; what else it is told concerns the client, and it
is given up after 20 seconds. -/
def Verifies : Command → Prop
  | .run argv input timeout => input = none ∧ timeout = some dockerExecTimeoutSec ∧
      ∃ container caCert options url, (∀ option ∈ options, option.1 ∈ clientOptions) ∧
        text "https://" <+: url ∧
        (argv = dockerExecArgv container (verifying caCert ++ withUrl options url) ∨
          argv = dockerExecArgv container ([text "ip", text "netns", text "exec", ceosMgmtNetns] ++
            (verifying caCert ++ withUrl options url)))
  | _ => True

def Verified (transcript : List Exchange) : Prop := ∀ exchange ∈ transcript, Verifies exchange.1

theorem verifies_kmeCurl (container : Text) {curl : Curl} (strict : curl.strict = true)
    (secure : text "https://" <+: curl.url) :
    Verifies (.run (dockerExecArgv container (kmeCurlArgv curl)) none (some dockerExecTimeoutSec)) :=
  ⟨rfl, rfl, container, curl.caCert, curl.options, curl.url, options_client curl, secure,
    Or.inl (by rw [kmeCurlArgv_strict strict])⟩

theorem verifies_ceosKmeCurl (container : Text) (curl : Curl) (secure : text "https://" <+: curl.url) :
    Verifies (.run (ceosKmeCurlExecArgv container curl) none (some dockerExecTimeoutSec)) :=
  ⟨rfl, rfl, container, curl.caCert, curl.options, curl.url, options_client curl, secure,
    Or.inr (by rw [ceosKmeCurlExecArgv, @kmeCurlArgv_strict { curl with strict := true } rfl]; rfl)⟩

theorem apiUrl_https (ip : Text) (port : Nat) (path : Text) : text "https://" <+: apiUrl ip port path :=
  ⟨ip ++ text ":" ++ natText port ++ text "/api/v1/" ++ path, by simp [apiUrl]⟩

theorem hostChecks_https (targets : KmeTargets) :
    ∀ check ∈ hostChecks targets, text "https://" <+: check.curl.url := by
  simp [hostChecks, apiUrl_https]

/-- All commands of a check verify. -/
abbrev Strict {Value : Type} (check : Check Value) : Prop := check.Within Verifies fun _ => True

theorem strict_curlChecked {title : Text} {argv : List Text} {shown : CompletedProcess → Text}
    (verifies : Verifies (.run argv none (some dockerExecTimeoutSec))) :
    Strict (curlChecked title argv shown) := by
  refine ⟨verifies, fun answer => ?_⟩
  simp only [done_bind]
  split
  · exact trivial
  · split <;> exact trivial

theorem strict_assertContains (shown needle label : Text) :
    Strict (assertContains printable shown needle label) := by
  unfold assertContains
  split <;> exact trivial

theorem strict_statusCheck {title label tag detail needle : Text} {argv : List Text}
    {shown : CompletedProcess → Text} (verifies : Verifies (.run argv none (some dockerExecTimeoutSec))) :
    Strict ((curlChecked title argv shown).bind fun result =>
      (assertContains printable result.stdout needle label).bind fun _ => reportOk tag detail) :=
  (strict_curlChecked verifies).bind fun result =>
    (strict_assertContains result.stdout needle label).bind fun _ => ⟨trivial, fun _ => trivial⟩

theorem strict_payloadOf {Value : Type} (stdout : Text) (test : Json → Except Failure Value) :
    Strict (payloadOf loads stdout test) := by
  unfold payloadOf
  split <;> exact trivial

theorem strict_encKeysOnKmeA (fuel : Nat) (targets : KmeTargets) :
    Strict (encKeysOnKmeA printable loads fuel targets) := by
  have once : Strict (encKeysOnce printable loads targets) :=
    (strict_curlChecked (verifies_kmeCurl _ rfl (apiUrl_https _ _ _))).bind fun _ =>
      (strict_payloadOf _ _).bind fun _ => ⟨trivial, fun _ => trivial⟩
  exact ⟨trivial, fun now => within_retryBefore trivial trivial trivial once fuel⟩

theorem strict_askedA (fuel : Nat) (targets : KmeTargets) (kmeNodes : List Text) :
    Strict (askedA printable loads fuel targets kmeNodes) := by
  unfold askedA
  split
  · have sae : Strict (checkKmeASaeStatus printable targets) :=
      strict_statusCheck (verifies_kmeCurl _ rfl (apiUrl_https _ _ _))
    have peer : Strict (checkKmeAPeerStatus printable targets) :=
      strict_statusCheck (verifies_kmeCurl _ rfl (apiUrl_https _ _ _))
    have all : Strict (checkKmeA printable loads fuel targets) :=
      sae.bind fun _ => peer.bind fun _ => strict_encKeysOnKmeA fuel targets
    exact all.bind fun _ => trivial
  · exact trivial

theorem strict_askedB (targets : KmeTargets) (kmeNodes : List Text) (key : Option (Text × Text)) :
    Strict (askedB printable loads targets kmeNodes key) := by
  unfold askedB
  split
  · have peer : Strict (checkKmeBPeerStatus printable targets) :=
      strict_statusCheck (verifies_kmeCurl _ rfl (apiUrl_https _ _ _))
    refine (peer.bind fun _ => ?_ : Strict (checkKmeB printable loads targets key))
    cases key with
    | none => exact trivial
    | some key =>
        exact (strict_curlChecked (verifies_kmeCurl _ rfl (apiUrl_https _ _ _))).bind fun _ =>
          (strict_payloadOf _ _).bind fun _ => ⟨trivial, fun _ => trivial⟩
  · exact trivial

/-- In every run of the KME checks, however it ends, each process verifies the server it
talks to. -/
theorem runKmeChecks_verifies {fuel : Nat} {clabName mgmtSubnet : Text} {kmeNodes : List Text}
    {hostNodes : Option (List Text)} {transcript : List Exchange} {result : Except Failure Unit}
    (ends : (runKmeChecks printable loads fuel clabName mgmtSubnet kmeNodes hostNodes).Ends
      transcript result) :
    Verified transcript := by
  have strict : Strict (runKmeChecks printable loads fuel clabName mgmtSubnet kmeNodes hostNodes) := by
    unfold runKmeChecks
    split
    · exact trivial
    · refine (strict_askedA fuel _ kmeNodes).bind fun key => (strict_askedB _ kmeNodes key).bind fun _ => ?_
      refine Within.forEach fun node _ => Within.forEach fun check listed => ?_
      exact strict_statusCheck (verifies_ceosKmeCurl _ check.curl (hostChecks_https _ check listed))
  exact (strict.ends ends).1

theorem runKmeChecks_verifies_emptyPool :
    Verified ((exampleChecks none).live (onClock emptyPool) 0).2.1 :=
  runKmeChecks_verifies (ends_live _ _ _)

end QuantumSafe.KmeChecks
