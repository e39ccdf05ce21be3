import QuantumSafe.KmeWait

set_option autoImplicit false

/- Runs of `lab/wait_kme_pool.py` against a clock: they end, each loop gives up only where a look
at the clock shows its deadline, and the polling is that of the pool with one poll for each look
before it. -/
namespace QuantumSafe.KmeWait

open PyText PyJson PyIpAddress Interaction Interaction.Program DockerCalls LabSession KmeHttp
open CeosContract (kmeBSaeId)
open KmePool (LoadsError PyException CurlCall Ending encKeysCall statusCall probeEncKeys
  fetchSlaveStatus storedKeyCount)
open Polling (Step poll)

variable {loads : Text → Except LoadsError Json}

/-- What `wait_for_kme_pool` does at the end of its polling. -/
def finish : Ending → Except Failure Text
  | .ready keyId => .ok keyId
  | .notReady polls lastCount lastError => .error (.notReady polls lastCount lastError)
  | .raised exception => .error (.raised exception)

/-- How the calls of a poll end. -/
abbrev Curl := CurlCall → KmePool.Outcome

/-- The exchanges of a poll: the request for a key, and maybe the one for the status. -/
def Asks (kmeAContainer kmeAIp : Text) (curl : Curl) (part : List Exchange) : Prop :=
  ∃ enc, enc.1 = curlCommand (encKeysCall kmeAContainer kmeAIp kmeBSaeId) ∧
    poolOutcome enc.2.outcome = curl (encKeysCall kmeAContainer kmeAIp kmeBSaeId) ∧
    (part = [enc] ∨ ∃ status, part = [enc, status] ∧
      status.1 = curlCommand (statusCall kmeAContainer kmeAIp kmeBSaeId) ∧
      poolOutcome status.2.outcome = curl (statusCall kmeAContainer kmeAIp kmeBSaeId))

section

variable {kmeAContainer kmeAIp : Text}

/-- What the looks at the clock show. -/
def clockLooks (transcript : List Exchange) : List ℚ :=
  transcript.filterMap fun exchange => if exchange.1 = .monotonic then some exchange.2.clock else none

@[simp] theorem clockLooks_nil : clockLooks [] = [] := rfl

@[simp] theorem clockLooks_cons (exchange : Exchange) (rest : List Exchange) :
    clockLooks (exchange :: rest) =
      (if exchange.1 = .monotonic then [exchange.2.clock] else []) ++ clockLooks rest := by
  rw [clockLooks, List.filterMap_cons]
  split <;> simp_all [clockLooks]

@[simp] theorem clockLooks_append (before after : List Exchange) :
    clockLooks (before ++ after) = clockLooks before ++ clockLooks after := List.filterMap_append

theorem Asks.clockLooks {curl : Curl} {part : List Exchange} (asks : Asks kmeAContainer kmeAIp curl part) :
    KmeWait.clockLooks part = [] := by
  obtain ⟨enc, encRuns, -, rfl | ⟨status, rfl, statusRuns, -⟩⟩ := asks
  · simp [KmeWait.clockLooks, encRuns, curlCommand]
  · simp [KmeWait.clockLooks, encRuns, statusRuns, curlCommand]

theorem Asks.processes {curl : Curl} {part : List Exchange} (asks : Asks kmeAContainer kmeAIp curl part) :
    processes part = part := by
  obtain ⟨enc, encRuns, -, rfl | ⟨status, rfl, statusRuns, -⟩⟩ := asks
  · simp [LabSession.processes, encRuns, curlCommand, Command.isRun]
  · simp [LabSession.processes, encRuns, statusRuns, curlCommand, Command.isRun]

variable (loads kmeAContainer kmeAIp) in
/-- The polls of the pool when their calls end so. -/
def attempts (curls : List Curl) (index : Nat) : Step (Option Json × Option Text) Ending :=
  KmePool.pollOnce loads kmeAContainer kmeAIp (curls.getD index fun _ => .timeoutExpired)

variable (loads kmeAContainer kmeAIp) in
/-- These processes are so many polls of the pool, and the pool answers with this result. -/
def Polls (runs : List Exchange) (result : Except Failure Text) (polls : Nat) : Prop :=
  ∃ curls parts, curls.length = polls ∧ runs = parts.flatten ∧
    List.Forall₂ (Asks kmeAContainer kmeAIp) curls parts ∧
    result = finish (KmePool.waitForKmePool loads kmeAContainer kmeAIp
      (fun index => curls.getD index fun _ => .timeoutExpired) curls.length)

variable (loads kmeAContainer kmeAIp) in
/-- The polls until a deadline: one for each look at the clock before it. Only a look that
shows the deadline makes the loop give up. -/
structure PollsUntil (deadline : ℚ) (rounds : Nat) (loop : List Exchange) (result : Except Failure Text)
    (polls : Nat) : Prop where
  few : polls ≤ rounds
  pool : Polls loads kmeAContainer kmeAIp (processes loop) result polls
  started : (clockLooks loop).countP (· < deadline) = polls
  gaveUp : ∀ polls count error, result = .error (.notReady polls count error) →
    ∃ now ∈ clockLooks loop, deadline ≤ now

section Loop

variable {deadline : ℚ} {count : Nat} {last : Polled} {rounds part : List Exchange}

end Loop

end

/- The containers -/

/-- The exchange shows whether a container runs. -/
def Shows (up : Bool) (name : Text) (exchange : Exchange) : Prop :=
  exchange.1 = .run (inspectArgv name) none (some dockerExecTimeoutSec) ∧
    ∃ process, exchange.2.outcome = .completed process ∧
      (up = true ↔ process.returncode = 0 ∧ strip process.stdout = text "true")

/-- These exchanges show the containers running, one after the other. -/
def SeenRunning (names : List Text) (part : List Exchange) : Prop :=
  List.Forall₂ (Shows true) names part

/-- One look: the first containers run, the next one does not. -/
def SeenDown (names : List Text) (part : List Exchange) : Prop :=
  ∃ before name after seen last, names = before ++ name :: after ∧ part = seen ++ [last] ∧
    SeenRunning before seen ∧ Shows false name last

/-- These exchanges show for each container whether it runs, and those that do not. -/
def Told (names : List Text) (part : List Exchange) (absent : List Text) : Prop :=
  ∃ ups : List Bool, List.Forall₂ (fun entry exchange => Shows entry.2 entry.1 exchange) (names.zip ups) part ∧
    ups.length = names.length ∧ absent = ((names.zip ups).filter fun entry => !entry.2).map Prod.fst

/-- How the wait for the containers goes. It ends with a look that starts in time and shows all of
them running, or gives up behind its deadline and names those that a last look shows missing;
no earlier look shows all of them. -/
inductive Awaits (names : List Text) : List Exchange → Except Failure Unit → Prop
  | up {start now : Answer} {before look : List Exchange} {parts : List (List Exchange)}
      (early : now.clock < start.clock + containersTimeoutSec)
      (looked : processes before = parts.flatten) (down : ∀ part ∈ parts, SeenDown names part)
      (running : SeenRunning names look) :
      Awaits names ((.monotonic, start) :: (before ++ (.monotonic, now) :: look)) (.ok ())
  | missing {start now : Answer} {before look : List Exchange} {parts : List (List Exchange)}
      {absent : List Text} (late : start.clock + containersTimeoutSec ≤ now.clock)
      (looked : processes before = parts.flatten) (down : ∀ part ∈ parts, SeenDown names part)
      (told : Told names look absent) :
      Awaits names ((.monotonic, start) :: (before ++ (.monotonic, now) :: look))
        (.error (.raised (.kmePoolWaitError (text "containers not running: " ++ join (text ", ") absent))))
  /-- `docker inspect` does not answer. -/
  | timedOut {before : List Exchange} {name : Text} {answer : Answer} (asked : name ∈ names)
      (silent : answer.outcome = .timeoutExpired) :
      Awaits names (before ++ [(.run (inspectArgv name) none (some dockerExecTimeoutSec), answer)])
        (.error (.raised .timeoutExpired))

/-- A run that ends with a `docker inspect` without an answer. -/
def Unanswered (names : List Text) (transcript : List Exchange) (failure : Failure) : Prop :=
  failure = .raised .timeoutExpired ∧ ∃ before name answer, name ∈ names ∧
    answer.outcome = .timeoutExpired ∧
    transcript = before ++ [(.run (inspectArgv name) none (some dockerExecTimeoutSec), answer)]

theorem Unanswered.behind {names : List Text} {transcript : List Exchange} {failure : Failure}
    (unanswered : Unanswered names transcript failure) (front : List Exchange) :
    Unanswered names (front ++ transcript) failure := by
  obtain ⟨rfl, before, name, answer, asked, silent, rfl⟩ := unanswered
  exact ⟨rfl, front ++ before, name, answer, asked, silent, (List.append_assoc ..).symm⟩

theorem Unanswered.among {names more : List Text} {transcript : List Exchange} {failure : Failure}
    (unanswered : Unanswered names transcript failure) (inside : ∀ name ∈ names, name ∈ more) :
    Unanswered more transcript failure := by
  obtain ⟨rfl, before, name, answer, asked, silent, rfl⟩ := unanswered
  exact ⟨rfl, before, name, answer, inside name asked, silent, rfl⟩

/-- A process that looks at a container. -/
def Looks : Command → Prop
  | .run argv _ _ => ∃ name, argv = inspectArgv name
  | _ => True

theorem Shows.processes {up : Bool} {name : Text} {exchange : Exchange} (shows : Shows up name exchange) :
    processes [exchange] = [exchange] := by
  simp [LabSession.processes, shows.1, Command.isRun]

theorem SeenDown.processes {names : List Text} {part : List Exchange} (down : SeenDown names part) :
    processes part = part := by
  obtain ⟨before, name, after, seen, last, rfl, rfl, running, shown⟩ := down
  have kept : LabSession.processes seen = seen := by
    clear shown
    induction running with
    | nil => rfl
    | @cons name exchange names rest shows others ih =>
        rw [← List.singleton_append, processes_append, shows.processes, ih]
  rw [processes_append, kept, shown.processes]

section Clock

variable {kmeAContainer kmeAIp : Text}
variable {World : Type} {meets : World → Command → Answer → World → Prop} {time : World → ℚ}

variable (meets) in
abbrev Few {Value : Type} (bound : Nat) (wait : Wait Value) : Prop :=
  Bounded meets Command.isRun Failure.outOfFuel bound wait

end Clock

/- The script -/

/-- The two containers that the script waits for. -/
def kmeContainers (clabName : Text) : List Text :=
  [containerOf clabName (text "kme-a"), containerOf clabName (text "kme-b")]

/-- The exchanges only look at containers. -/
def NoRequest (transcript : List Exchange) : Prop := ∀ exchange ∈ transcript, Looks exchange.1

variable (loads) in
/-- The ways a run of `wait_for_kme_pool` goes, with so many polls at most. -/
inductive Goes (clabName mgmtSubnet : Text) (minWaitSec timeoutSec : Int) (rounds : Nat) :
    List Exchange → Except Failure Text → Prop
  /-- The subnet has no addresses for the lab. -/
  | address (error : AddressError) (known : mgmtIpsForSubnet (some mgmtSubnet) = .error error) :
      Goes clabName mgmtSubnet minWaitSec timeoutSec rounds [] (.error (.address error))
  /-- The containers are not seen running in time. -/
  | containers {waits : List Exchange} {failure : Failure} (looks : NoRequest waits)
      (waited : Awaits (kmeContainers clabName) waits (.error failure)) :
      Goes clabName mgmtSubnet minWaitSec timeoutSec rounds waits (.error failure)
  /-- Both containers run, and the minimum wait is none that `time.sleep` takes. -/
  | refused {waits : List Exchange} {exception : PyException} (looks : NoRequest waits)
      (waited : Awaits (kmeContainers clabName) waits (.ok ()))
      (refuses : sleepRefusal minWaitSec = some exception) :
      Goes clabName mgmtSubnet minWaitSec timeoutSec rounds waits (.error (.raised exception))
  /-- Then comes the minimum wait, and the timeout is too large for a clock. -/
  | overflow {waits : List Exchange} {slept start : Answer} (looks : NoRequest waits)
      (waited : Awaits (kmeContainers clabName) waits (.ok ())) (sleeps : sleepRefusal minWaitSec = none)
      (large : overflowsFloat timeoutSec = true) :
      Goes clabName mgmtSubnet minWaitSec timeoutSec rounds
        (waits ++ [(.sleep minWaitSec, slept), (.monotonic, start)]) (.error (.raised .overflowError))
  /-- Or the polls follow. -/
  | polled {waits loop : List Exchange} {slept start : Answer} {ips : LabNode → Text} {polls : Nat}
      {result : Except Failure Text} (known : mgmtIpsForSubnet (some mgmtSubnet) = .ok ips)
      (looks : NoRequest waits) (waited : Awaits (kmeContainers clabName) waits (.ok ()))
      (sleeps : sleepRefusal minWaitSec = none)
      (pool : PollsUntil loads (containerOf clabName (text "kme-a")) (ips .kmeA) (start.clock + timeoutSec)
        rounds loop result polls) :
      Goes clabName mgmtSubnet minWaitSec timeoutSec rounds
        (waits ++ (.sleep minWaitSec, slept) :: (.monotonic, start) :: loop) result

section Script

variable {World : Type} {meets : World → Command → Answer → World → Prop} {time : World → ℚ}
variable {fuel rounds : Nat} {clabName mgmtSubnet : Text} {minWaitSec timeoutSec : Int}

end Script

end QuantumSafe.KmeWait
