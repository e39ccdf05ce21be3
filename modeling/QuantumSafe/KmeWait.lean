import QuantumSafe.KmeHttp
import QuantumSafe.KmePool
import QuantumSafe.LabSession
import QuantumSafe.MgmtSubnets

set_option autoImplicit false

/- The whole of `lab/wait_kme_pool.py`: the wait for the containers, the minimum wait and the
polling of the key pool, as commands to the outside. -/
namespace QuantumSafe.KmeWait

open PyText PyJson PyIpAddress Interaction Interaction.Program DockerCalls LabSession KmeHttp
open CeosContract (kmeBSaeId)
open KmePool (LoadsError PyException CurlCall Ending encKeysCall statusCall probeEncKeys
  fetchSlaveStatus storedKeyCount)

/-- What `wait_for_kme_pool` raises. The error of the last line quotes the number of polls,
the last count and the last error. -/
inductive Failure where
  | raised (exception : PyException)
  | notReady (polls : Nat) (lastCount : Option Json) (lastError : Option Text)
  | address (error : AddressError)
  | outOfFuel

abbrev Wait (Value : Type) := Session Failure Value

def containersTimeoutSec : Nat := 60
def containersPollSec : Nat := 2
def pollIntervalSec : Nat := 5

/-- The most whole seconds that 64 bits of nanoseconds hold. -/
def sleepLimitSec : Nat := (2 ^ 63 - 1) / 10 ^ 9

/-- The integer rounds beyond the largest float. -/
@[irreducible] def overflowsFloat (n : Int) : Bool := 2 ^ 1024 - 2 ^ 970 ≤ n.natAbs

def inspectArgv (name : Text) : List Text :=
  [text "docker", text "inspect", text "-f", text "\x7b\x7b.State.Running\x7d\x7d", name]

def containerRunning (name : Text) : Wait Bool :=
  (subprocessRun (inspectArgv name) none (some dockerExecTimeoutSec)).bind fun
    | .timeoutExpired => .fail (.raised .timeoutExpired)
    | .completed result => .done (result.returncode == 0 && strip result.stdout == text "true")

/-- `all(container_running(name) for name in names)` -/
def allRunning : List Text → Wait Bool
  | [] => .done true
  | name :: rest => (containerRunning name).bind fun up => if up then allRunning rest else .done false

/-- `[name for name in names if not container_running(name)]` -/
def notRunning : List Text → Wait (List Text)
  | [] => .done []
  | name :: rest => (containerRunning name).bind fun up =>
      (notRunning rest).bind fun missing => .done (if up then missing else name :: missing)

/-- The body of the loop of `wait_for_containers`. -/
def lookOnce (names : List Text) (_ : Unit) : Wait (Unit ⊕ Unit) :=
  (allRunning names).bind fun up => .done (if up then .inr () else .inl ())

def waitForContainers (fuel : Nat) (names : List Text) : Wait Unit :=
  (monotonic.bind fun now => whileBefore .monotonic (.sleep containersPollSec) Answer.clock
      (now + containersTimeoutSec) .outOfFuel (lookOnce names) fuel ()).bind fun
    | .inr _ => .done ()
    | .inl _ => (notRunning names).bind fun missing =>
        .fail (.raised (.kmePoolWaitError (text "containers not running: " ++ join (text ", ") missing)))

def poolOutcome : Outcome → KmePool.Outcome
  | .timeoutExpired => .timeoutExpired
  | .completed result => .completed result.returncode result.stdout result.stderr

/-- The command of `_docker_curl`. -/
def curlCommand (call : CurlCall) : Command :=
  .run (dockerExecArgv call.container (kmeCurlArgv
    { url := call.url
      cert := call.cert
      key := call.key
      caCert := kmeCaCertContainer
      strict := true
      method := call.method
      body := call.body })) none (some dockerExecTimeoutSec)

/-- `_docker_curl` -/
def dockerCurl (call : CurlCall) : Wait KmePool.Outcome :=
  .ask (curlCommand call) fun answer => .done (poolOutcome answer.outcome)

/-- What the polls have left: their number, and the count and the error of the last one. -/
abbrev Polled := Nat × Option (Option Json × Option Text)

section

variable (loads : Text → Except LoadsError Json)

/-- The body of the loop of `wait_for_kme_pool`. -/
def pollOnce (kmeAContainer kmeAIp : Text) (polled : Polled) : Wait (Polled ⊕ Text) :=
  (dockerCurl (encKeysCall kmeAContainer kmeAIp kmeBSaeId)).bind fun enc =>
    match probeEncKeys loads enc with
    | .error exception => .fail (.raised exception)
    | .ok (some (c :: keyId), _) => .done (.inr (c :: keyId))
    | .ok (_, encError) =>
        (dockerCurl (statusCall kmeAContainer kmeAIp kmeBSaeId)).bind fun status =>
          match (fetchSlaveStatus loads status).bind storedKeyCount with
          | .ok count => .done (.inl (polled.1 + 1, some (some count, encError)))
          | .error exception =>
              if exception.handled then .done (.inl (polled.1 + 1, some (none, encError)))
              else .fail (.raised exception)

def pollPool (fuel : Nat) (kmeAContainer kmeAIp : Text) (timeoutSec : Int) : Wait Text :=
  -- the sum of a clock and an integer that no float can hold
  if overflowsFloat timeoutSec then monotonic.bind fun _ => .fail (.raised .overflowError)
  else
    (monotonic.bind fun now => whileBefore .monotonic (.sleep pollIntervalSec) Answer.clock
        (now + timeoutSec) .outOfFuel (pollOnce loads kmeAContainer kmeAIp) fuel (0, none)).bind fun
      | .inr keyId => .done keyId
      | .inl polled => .fail (.notReady polled.1 (polled.2.bind Prod.fst) (polled.2.bind Prod.snd))

/-- Why `time.sleep` refuses a number of seconds: its nanoseconds do not fit into 64 bits,
or it is negative. -/
def sleepRefusal (seconds : Int) : Option PyException :=
  if sleepLimitSec < seconds.natAbs then some .overflowError
  else if seconds < 0 then some .valueError
  else none

def sleepInt (seconds : Int) : Wait Unit :=
  match sleepRefusal seconds with
  | some exception => .fail (.raised exception)
  | none => sleep seconds

def waitForKmePool (fuel : Nat) (clabName mgmtSubnet : Text) (minWaitSec timeoutSec : Int) : Wait Text :=
  match mgmtIpsForSubnet (some mgmtSubnet) with
  | .error error => .fail (.address error)
  | .ok ips =>
      (waitForContainers fuel [containerOf clabName (text "kme-a"), containerOf clabName (text "kme-b")]).bind
        fun _ => (sleepInt minWaitSec).bind fun _ =>
          pollPool loads fuel (containerOf clabName (text "kme-a")) (ips .kmeA) timeoutSec

end

end QuantumSafe.KmeWait
