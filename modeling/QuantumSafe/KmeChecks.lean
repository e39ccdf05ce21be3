import QuantumSafe.JsonText
import QuantumSafe.KmeHttp
import QuantumSafe.KmeLabConf
import QuantumSafe.KmePool
import QuantumSafe.LabSession
import QuantumSafe.MgmtSubnets

set_option autoImplicit false

/- `lab/test_kme.py`: the live checks of the KMEs. A key that one KME hands out is asked for
at the other one, and the switches talk to both. -/
namespace QuantumSafe.KmeChecks

open PyText PyJson PyIpAddress Interaction Interaction.Program DockerCalls LabSession KmeHttp
open CeosContract (kmeSaeId kmeBSaeId)
open KmeLabConf (kmeKeySize)
open KmePool (LoadsError)

structure KmeTargets where
  clabName : Text
  kmeAIp : Text
  kmeBIp : Text

def KmeTargets.kmeContainer (targets : KmeTargets) (node : Text) : Text := containerOf targets.clabName node

def KmeTargets.ceosContainer (targets : KmeTargets) (node : Text) : Text := containerOf targets.clabName node

/-- `KmeCheckError` with its message, and what else a check raises. -/
inductive Failure where
  | kmeCheckError (message : Text)
  | loads (error : LoadsError)
  | attributeError
  | address (error : AddressError)
  | outOfFuel
deriving DecidableEq

abbrev Check (Value : Type) := Session Failure Value

def raise {Value : Type} (message : Text) : Check Value := .fail (.kmeCheckError message)

def encKeysPoolTimeoutSec : Nat := 35
def encKeysPoolPollSec : Nat := 5

def kmeA : Text := text "kme-a"
def kmeB : Text := text "kme-b"

def reportKme (detail : Text) : Check Unit := reportOk (text "[kme] ") detail

def reportHost (detail : Text) : Check Unit := reportOk (text "[host]") detail

/-- What the two curl functions do with their arguments; `shown` says why a curl failed. -/
def curlChecked (title : Text) (argv : List Text) (shown : CompletedProcess → Text) :
    Check CompletedProcess :=
  (subprocessRun argv none (some dockerExecTimeoutSec)).bind fun
    | .timeoutExpired =>
        raise (title ++ text " timed out after " ++ natText dockerExecTimeoutSec ++ text "s")
    | .completed result =>
        if result.returncode ≠ 0 then raise (title ++ text ": " ++ shown result)
        else .done result

def exitText (result : CompletedProcess) : Text := text "exit " ++ intText result.returncode

def kmeCurlDetail (result : CompletedProcess) : Text :=
  if result.detail ≠ [] then result.detail
  else if result.returncode = 22 then text "HTTP error (empty key pool — try again later)"
  else exitText result

def ceosCurlDetail (result : CompletedProcess) : Text :=
  if result.detail ≠ [] then result.detail else exitText result

def runKmeCurl (title container : Text) (curl : Curl) : Check CompletedProcess :=
  curlChecked title (dockerExecArgv container (kmeCurlArgv curl)) kmeCurlDetail

def runCeosKmeCurl (title container : Text) (curl : Curl) : Check CompletedProcess :=
  curlChecked title (ceosKmeCurlExecArgv container curl) ceosCurlDetail

/-- `https://ip:port/api/v1/path` -/
def apiUrl (ip : Text) (port : Nat) (path : Text) : Text :=
  text "https://" ++ ip ++ text ":" ++ natText port ++ text "/api/v1/" ++ path

def keysPath (saeId call : Text) : Text := text "keys/" ++ saeId ++ text "/" ++ call

section

variable (printable : Char → Bool) (loads : Text → Except LoadsError Json)

def assertContains (shown needle label : Text) : Check Unit :=
  if contains needle shown then .done ()
  else raise (label ++ text ": expected " ++ PyValue.reprText printable needle)

def checkKmeASaeStatus (targets : KmeTargets) : Check Unit := do
  let result ← runKmeCurl (text "kme-a SAE status") (targets.kmeContainer kmeA)
    { url := apiUrl targets.kmeAIp 8010 (keysPath kmeSaeId (text "status"))
      cert := text "/certs/sae.crt.pem"
      key := text "/certs/sae.key.pem" }
  assertContains printable result.stdout (text "\"source_KME_ID\"") (text "kme-a SAE status")
  reportKme (text "SAE status OK (master SAE " ++ kmeSaeId ++ text ")")

def checkKmeAPeerStatus (targets : KmeTargets) : Check Unit := do
  let result ← runKmeCurl (text "kme-a → kme-b peer status") (targets.kmeContainer kmeA)
    { url := apiUrl targets.kmeBIp 8020 (text "kme/status")
      cert := text "/certs/kme-a.crt.pem"
      key := text "/certs/kme-a.key.pem" }
  assertContains printable result.stdout (text "\"KME_ID\"") (text "kme-a → kme-b peer status")
  reportKme (text "peer status OK (kme-a → kme-b)")

def checkKmeBPeerStatus (targets : KmeTargets) : Check Unit := do
  let result ← runKmeCurl (text "kme-b → kme-a peer status") (targets.kmeContainer kmeB)
    { url := apiUrl targets.kmeAIp 8010 (text "kme/status")
      cert := text "/certs/kme-b.crt.pem"
      key := text "/certs/kme-b.key.pem" }
  assertContains printable result.stdout (text "\"KME_ID\"") (text "kme-b → kme-a peer status")
  reportKme (text "peer status OK (kme-b → kme-a)")

/-- `_enc_keys_pool_empty` -/
def encKeysPoolEmpty (detail : Text) : Bool :=
  contains (text "exit 22") (lower detail) || contains (text "empty key pool") (lower detail) ||
    contains (text "try again later") (lower detail)

/-- What the loop of `enc_keys_on_kme_a` catches and tries again. -/
def Failure.retried : Failure → Bool
  | .kmeCheckError message => encKeysPoolEmpty message
  | _ => false

/-- The key id and the material of the first key in the answer of `enc_keys`. -/
def firstKey : Json → Except Failure (Text × Text)
  | .object payload =>
      let missing (what : Text) : Failure := .kmeCheckError
        (text "enc_keys missing " ++ what ++ text ": " ++ (Json.object payload).repr printable)
      match payload.lookup (text "keys") with
      | some (.list (.object entry :: _)) =>
          match entry.lookup (text "key_ID"), entry.lookup (text "key") with
          | some (.str keyId), some (.str keyB64) => .ok (keyId, keyB64)
          | _, _ => .error (missing (text "key_ID/key"))
      | some (.list (_ :: _)) => .error .attributeError
      | _ => .error (missing (text "keys[]"))
  | _ => .error .attributeError

/-- The checks on the answer of `dec_keys`. -/
def onlyKey (keyId keyB64 : Text) : Json → Except Failure Unit
  | .object payload =>
      let shown := (Json.object payload).repr printable
      match payload.lookup (text "keys") with
      | some (.list [.object entry]) =>
          if !(entry.lookup (text "key_ID")).any (equalsText keyId) then
            .error (.kmeCheckError (text "dec_keys key_ID mismatch: " ++ shown))
          else if !(entry.lookup (text "key")).any (equalsText keyB64) then
            .error (.kmeCheckError (text "dec_keys material does not match enc_keys"))
          else .ok ()
      | some (.list [_]) => .error .attributeError
      | _ => .error (.kmeCheckError (text "dec_keys expected one key: " ++ shown))
  | _ => .error .attributeError

/-- `json.loads(stdout)` and the tests on the payload. -/
def payloadOf {Value : Type} (stdout : Text) (test : Json → Except Failure Value) : Check Value :=
  match (loads stdout).mapError Failure.loads |>.bind test with
  | .ok value => .done value
  | .error failure => .fail failure

/-- The number of keys is 1, and the size is in bits. -/
def encBody : Text :=
  text "\x7b\"number\": 1, \"size\": " ++ natText (kmeKeySize * 8) ++ text "\x7d"

def encCurl (targets : KmeTargets) : Curl :=
  { url := apiUrl targets.kmeAIp 8010 (keysPath kmeBSaeId (text "enc_keys"))
    cert := text "/certs/sae.crt.pem"
    key := text "/certs/sae.key.pem"
    method := text "POST"
    body := some encBody }

/-- The command of `enc_keys_on_kme_a`. -/
def encArgv (targets : KmeTargets) : List Text :=
  dockerExecArgv (targets.kmeContainer kmeA) (kmeCurlArgv (encCurl targets))

/-- The body of the loop of `enc_keys_on_kme_a`. -/
def encKeysOnce (targets : KmeTargets) : Check (Text × Text) := do
  let result ← runKmeCurl (text "kme-a enc_keys (master SAE, AES-256)") (targets.kmeContainer kmeA)
    (encCurl targets)
  let key ← payloadOf loads result.stdout (firstKey printable)
  reportKme (text "enc_keys OK (key_ID " ++ key.1 ++ text ", " ++ natText kmeKeySize ++ text " bytes)")
  return key

def encKeysOnKmeA (fuel : Nat) (targets : KmeTargets) : Check (Text × Text) := do
  let now ← monotonic
  retryBefore .monotonic (.sleep encKeysPoolPollSec) Answer.clock (now + encKeysPoolTimeoutSec)
    .outOfFuel Failure.retried (encKeysOnce printable loads targets) fuel

def decBody (keyId : Text) : Text :=
  text "\x7b\"key_IDs\": [\x7b\"key_ID\": " ++ dumpsText keyId ++ text "\x7d]\x7d"

/-- The slave SAE asks KME B, from the container of KME A. -/
def decCurl (targets : KmeTargets) (keyId : Text) : Curl :=
  { url := apiUrl targets.kmeBIp 8020 (keysPath kmeSaeId (text "dec_keys"))
    cert := text "/certs/sae-b.crt.pem"
    key := text "/certs/sae-b.key.pem"
    caCert := kmeCaCertContainer
    method := text "POST"
    body := some (decBody keyId) }

/-- The command of `dec_keys_on_kme_b`. -/
def decArgv (targets : KmeTargets) (keyId : Text) : List Text :=
  dockerExecArgv (targets.kmeContainer kmeA) (kmeCurlArgv (decCurl targets keyId))

def decKeysOnKmeB (targets : KmeTargets) (keyId keyB64 : Text) : Check Unit := do
  let result ← runKmeCurl (text "kme-b dec_keys (slave SAE, AES-256)") (targets.kmeContainer kmeA)
    (decCurl targets keyId)
  payloadOf loads result.stdout (onlyKey printable keyId keyB64)
  reportKme (text "dec_keys round-trip OK (key_ID " ++ keyId ++ text ")")

/-- A row of `host_checks`. -/
structure HostCheck where
  label : Text
  curl : Curl
  expect : Text

def hostChecks (targets : KmeTargets) : List HostCheck :=
  [ { label := text "kme-a SAE status (TLS chain verify)"
      curl :=
        { url := apiUrl targets.kmeAIp 8010 (keysPath kmeSaeId (text "status"))
          cert := ceosKmeSaeCert
          key := ceosKmeSaeKey
          caCert := ceosKmeCaCert }
      expect := text "\"source_KME_ID\"" },
    { label := text "kme-b slave SAE status (TLS chain verify)"
      curl :=
        { url := apiUrl targets.kmeBIp 8020 (keysPath kmeBSaeId (text "status"))
          cert := ceosKmeSaeBCert
          key := ceosKmeSaeBKey
          caCert := ceosKmeCaCert }
      expect := text "\"stored_key_count\"" } ]

/-- The body of the loop of `check_ceos_host_kme_tls`. -/
def checkHost (targets : KmeTargets) (node : Text) (check : HostCheck) : Check Unit := do
  let result ← runCeosKmeCurl (node ++ text " " ++ check.label) (targets.ceosContainer node) check.curl
  assertContains printable result.stdout check.expect (node ++ text " " ++ check.label)
  reportHost check.label

def checkCeosHostKmeTls (targets : KmeTargets) (node : Text) : Check Unit :=
  forEach (hostChecks targets) (checkHost printable targets node)

def ceosKmeNodes : List Text := [LabNode.ceos1Both.name, LabNode.ceos3Qkd.name]

/-- The hosts of a run, in order. -/
def sortedHosts (hostNodes : Option (List Text)) : List Text :=
  (hostNodes.getD ceosKmeNodes).insertionSort (· ≤ ·)

/-- The checks of `run_kme_checks` for `kme-a`, with the key they end with. -/
def checkKmeA (fuel : Nat) (targets : KmeTargets) : Check (Text × Text) := do
  checkKmeASaeStatus printable targets
  checkKmeAPeerStatus printable targets
  encKeysOnKmeA printable loads fuel targets

/-- The checks for `kme-b`. -/
def checkKmeB (targets : KmeTargets) (key : Option (Text × Text)) : Check Unit := do
  checkKmeBPeerStatus printable targets
  match key with
  | none => raise (text "enc/dec round-trip requires kme-a checks (run both KME nodes)")
  | some (keyId, keyB64) => decKeysOnKmeB printable loads targets keyId keyB64

/-- The first `if` of `run_kme_checks`. -/
def askedA (fuel : Nat) (targets : KmeTargets) (kmeNodes : List Text) : Check (Option (Text × Text)) :=
  if kmeNodes.contains kmeA then (checkKmeA printable loads fuel targets).bind fun key => .done (some key)
  else .done none

/-- The second one. -/
def askedB (targets : KmeTargets) (kmeNodes : List Text) (key : Option (Text × Text)) : Check Unit :=
  if kmeNodes.contains kmeB then checkKmeB printable loads targets key else .done ()

/-- `run_kme_checks` from the targets on. -/
def checkTargets (fuel : Nat) (targets : KmeTargets) (kmeNodes hosts : List Text) : Check Unit := do
  let key ← askedA printable loads fuel targets kmeNodes
  askedB printable loads targets kmeNodes key
  forEach hosts (checkCeosHostKmeTls printable targets)

def runKmeChecks (fuel : Nat) (clabName mgmtSubnet : Text) (kmeNodes : List Text)
    (hostNodes : Option (List Text)) : Check Unit :=
  match mgmtIpsForSubnet (some mgmtSubnet) with
  | .error error => .fail (.address error)
  | .ok ips =>
      checkTargets printable loads fuel ⟨clabName, ips .kmeA, ips .kmeB⟩ kmeNodes (sortedHosts hostNodes)

end

end QuantumSafe.KmeChecks
