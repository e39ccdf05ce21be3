import QuantumSafe.JsonTransports
import QuantumSafe.MacsecSession
import QuantumSafe.SshProbe
import QuantumSafe.SslProfileChecks
import QuantumSafe.WireProbes

set_option autoImplicit false

/- `lab/test_pqc_connections.py`: the checks and probes of the switches for eAPI, SSH, RadSec, gNMI,
RESTCONF and eos-sdk-rpc, and the runs of them for the first three (`lab/test_radsec.py`). -/
namespace QuantumSafe.PqcSession

open PyText PyJson Interaction Interaction.Program DockerCalls LabSession CeosSession WireProbes
open PyRegex (WordClass)
open CeosContract (Ceos eapiSslProfile gnmiSslProfile restconfSslProfile restconfPort eossdkrpcPort sshPqcKex
  sshPqcCiphers)
open CeosJson (CeosJsonError assertJsonContains jsonTruthy)
open JsonTransports (jsonTransportSslProfile)
open LabContract (radsecPort tlsPqcGroup)
open MacsecSession (ceosJsonMessage)
open Polling (Step)
open ProbeClient (ProbeClientMode curlEapiCommand curlEapiArgv sshPqcCommand sshPqcArgv)
open RenderTopo (IpFamily LabTargets labTargetsForSubnet)
open SshProbe (SshProbeError SshResult probeSshPqc extractSshKex extractSshCipher)
open TlsWire (CheckStatus TlsWireResult lastChars)

/-- `CEOS_NODES` -/
def ceosNodes : List Ceos := [.ceos1Both, .ceos2Pqc, .ceos3Qkd]

def gnmiPort : Nat := 6030
def gnmiGetPath : Text := text "/system/config/hostname"
def eossdkrpcSslProfile : Text := gnmiSslProfile
def sshPqcUser : Text := text "admin"
def radsecAaaSuccessMarker : Text := text "successfully authenticated"
def radsecAaaPollIntervalSec : Nat := 2
def radsecAaaPollAttempts : Nat := 15

def raisePqc {Value : Type} (message : Text) : Check Value := .fail (.pqcConnectionError message)

/-- `report_live` with `probe_client=True`. -/
def reportProbe (mode : ProbeClientMode) (detail : Text) (status : CheckStatus := .ok) : Check Unit :=
  reportCheck status (liveCheckPrefix mode) detail

def ceosContainer (targets : LabTargets) (node : Ceos) : Text := containerAt targets node.node

/-- `_ssh_cipher_line` -/
def sshCipherLine (sshCfg : Text) : Option Text :=
  (splitlines sshCfg).findSome? fun line =>
    if startswith (strip line) (text "cipher ") then some (strip ((strip line).drop 7)) else none

section Checks

variable (printable : Char → Bool) (loader : Loader) (targets : LabTargets)

def assertContains (shown needle label : Text) : Check Unit :=
  if contains needle shown then .done ()
  else raisePqc (label ++ text ": expected " ++ PyValue.reprText printable needle ++ text " in output")

/-- A `CeosJsonError` becomes a `PqcConnectionError` with its text. -/
def required (verdict : Except CeosJsonError Unit) : Check Unit :=
  match verdict with
  | .ok _ => .done ()
  | .error error => raisePqc (ceosJsonMessage printable error)

def profileCommand (profile : Text) : Text :=
  text "show management security ssl profile " ++ profile ++ text " detail"

def checkSwitchSslProfile (node : Ceos) (profile : Text) : Check Unit := do
  let detail ← ceosShowJson loader (ceosContainer targets node) (profileCommand profile)
  required printable (SslProfileChecks.checkSwitchSslProfile node.name profile detail)

def checkEapiConfig (node : Ceos) : Check Unit := do
  checkSwitchSslProfile printable loader targets node eapiSslProfile
  let http ← ceosShowJson loader (ceosContainer targets node) (text "show management api http-commands")
  required printable (assertJsonContains http (text "EAPI") (node.name ++ text " eAPI binding"))
  reportConfig (text "eAPI ssl profile EAPI valid (" ++ tlsPqcGroup ++ text "), HTTPS bound")

def reprOption : Option Text → Text
  | some value => PyValue.reprText printable value
  | none => text "None"

def checkSshPqcConfig (node : Ceos) : Check Unit := do
  let sshCfg ← ceosCli (ceosContainer targets node)
    (text "enable\nshow running-config section management ssh\n")
  assertContains printable sshCfg sshPqcKex (node.name ++ text " SSH PQC KEX")
  if sshCipherLine sshCfg ≠ some sshPqcCiphers then
    raisePqc (node.name ++ text " SSH PQC cipher: expected " ++ PyValue.reprText printable sshPqcCiphers ++
      text " only, got " ++ reprOption printable (sshCipherLine sshCfg))
  else do
    assertContains printable sshCfg (text "vrf MGMT") (node.name ++ text " SSH vrf MGMT")
    let mgmtStatus ← ceosCli (ceosContainer targets node) (text "enable\nshow management ssh vrf MGMT\n")
    assertContains printable mgmtStatus (text "SSHD status for VRF MGMT: enabled")
      (node.name ++ text " SSH server in vrf MGMT")
    let defaultStatus ← ceosCli (ceosContainer targets node) (text "enable\nshow management ssh\n")
    assertContains printable defaultStatus (text "SSHD status for Default VRF: disabled")
      (node.name ++ text " SSH server on default VRF")
    reportConfig (text "SSH " ++ sshPqcKex ++ text ", cipher " ++ sshPqcCiphers ++
      text ", vrf MGMT only (default VRF disabled)")

def checkRadsecConfig (node : Ceos) : Check Unit := do
  checkSwitchSslProfile printable loader targets node (text "RADSEC")
  let radiusCfg ← ceosCli (ceosContainer targets node) (text "enable\nshow running-config | section radius\n")
  assertContains printable radiusCfg (text "tls ssl-profile RADSEC") (node.name ++ text " RadSec transport")
  reportConfig (text "RadSec ssl profile RADSEC valid (" ++ tlsPqcGroup ++ text "), tls ssl-profile RADSEC")

def checkRadiusConfig : Check Unit := do
  let output ← dockerExec (containerAt targets .radius) (text "netstat -ltn")
  assertContains printable output.stdout (text ":" ++ natText radsecPort) (text "radius RadSec listener")
  let groups ← dockerExec (containerAt targets .radius) (text "openssl list -tls-groups")
  assertContains printable groups.stdout tlsPqcGroup (text "radius OpenSSL groups")
  reportConfig (text "RadSec listener :" ++ natText radsecPort)
  reportConfig (text "OpenSSL groups include " ++ tlsPqcGroup)

def checkGnmiConfig (node : Ceos) : Check Unit := do
  checkSwitchSslProfile printable loader targets node gnmiSslProfile
  let gnmi ← ceosShowJson loader (ceosContainer targets node) (text "show management api gnmi")
  required printable (assertJsonContains gnmi gnmiSslProfile (node.name ++ text " gNMI binding"))
  let detail ← ceosShowJson loader (ceosContainer targets node) (profileCommand gnmiSslProfile)
  required printable (assertJsonContains detail (text "radsec-ca.pem") (node.name ++ text " GNMI mTLS trust"))
  reportConfig (text "gNMI ssl profile " ++ gnmiSslProfile ++ text " valid (" ++ tlsPqcGroup ++
    text "), mTLS trust, grpc bound")

def checkRestconfConfig (node : Ceos) : Check Unit := do
  checkSwitchSslProfile printable loader targets node restconfSslProfile
  let restconf ← ceosShowJson loader (ceosContainer targets node) (text "show management api restconf")
  required printable
    (assertJsonContains restconf restconfSslProfile (node.name ++ text " RESTCONF binding"))
  reportConfig (text "RESTCONF ssl profile " ++ restconfSslProfile ++ text " valid (" ++ tlsPqcGroup ++
    text "), HTTPS bound")

/-- The tests of `check_eossdkrpc_config` on the service. -/
def eossdkrpcService (node : Ceos) (rpc : Json) : Check Unit :=
  if jsonTransportSslProfile rpc ≠ some eossdkrpcSslProfile then
    raisePqc (node.name ++ text " eos-sdk-rpc binding: expected sslProfile " ++
      PyValue.reprText printable eossdkrpcSslProfile ++ text ", got " ++
      reprOption printable (jsonTransportSslProfile rpc))
  else if !jsonTruthy rpc (text "enabled") then
    raisePqc (node.name ++ text " eos-sdk-rpc: expected enabled service")
  else .done ()

def checkEossdkrpcConfig (node : Ceos) : Check Unit := do
  checkSwitchSslProfile printable loader targets node eossdkrpcSslProfile
  let cfg ← ceosCli (ceosContainer targets node) (text "enable\nshow running-config | section eos-sdk-rpc\n")
  assertContains printable cfg (text "ssl profile " ++ eossdkrpcSslProfile)
    (node.name ++ text " eos-sdk-rpc config")
  let rpc ← ceosShowJson loader (ceosContainer targets node) (text "show management api eos-sdk-rpc")
  eossdkrpcService printable node rpc
  reportConfig (text "eos-sdk-rpc ssl profile " ++ eossdkrpcSslProfile ++ text " valid (" ++ tlsPqcGroup ++
    text "), grpc bound")

end Checks

section Probes

variable (printable : Char → Bool) (mode : ProbeClientMode) (targets : LabTargets) (node : Ceos)
  (family : IpFamily)

/-- `_tls_probe_common` -/
def tlsProbeCommon (port : Nat) (mtls : Bool) : Endpoint :=
  endpointAt mode (targets.ceosMgmtIp node family) (natText port) (if mtls then some node.name else none)

def probeGnmiTls [WordClass] : Check TlsWireResult :=
  strictProbe mode targets.clabName (liveCheckPrefix mode) (tlsProbeCommon mode targets node family gnmiPort false)
    (text "gNMI gRPC TLS handshake") (node.name ++ text " gNMI TLS") family

def probeGnmiMtls [WordClass] : Check TlsWireResult :=
  strictProbe mode targets.clabName (liveCheckPrefix mode) (tlsProbeCommon mode targets node family gnmiPort true)
    (text "gNMI gRPC mTLS handshake") (node.name ++ text " gNMI mTLS") family

def probeRestconfTls [WordClass] : Check TlsWireResult :=
  strictProbe mode targets.clabName (liveCheckPrefix mode)
    (tlsProbeCommon mode targets node family restconfPort false) (text "RESTCONF HTTPS handshake")
    (node.name ++ text " RESTCONF TLS") family

def probeEapiHttps [WordClass] : Check TlsWireResult :=
  strictProbe mode targets.clabName (liveCheckPrefix mode) (tlsProbeCommon mode targets node family 443 false)
    (text "eAPI HTTPS handshake") (node.name ++ text " eAPI HTTPS") family

/-- The address is that of the collector, the certificate that of the switch. -/
def radsecEndpoint : Endpoint :=
  endpointAt mode (targets.serviceIp .radius family) (natText radsecPort) (some node.name)

def probeRadsecCollectorTls [WordClass] : Check TlsWireResult :=
  strictProbe mode targets.clabName (liveCheckPrefix mode) (radsecEndpoint mode targets node family)
    (text "RadSec collector TLS handshake") (node.name ++ text " RadSec collector TLS") family

def probeEossdkrpcTls [WordClass] : Check (Option TlsWireResult) :=
  match family with
  | .ipv6 =>
      (reportProbe mode (text "eos-sdk-rpc gRPC mTLS handshake (" ++ familyLabel family ++
        text "), skipped — local interface Management0 binds IPv4 only") .skip).bind fun _ => .done none
  | .ipv4 =>
      (warnProbe mode targets.clabName (liveCheckPrefix mode)
        (tlsProbeCommon mode targets node family eossdkrpcPort true) (text "eos-sdk-rpc gRPC mTLS handshake")
        (node.name ++ text " eos-sdk-rpc mTLS") family eossdkrpcPort).bind fun result => .done (some result)

/-- `gnmi_get_command` -/
def gnmiGetCommand : Text :=
  text "gnmic -a " ++ PyValue.reprText printable (hostport (targets.ceosMgmtIp node family) (natText gnmiPort)) ++
    text " --tls-ca " ++ probeCaPath mode ++ text " --tls-cert " ++ probeClientCertPath node.name mode ++
    text " --tls-key " ++ probeClientKeyPath node.name mode ++
    text " --tls-version 1.3 --tls-min-version 1.3 --tls-max-version 1.3 get --path " ++
    PyValue.reprText printable gnmiGetPath ++ text " --format json"

/-- `run_gnmi_get`: the host has no client for it. -/
def runGnmiGet : Check CompletedProcess :=
  dockerExecProbe mode targets.clabName (gnmiGetCommand printable mode targets node family) false

def probeGnmiGet (tlsWire : TlsWireResult) : Check Unit :=
  (runGnmiGet printable mode targets node family).bind fun result =>
    let body := strip (result.stdout ++ result.stderr)
    if result.returncode ≠ 0 then
      let detail := if body = [] then text "gnmic exit " ++ intText result.returncode else body
      raisePqc (node.name ++ text " gNMI GET: " ++ lastChars 500 detail)
    else if !contains node.name body then
      raisePqc (node.name ++ text " gNMI GET: expected hostname " ++ PyValue.reprText printable node.name ++
        text " in response: " ++ body.take 200)
    else reportProbe mode (text "gNMI gRPC GET hostname (" ++ familyLabel family ++ text ", " ++
      rpcTlsWireSuffix (some tlsWire) ++ text ")")

def eapiUrl : Text :=
  text "https://" ++ hostport (targets.ceosMgmtIp node family) (natText 443) ++ text "/command-api"

def eapiPayload : Text :=
  text "\x7b\"jsonrpc\":\"2.0\",\"method\":\"runCmds\"," ++
    text "\"params\":\x7b\"version\":1,\"cmds\":[\"show version\"],\"format\":\"json\"\x7d,\"id\":1\x7d"

def eapiUser : Text := text "admin:"

/-- `run_curl_eapi` -/
def runCurlEapi : Check CompletedProcess :=
  match mode with
  | .host => runProcess (curlEapiArgv (eapiUrl targets node family) eapiPayload eapiUser) none
  | _ => dockerExecProbe mode targets.clabName
      (curlEapiCommand printable (eapiUrl targets node family) eapiPayload eapiUser mode)

/-- What `probe_eapi` takes for an answer. -/
def eapiAnswered (result : CompletedProcess) : Bool :=
  contains (text "modelName") (strip result.stdout) ||
    contains (text "version") (lower (strip result.stdout))

def probeEapi : Check Unit :=
  (runCurlEapi printable mode targets node family).bind fun result =>
    let body := strip result.stdout
    if result.returncode ≠ 0 ∨ body = [] then
      let detail :=
        if strip result.stderr ≠ [] then strip result.stderr
        else if body ≠ [] then body
        else text "curl exit " ++ intText result.returncode
      raisePqc (node.name ++ text " eAPI command-api: " ++ detail)
    else if !eapiAnswered result then
      raisePqc (node.name ++ text " eAPI command-api: unexpected response: " ++ body.take 200)
    else reportProbe mode (text "eAPI command-api runCmds (" ++ familyLabel family ++ text ")")

/-- `ssh_probe_mode` -/
def sshProbeMode : ProbeClientMode → ProbeClientMode
  | .host => .host
  | _ => .testRunner

def sshRemoteCommand : Text := text "show hostname | json"

/-- The argument list that `run_ssh_pqc_probe` runs. -/
def sshArgv : List Text :=
  match probeNodeName (sshProbeMode mode) with
  | none => sshPqcArgv (targets.ceosMgmtIp node family) sshPqcUser sshRemoteCommand sshPqcKex
  | some probeNode => dockerShell (containerOf targets.clabName probeNode)
      (sshPqcCommand printable (targets.ceosMgmtIp node family) sshPqcUser sshRemoteCommand sshPqcKex)

/-- `run_ssh_pqc_probe` -/
def runSshPqcProbe : Check CompletedProcess :=
  match sshProbeMode mode with
  | .host => runProcess (sshPqcArgv (targets.ceosMgmtIp node family) sshPqcUser sshRemoteCommand sshPqcKex) none
  | other => dockerExecProbe other targets.clabName
      (sshPqcCommand printable (targets.ceosMgmtIp node family) sshPqcUser sshRemoteCommand sshPqcKex)

def sshMessage : SshProbeError → Text
  | .exited shown mgmtIp detail => shown ++ text " SSH (" ++ mgmtIp ++ text "): " ++ detail
  | .kex shown mgmtIp expected kex cipher => shown ++ text " SSH (" ++ mgmtIp ++ text "): expected kex " ++
      PyValue.reprText printable expected ++ text ", negotiated " ++ reprOption printable kex ++
      text ", cipher " ++ reprOption printable cipher
  | .cipher shown mgmtIp expected cipher => shown ++ text " SSH (" ++ mgmtIp ++ text "): expected cipher " ++
      PyValue.reprText printable expected ++ text ", negotiated " ++ reprOption printable cipher
  | .hostname shown => shown ++ text " SSH hostname: expected " ++ PyValue.reprText printable shown ++
      text " in output"

/-- `format_ssh_wire_summary` -/
def formatSshWireSummary (kex cipher : Option Text) (expectedKex : Text) : Text :=
  let parts := ((nonEmpty kex).map fun name => text "KEX " ++ name).toList ++
    ((nonEmpty cipher).map fun name => text "cipher " ++ name).toList
  let summary := if parts = [] then text "KEX/cipher not parsed" else join (text ", ") parts
  if kex = some expectedKex then summary else text "not PQC-safe — " ++ summary

/-- `probe_ssh_pqc` -/
def probeSsh : Check Unit :=
  (runSshPqcProbe printable mode targets node family).bind fun result =>
    let ssh : SshResult := ⟨result.returncode, result.stdout, result.stderr⟩
    match probeSshPqc node.name (targets.ceosMgmtIp node family) ssh with
    | .error error => raisePqc (sshMessage printable error)
    | .ok _ => reportCheck .ok (liveCheckPrefix (sshProbeMode mode)) (text "SSH (" ++ familyLabel family ++
        text ", " ++ formatSshWireSummary (extractSshKex ssh.output) (extractSshCipher ssh.output) sshPqcKex ++
        text ")")

def radsecAaaTestCommands (radiusAddr : Text) : Text :=
  text "enable\ntest aaa group RADIUS server " ++ radiusAddr ++ text " tls port " ++ natText radsecPort ++
    text " vrf MGMT\n"

def radsecAaaTestSucceeded (output : Text) : Bool := contains radsecAaaSuccessMarker output

/-- One attempt of `probe_radsec_from_switch`. -/
def radsecAttempt (index : Nat) : Check (Step Text Unit) :=
  (MacsecSession.pauseBefore index radsecAaaPollIntervalSec).bind fun _ =>
    (ceosCli (ceosContainer targets node) (radsecAaaTestCommands (targets.serviceIp .radius family))).bind
      fun output => if radsecAaaTestSucceeded output then .done (.left ()) else .done (.again output)

def probeRadsecFromSwitch : Check Unit :=
  (pollTimes (radsecAttempt targets node family) radsecAaaPollAttempts 0 none).bind fun
    | .inr _ => reportLive (text "RadSec AAA via test aaa (" ++ familyLabel family ++ text ") → radius:" ++
        natText radsecPort)
    | .inl last => assertContains printable (last.getD []) radsecAaaSuccessMarker
        (node.name ++ text " RadSec AAA test (" ++ familyLabel family ++ text ")")

/-- The `Reachability` check of `run_radsec_checks`. -/
def pingRadius : Check Unit :=
  let addr := targets.serviceIp .radius family
  let name := node.name ++ text " ping radius " ++ familyLabel family ++ text " (" ++ addr ++ text ")"
  (runProcess (cliArgv (ceosContainer targets node))
      (some (text "enable\nping vrf MGMT " ++ addr ++ text " repeat 3\n"))).bind fun result =>
    if result.returncode ≠ 0 ∨ contains (text "0% packet loss") result.stdout = false then
      raisePqc (name ++ text " failed" ++
        if result.detail = [] then [] else text ": " ++ result.detail)
    else reportOk (text "[live]") name

end Probes

section Runs

variable (printable : Char → Bool) (loader : Loader) (mode : ProbeClientMode)

def configChecks (skip : Bool) (check : Check Unit) : Check Unit := if skip then .done () else check

def eapiNode [WordClass] (targets : LabTargets) (skipConfig : Bool) (node : Ceos) : Check Unit :=
  (configChecks skipConfig (checkEapiConfig printable loader targets node)).bind fun _ =>
    forEach ipFamilies fun family =>
      (probeEapiHttps mode targets node family).bind fun _ => probeEapi printable mode targets node family

def sshNode (targets : LabTargets) (skipConfig : Bool) (node : Ceos) : Check Unit :=
  (configChecks skipConfig (checkSshPqcConfig printable targets node)).bind fun _ =>
    forEach ipFamilies (probeSsh printable mode targets node)

def radsecNode [WordClass] (targets : LabTargets) (skipConfig : Bool) (node : Ceos) : Check Unit :=
  (configChecks skipConfig (checkRadsecConfig printable loader targets node)).bind fun _ =>
    (configChecks skipConfig (forEach ipFamilies (pingRadius targets node))).bind fun _ =>
      forEach ipFamilies fun family =>
        (probeRadsecCollectorTls mode targets node family).bind fun _ =>
          probeRadsecFromSwitch printable targets node family

/-- A run on the targets of a subnet. -/
def onTargets (clabName mgmtSubnet : Text) (run : LabTargets → Check Unit) : Check Unit :=
  match labTargetsForSubnet clabName mgmtSubnet with
  | .error error => .fail (.address error)
  | .ok targets => run targets

def runEapiChecks [WordClass] (clabName mgmtSubnet : Text) (skipConfig : Bool) : Check Unit :=
  onTargets clabName mgmtSubnet fun targets =>
    forEach ceosNodes (eapiNode printable loader mode targets skipConfig)

def runSshChecks (clabName mgmtSubnet : Text) (skipConfig : Bool) : Check Unit :=
  onTargets clabName mgmtSubnet fun targets =>
    forEach ceosNodes (sshNode printable mode targets skipConfig)

def runRadsecChecks [WordClass] (clabName mgmtSubnet : Text) (skipConfig : Bool) : Check Unit :=
  onTargets clabName mgmtSubnet fun targets =>
    (configChecks skipConfig (checkRadiusConfig printable targets)).bind fun _ =>
      forEach ceosNodes (radsecNode printable loader mode targets skipConfig)

end Runs

end QuantumSafe.PqcSession
