import QuantumSafe.CeosSession
import QuantumSafe.MacsecChecks
import QuantumSafe.MkaParticipants
import QuantumSafe.PingJudges
import QuantumSafe.PyValue

set_option autoImplicit false

/- The runs of `lab/test_macsec_dot1x.py`: 802.1X and MKA on the link between two switches,
a wait for the next authentication, and static MACsec on the QuaDRA link. -/
namespace QuantumSafe.MacsecSession

open PyText PyJson Interaction Interaction.Program DockerCalls LabSession CeosSession
open CeosContract (Ceos ceosDataPlane macsecProfile dot1xSupplicantProfile dot1xEapSslProfile
  dot1xReauthPeriodSec quadraMacsecProfileMaster quadraMacsecProfileSlave)
open CeosJson (CeosJsonError jsonTreeContains jsonTruthy)
open MacsecChecks (MacsecCheckError dot1xEapIdentity macsecInterface macsecHasActiveKey)
open MkaParticipants (MkaError MkaRaised examine mkaPollAttempts)
open PingJudges (pingTextSuccess)
open Polling (Step)
open RenderTopo (LabTargets labTargetsForSubnet)
open SymbolicText (fill)

def authenticator : Ceos := .ceos1Both
def supplicant : Ceos := .ceos2Pqc
def pqcEapGroup : Text := text "X25519MLKEM768"

/-- `INTER_SWITCH_PEER`: the address of the other end, which no placeholder is in. -/
def interSwitchPeer (peer : Ceos) : Text :=
  splitHead (text "/") (fill (fun _ => []) (ceosDataPlane peer).eth1)

def quadraMaster : Ceos := authenticator
def quadraSlave : Ceos := .ceos3Qkd

/-- `QUADRA_PEER_IP` -/
def quadraPeerIp : Ceos → Option Text
  | .ceos1Both => some (text "10.255.0.6")
  | .ceos3Qkd => some (text "10.255.0.5")
  | .ceos2Pqc => none

def quadraMasterIntf : Text := text "Ethernet2"
def quadraSlaveIntf : Text := text "Ethernet1"
def reauthWaitBufferSec : Nat := 15
def staticMacsecPollIntervalSec : Nat := 2
def staticMacsecPollAttempts : Nat := 15
def mkaPollIntervalSec : Nat := 2

def raiseMacsec {Value : Type} (message : Text) : Check Value := .fail (.macsecCheckError message)

section Messages

variable (printable : Char → Bool)

def ceosJsonMessage : CeosJsonError → Text
  | .expectedIn label needle =>
      label ++ text ": expected " ++ PyValue.reprText printable needle ++ text " in JSON output"
  | .expectedCkn => text "expected CKN in mac security participants detail"

def macsecMessage : MacsecCheckError → Text
  | .json error => ceosJsonMessage printable error
  | .unprotected node interface =>
      node ++ text ": expected protected MACsec traffic on " ++ interface
  | .noActiveSak node => node ++ text ": expected active SAK (Key in use)"

def mkaMessage : MkaError → Text
  | .notSuccessful node => node ++ text ": expected successful MKA participant"
  | .noLivePeers node => node ++ text ": MKA live peer list is empty"
  | .ckn error => ceosJsonMessage printable error
  | .checkFailed node => node ++ text ": MKA participants check failed"

end Messages

section Checks

variable (printable : Char → Bool) (loader : Loader)

def judged (verdict : Except MacsecCheckError Unit) : Check Unit :=
  match verdict with
  | .ok _ => .done ()
  | .error error => raiseMacsec (macsecMessage printable error)

def contained (found : Bool) (needle label : Text) : Check Unit :=
  if found then .done ()
  else raiseMacsec (label ++ text ": expected " ++ PyValue.reprText printable needle ++ text " in output")

/-- `_assert_contains` -/
def assertContains (shown needle label : Text) : Check Unit :=
  contained printable (contains needle shown) needle label

/-- `_assert_contains_ci` -/
def assertContainsCi (shown needle label : Text) : Check Unit :=
  contained printable (contains (lower needle) (lower shown)) needle label

/-- Both switches are asked for the configuration of `MACSEC_INTERFACE`. -/
def interfaceConfig (interface : Text) : Text :=
  text "enable\nshow running-config interface " ++ interface ++ text "\n"

def checkAuthenticatorConfig (container : Text) : Check Unit := do
  let cfg ← ceosCli container (text "enable\nshow running-config | include dot1x\n")
  assertContainsCi printable cfg (text "aaa authentication dot1x default group RADIUS")
    (authenticator.name ++ text " dot1x aaa")
  assertContains printable cfg (text "dot1x system-auth-control")
    (authenticator.name ++ text " dot1x system-auth-control")
  let intf ← ceosCli container (interfaceConfig macsecInterface)
  assertContains printable intf (text "dot1x pae authenticator")
    (authenticator.name ++ text " dot1x authenticator")
  assertContains printable intf (text "dot1x reauthentication")
    (authenticator.name ++ text " dot1x reauthentication")
  assertContains printable intf (text "dot1x timeout reauth-period " ++ natText dot1xReauthPeriodSec)
    (authenticator.name ++ text " dot1x reauth period")
  assertContains printable intf (text "mac security profile " ++ macsecProfile)
    (authenticator.name ++ text " macsec profile")
  reportConfig (text "dot1x authenticator with reauth every " ++ natText dot1xReauthPeriodSec ++
    text "s, mac security profile " ++ macsecProfile ++ text ", RadSec AAA group RADIUS")

def checkSupplicantConfig (container : Text) : Check Unit := do
  let cfg ← ceosCli container (text "enable\nshow running-config | section dot1x\n")
  assertContains printable cfg (text "supplicant profile " ++ dot1xSupplicantProfile)
    (supplicant.name ++ text " supplicant profile")
  assertContains printable cfg (text "identity " ++ dot1xEapIdentity) (supplicant.name ++ text " EAP identity")
  assertContains printable cfg (text "eap-method tls") (supplicant.name ++ text " EAP-TLS")
  assertContains printable cfg (text "ssl profile " ++ dot1xEapSslProfile)
    (supplicant.name ++ text " DOT1X ssl profile")
  let intf ← ceosCli container (interfaceConfig macsecInterface)
  assertContains printable intf (text "dot1x pae supplicant " ++ dot1xSupplicantProfile)
    (supplicant.name ++ text " dot1x supplicant")
  reportConfig (text "dot1x supplicant " ++ dot1xSupplicantProfile ++ text ", EAP-TLS + ssl profile " ++
    dot1xEapSslProfile)

/-- The shows come one after the other, with the tests of the first one between them. -/
def checkAuthenticatorDot1x (container : Text) : Check Unit := do
  let hosts ← ceosShowJson loader container (text "show dot1x hosts")
  judged printable (MacsecChecks.assertContains hosts dot1xEapIdentity
    (authenticator.name ++ text " dot1x host identity"))
  judged printable (MacsecChecks.assertContains hosts (text "SUCCESS")
    (authenticator.name ++ text " dot1x host state"))
  let detail ← ceosShowJson loader container (text "show dot1x interface " ++ macsecInterface ++ text " detail")
  judged printable (MacsecChecks.assertContains detail (text "authorized")
    (authenticator.name ++ text " dot1x port authorized") false)
  reportLive (text "802.1X host " ++ dot1xEapIdentity ++ text " SUCCESS, port Authorized")

/-- The tests of `check_supplicant_dot1x`. -/
def supplicantState (output : Json) : Except MacsecCheckError Unit := do
  MacsecChecks.assertContains output dot1xEapIdentity (supplicant.name ++ text " dot1x identity")
  MacsecChecks.assertContains output (text "success") (supplicant.name ++ text " dot1x status")
  MacsecChecks.assertContains output (text "tls") (supplicant.name ++ text " EAP method")
  MacsecChecks.assertContains output dot1xEapSslProfile (supplicant.name ++ text " ssl profile")
  MacsecChecks.assertContains output pqcEapGroup (supplicant.name ++ text " EAP-TLS PQC group")

def checkSupplicantDot1x (container : Text) : Check Unit := do
  let output ← ceosShowJson loader container (text "show dot1x supplicant")
  judged printable (supplicantState output)
  reportLive (text "802.1X supplicant success (EAP-TLS, " ++ pqcEapGroup ++ text ")")

def checkMacsecInterface (container node : Text) : Check Unit := do
  let output ← ceosShowJson loader container
    (text "show mac security interface " ++ macsecInterface ++ text " detail")
  judged printable (MacsecChecks.checkMacsecInterface output node)
  reportLive (text "MACsec controlled port up, traffic encrypted on " ++ macsecInterface)

def participantsCommand : Text := text "show mac security participants detail"

/-- A pause before every attempt but the first one. -/
def pauseBefore (index seconds : Nat) : Check Unit := if index = 0 then .done () else sleep seconds

theorem tells_pauseBefore {allowed : TlsWire.CheckStatus → Prop} (index seconds : Nat) :
    Tells allowed 0 (pauseBefore index seconds) := by
  unfold pauseBefore
  split
  · exact Tells.done _
  · exact tells_sleep _

/-- One attempt of `check_mka_participants`. -/
def mkaAttempt (container node : Text) (index : Nat) : Check (Step MkaError (Except (MkaRaised Raised) Text)) :=
  (pauseBefore index mkaPollIntervalSec).bind fun _ =>
    (ceosShowJson loader container participantsCommand).bind fun output => .done (examine node output)

def checkMkaParticipants (container node : Text) : Check Text :=
  (pollTimes (mkaAttempt loader container node) mkaPollAttempts 0 none).bind fun
    | .inr (.ok ckn) =>
        (reportLive (text "MKA participant CKN " ++ ckn ++ text ", Success: True")).bind fun _ => .done ckn
    | .inr (.error (.show error)) => .fail error
    | .inr (.error (.check error)) => raiseMacsec (mkaMessage printable error)
    | .inl last => raiseMacsec (mkaMessage printable (last.getD (.checkFailed node)))

def loginCommand : Text := text "grep -c 'Auth: Login OK' /var/log/radius/radius.log 2>/dev/null || true"

/-- `int(result.stdout.strip() or 0)` -/
def loginCount (result : CompletedProcess) : Option Int :=
  if strip result.stdout = [] then some 0 else PyInt.parseInt (strip result.stdout)

def countRadiusLoginOk (radiusContainer : Text) : Check Int :=
  (dockerExec radiusContainer loginCommand false).bind fun result =>
    match loginCount result with
    | some count => .done count
    | none => .fail .valueError

/-- `probe_inter_switch_ping` -/
def probeInterSwitchPing (container node peerIp interface : Text) : Check Unit := do
  let output ← ceosCli container (text "enable\nping " ++ peerIp ++ text " repeat 3\n")
  if pingTextSuccess output then
    reportLive (text "ping " ++ peerIp ++ text " over encrypted " ++ interface ++ text " (0% loss)")
  else raiseMacsec (node ++ text " ping " ++ peerIp ++ text " over MACsec link: no successful replies")

def reauthWaitSec : Nat := dot1xReauthPeriodSec + reauthWaitBufferSec

def cknNote (baselineCkn ckn : Text) : Text :=
  if ckn = baselineCkn then text "CKN unchanged (" ++ ckn ++ text ")"
  else text "CKN rotated " ++ baselineCkn ++ text " → " ++ ckn ++ text " (peers match)"

def cknMismatch (authCkn suppCkn : Text) : Text :=
  authenticator.name ++ text "=" ++ PyValue.reprText printable authCkn ++ text " vs " ++ supplicant.name ++
    text "=" ++ PyValue.reprText printable suppCkn

/-- The end of `check_dot1x_reauth_cycle`, from the second count on. -/
def countAgain (radiusContainer : Text) (baselineOk : Int) (baselineCkn ckn : Text) : Check Unit :=
  (countRadiusLoginOk radiusContainer).bind fun afterOk =>
    if afterOk ≤ baselineOk then
      raiseMacsec (text "expected additional RADIUS Login OK after " ++ natText reauthWaitSec ++
        text "s reauth wait (baseline " ++ intText baselineOk ++ text ", after " ++ intText afterOk ++ text ")")
    else
      reportLive (text "802.1X reauth cycle OK — port Authorized, " ++ cknNote baselineCkn ckn ++
        text ", RADIUS Login OK count " ++ intText baselineOk ++ text " → " ++ intText afterOk)

def checkDot1xReauthCycle (radiusContainer authContainer suppContainer baselineCkn : Text) : Check Unit :=
  (countRadiusLoginOk radiusContainer).bind fun baselineOk =>
    (sleep reauthWaitSec).bind fun _ =>
      (checkAuthenticatorDot1x printable loader authContainer).bind fun _ =>
        (checkSupplicantDot1x printable loader suppContainer).bind fun _ =>
          (checkMkaParticipants printable loader authContainer authenticator.name).bind fun authCkn =>
            (checkMkaParticipants printable loader suppContainer supplicant.name).bind fun suppCkn =>
              if authCkn ≠ suppCkn then
                raiseMacsec (text "CKN mismatch after reauth: " ++ cknMismatch printable authCkn suppCkn ++
                  text " (baseline " ++ PyValue.reprText printable baselineCkn ++ text ")")
              else countAgain radiusContainer baselineOk baselineCkn authCkn

def checkStaticMacsecConfig (container node profile interface : Text) : Check Unit := do
  let intf ← ceosCli container (interfaceConfig interface)
  assertContains printable intf (text "mac security profile " ++ profile)
    (node ++ text " " ++ interface ++ text " macsec profile")
  let macsec ← ceosCli container (text "enable\nshow running-config | section mac security\n")
  assertContains printable macsec (text "profile " ++ profile) (node ++ text " macsec profile " ++ profile)
  assertContains printable macsec (text "key source sak static") (node ++ text " static SAK profile")
  assertContains printable macsec (text "cipher aes256-gcm-xpn") (node ++ text " aes256-gcm-xpn cipher")
  reportConfig (text "static SAK profile " ++ profile ++ text " on " ++ interface)

/-- `_static_macsec_operational` -/
def staticMacsecOperational (output : Json) : Bool :=
  jsonTruthy output (text "controlledPort") && macsecHasActiveKey output

/-- Traffic to the other end in front of a look at the interface. -/
def nudgePeer (container : Text) (peerIp : Option Text) (index : Nat) : Check Unit :=
  match peerIp with
  | none => .done ()
  | some ip =>
      if ip = [] then .done ()
      else (pauseBefore index staticMacsecPollIntervalSec).bind fun _ =>
        (ceosCli container (text "enable\nping " ++ ip ++ text " repeat 1\n")).bind fun _ => .done ()

def interfaceCommand (interface : Text) : Text := text "show mac security interface " ++ interface

def staticAttempt (container interface : Text) (peerIp : Option Text) (index : Nat) : Check (Step Json Unit) :=
  (nudgePeer container peerIp index).bind fun _ =>
    (ceosShowJson loader container (interfaceCommand interface)).bind fun output =>
      if staticMacsecOperational output then .done (.left ()) else .done (.again output)

def staticFailed (node interface : Text) (output : Json) : Check Unit :=
  (judged printable (MacsecChecks.assertContains output (text "True") (node ++ text " controlled port"))).bind
    fun _ =>
      if !macsecHasActiveKey output then
        raiseMacsec (node ++ text ": expected active static SAK on " ++ interface)
      else raiseMacsec (node ++ text ": expected protected MACsec traffic on " ++ interface)

/-- The output of the last attempt is judged when none was operational. -/
def checkStaticMacsecInterface (container : Text) (node : Ceos) (interface : Text) : Check Unit :=
  (pollTimes (staticAttempt loader container interface (quadraPeerIp node)) staticMacsecPollAttempts 0
      none).bind fun
    | .inr _ => reportLive (text "MACsec controlled port up, traffic encrypted on " ++ interface)
    | .inl last => staticFailed printable node.name interface (last.getD .null)

/-- The part of `run_quadra_macsec_checks` for one switch. -/
def quadraSwitch (skipConfig : Bool) (container : Text) (node : Ceos) (profile interface : Text) :
    Check Unit :=
  (if skipConfig then .done () else checkStaticMacsecConfig printable container node.name profile interface).bind
    fun _ => checkStaticMacsecInterface printable loader container node interface

def runQuadraMacsecChecks (masterContainer slaveContainer : Text) (skipConfig : Bool) : Check Unit := do
  quadraSwitch printable loader skipConfig masterContainer quadraMaster quadraMacsecProfileMaster
    quadraMasterIntf
  quadraSwitch printable loader skipConfig slaveContainer quadraSlave quadraMacsecProfileSlave quadraSlaveIntf
  probeInterSwitchPing masterContainer quadraMaster.name ((quadraPeerIp quadraMaster).getD []) quadraMasterIntf
  probeInterSwitchPing slaveContainer quadraSlave.name ((quadraPeerIp quadraSlave).getD []) quadraSlaveIntf

/-- The part of `run_macsec_checks` for one of its two switches. -/
def linkSwitch (skipConfig : Bool) (config dot1x : Check Unit) (container node : Text) : Check Text :=
  (if skipConfig then .done () else config).bind fun _ =>
    dot1x.bind fun _ =>
      (checkMacsecInterface printable loader container node).bind fun _ =>
        checkMkaParticipants printable loader container node

/-- `run_macsec_checks` from the CKNs on. -/
def checkLink (targets : LabTargets) (skipConfig verifyReauth : Bool) (authCkn suppCkn : Text) :
    Check Unit :=
  let auth := containerAt targets authenticator.node
  let supp := containerAt targets supplicant.node
  if authCkn ≠ suppCkn then raiseMacsec (text "CKN mismatch: " ++ cknMismatch printable authCkn suppCkn)
  else
    (reportLive (text "matching CKN on both peers (" ++ authCkn ++ text ")")).bind fun _ =>
      (probeInterSwitchPing auth authenticator.name (interSwitchPeer supplicant) macsecInterface).bind fun _ =>
        (probeInterSwitchPing supp supplicant.name (interSwitchPeer authenticator) macsecInterface).bind
          fun _ =>
            (if verifyReauth then
              checkDot1xReauthCycle printable loader (containerAt targets .radius) auth supp authCkn
            else .done ()).bind fun _ =>
              runQuadraMacsecChecks printable loader auth (containerAt targets quadraSlave.node) skipConfig

def checkTargets (targets : LabTargets) (skipConfig verifyReauth : Bool) : Check Unit :=
  let auth := containerAt targets authenticator.node
  let supp := containerAt targets supplicant.node
  (linkSwitch printable loader skipConfig (checkAuthenticatorConfig printable auth)
      (checkAuthenticatorDot1x printable loader auth) auth authenticator.name).bind fun authCkn =>
    (linkSwitch printable loader skipConfig (checkSupplicantConfig printable supp)
        (checkSupplicantDot1x printable loader supp) supp supplicant.name).bind fun suppCkn =>
      checkLink printable loader targets skipConfig verifyReauth authCkn suppCkn

def runMacsecChecks (clabName mgmtSubnet : Text) (skipConfig verifyReauth : Bool) : Check Unit :=
  match labTargetsForSubnet clabName mgmtSubnet with
  | .error error => .fail (.address error)
  | .ok targets => checkTargets printable loader targets skipConfig verifyReauth

end Checks

end QuantumSafe.MacsecSession
