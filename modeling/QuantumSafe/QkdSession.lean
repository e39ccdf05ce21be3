import QuantumSafe.DaemonStatus
import QuantumSafe.InstallQuadra
import QuantumSafe.KmeHttp
import QuantumSafe.MacsecSession
import QuantumSafe.SakKeySync

set_option autoImplicit false

/- The run of `lab/test_macsec_qkd.py`: the QuaDRA agents of two switches, the keys that they
have put into the MACsec profiles, and the requests for keys in the logs of the KMEs. -/
namespace QuantumSafe.QkdSession

open PyText PyRegex PyJson Interaction Interaction.Program DockerCalls LabSession CeosSession
open CeosContract (Ceos kmeSaeId kmeBSaeId quadraMacsecProfileMaster
  quadraMacsecProfileSlave)
open DaemonStatus (parseDaemonQuadraStatus)
open InstallQuadra (extensionInstalled showExtensions showDaemon)
open KmeHttp (dockerExecTimeoutSec)
open LabContract (ceosQuadraNodes)
open MacsecSession (quadraMaster quadraSlave quadraPeerIp interfaceCommand)
open PingJudges (pingTextSuccess)
open PyInt (isDecimal)
open StaticSak (StaticSakProfile SyncFailure masterIntf slaveIntf parseStaticSakProfile
  assertStaticSakPeerMapping assertPlainSakKeyExchange usesEncryptedKeys)

/-- `EXPECTED_AGENT_ROLES` -/
def expectedAgentRole : Ceos → Text
  | .ceos1Both => text "master"
  | .ceos3Qkd => text "slave"
  | .ceos2Pqc => []

def rotationSuccessMarkers : List Text := [text "QUADRA-4-ROTATION_SUCCESS", text "ROTATION_SUCCESS"]

/-- A letter of a pattern with `re.IGNORECASE`. Of the letters below only `i` has forms outside
ASCII. -/
def ignoringCase (letter c : Char) : Bool :=
  c.toLower == letter || (letter == 'i' && (c.toNat == 0x130 || c.toNat == 0x131))

/-- `RUNNING_RE`: `running with PID\s+\d+` with `re.IGNORECASE`. -/
def runningRe : Regex :=
  (text "running with pid").foldr (fun letter rest => .seq (.char (ignoringCase letter)) rest)
    (.seq (.many 1 isSpace) (.many 1 isDecimal))

/-- `status_field` -/
def statusField (status : List (Text × Text)) (name : Text) : Option Text :=
  (status.lookup (lower name)).bind fun value => if value = [] then none else some value

def raiseQkd {Value : Type} (message : Text) : Check Value := .fail (.qkdCheckError message)

section Messages

variable (printable : Char → Bool)

def reprOption : Option Text → Text
  | some value => PyValue.reprText printable value
  | none => text "None"

def slaveSide (side : Text) : Text := if side = text "master rx" then text "slave tx" else text "slave rx"

def profileRaised : StaticSak.Failure → Raised
  | .missingProfile profile => .qkdCheckError (text "missing mac security profile " ++
      PyValue.reprText printable profile ++ text " in running-config")
  | .missingChannel profile marker =>
      .qkdCheckError (text "profile " ++ profile ++ text ": missing " ++ marker)
  | .incompleteChannel profile direction => .qkdCheckError (text "profile " ++ profile ++
      text ": incomplete static SAK " ++ direction ++ text " channel")
  | .expected profile wanted =>
      .qkdCheckError (text "profile " ++ profile ++ text ": expected " ++ wanted)
  | .scIdMismatch side master slave => .qkdCheckError (text "SC ID mismatch: " ++ side ++ text " " ++
      PyValue.reprText printable master ++ text " != " ++ slaveSide side ++ text " " ++
      PyValue.reprText printable slave)
  | .anMismatch side master slave => .qkdCheckError (text "AN mismatch: " ++ side ++ text " AN " ++
      intText master ++ text " != " ++ slaveSide side ++ text " AN " ++ intText slave)
  | .keyMismatch message => .qkdCheckError message
  | .valueError => .valueError

def syncRaised : SyncFailure → Raised
  | .profile failure => profileRaised printable failure
  | .showFailed message => .qkdCheckError message
  | .portDown node interface =>
      .qkdCheckError (node ++ text " " ++ interface ++ text ": controlled port not up")
  | .noActiveSak node interface =>
      .qkdCheckError (node ++ text " " ++ interface ++ text ": no active static SAK")
  | .missingKeyMsgId node interface => .qkdCheckError (node ++ text " " ++ interface ++
      text ": missing keyMsgId in MACsec interface JSON")
  | .notStatic node interface keyMsgId => .qkdCheckError (node ++ text " " ++ interface ++
      text ": expected static SAK keyMsgId, got " ++ PyValue.reprText printable keyMsgId)
  | .liveAnMismatch node interface liveRx liveTx expectedRx expectedTx =>
      .qkdCheckError (node ++ text " " ++ interface ++ text ": live AN rx/tx " ++ intText liveRx ++
        text "/" ++ intText liveTx ++ text " != configured " ++ intText expectedRx ++ text "/" ++
        intText expectedTx)
  | .valueError => .valueError

end Messages

section Checks

variable (printable : Char → Bool) (loader : Loader)

/-- The value of a step that does not talk to anything, or its exception. -/
def settled {Failure Value : Type} (raised : Failure → Raised) : Except Failure Value → Check Value
  | .ok value => .done value
  | .error failure => .fail (raised failure)

/-- A `PqcConnectionError` is handed on as its text. -/
def caught {Value : Type} (check : Check Value) : Check (Except Text Value) :=
  (check.bind fun value => .done (.ok value)).handle fun
    | .pqcConnectionError message => .done (.error message)
    | other => .fail other

def checkMacsecInterfaceSakState (container node interface : Text) (expectedRxAn expectedTxAn : Int) :
    Check Unit :=
  (caught (ceosShowJson loader container (interfaceCommand interface))).bind fun shown =>
    settled (syncRaised printable)
      (StaticSak.checkMacsecInterfaceSakState shown node interface expectedRxAn expectedTxAn)

def reportKeys (detail : Text) : Check Unit := reportOk (text "[keys] ") detail

def sectionCommand : Text := text "enable\nshow running-config | section mac security\n"

def mappingDetail (masterProfile slaveProfile : StaticSakProfile) : Text :=
  text "SC/AN mapping OK — master rx AN " ++ intText masterProfile.rx.an ++ text " ↔ slave tx AN " ++
    intText slaveProfile.tx.an ++ text ", master tx AN " ++ intText masterProfile.tx.an ++
    text " ↔ slave rx AN " ++ intText slaveProfile.rx.an

def encryptedDetail (masterProfile : StaticSakProfile) : Text :=
  text "encrypted SAK in sync — both sides controlled port up, AN " ++ intText masterProfile.rx.an ++
    text "/" ++ intText masterProfile.tx.an ++ text " on " ++ masterIntf ++ text "/" ++ slaveIntf

/-- The end of `check_static_sak_key_sync`. -/
def compareKeys (masterContainer slaveContainer : Text) (masterProfile slaveProfile : StaticSakProfile) :
    Check Unit :=
  if usesEncryptedKeys masterProfile slaveProfile then do
    checkMacsecInterfaceSakState printable loader masterContainer quadraMaster.name masterIntf
      masterProfile.rx.an masterProfile.tx.an
    checkMacsecInterfaceSakState printable loader slaveContainer quadraSlave.name slaveIntf
      slaveProfile.rx.an slaveProfile.tx.an
    reportKeys (encryptedDetail masterProfile)
  else do
    settled (profileRaised printable) (assertPlainSakKeyExchange masterProfile slaveProfile)
    reportKeys (text "plain SAK keys cross-match (master tx == slave rx, master rx == slave tx)")

def checkStaticSakKeySync (masterContainer slaveContainer : Text) : Check Unit := do
  let masterCfg ← ceosCli masterContainer sectionCommand
  let slaveCfg ← ceosCli slaveContainer sectionCommand
  let masterProfile ← settled (profileRaised printable)
    (parseStaticSakProfile masterCfg quadraMacsecProfileMaster)
  let slaveProfile ← settled (profileRaised printable)
    (parseStaticSakProfile slaveCfg quadraMacsecProfileSlave)
  settled (profileRaised printable) (assertStaticSakPeerMapping masterProfile slaveProfile)
  reportKeys (mappingDetail masterProfile slaveProfile)
  compareKeys printable loader masterContainer slaveContainer masterProfile slaveProfile

def checkExtensionInstalled [WordClass] (container node swix : Text) : Check Unit := do
  let output ← ceosCli container showExtensions
  if !extensionInstalled output swix then
    .fail (.qkdSkip (node ++ text ": QuaDRA extension " ++ swix ++ text " not installed"))
  else reportLive (swix ++ text " installed")

def checkDaemonRunning (container node : Text) : Check Text := do
  let output ← ceosCli container showDaemon
  if !runningRe.found output then raiseQkd (node ++ text ": daemon quadra is not running")
  else
    reportLive (text "daemon quadra running")
    return output

def agentRole (output : Text) : Option Text :=
  statusField (parseDaemonQuadraStatus output) (text "agent status")

def checkAgentRole (node output expectedRole : Text) : Check (List (Text × Text)) :=
  if agentRole output ≠ some expectedRole then
    raiseQkd (node ++ text ": expected agent status " ++ PyValue.reprText printable expectedRole ++
      text ", got " ++ reprOption printable (agentRole output))
  else
    (reportLive (text "agent status " ++ expectedRole)).bind fun _ =>
      .done (parseDaemonQuadraStatus output)

def checkMasterRotationSchedule (node : Text) (status : List (Text × Text)) : Check Unit :=
  match statusField status (text "next key rotation event") with
  | none => raiseQkd (node ++ text ": missing next key rotation event in show daemon quadra")
  | some nextEvent => reportLive (text "next key rotation event " ++ nextEvent)

def logsArgv (container : Text) : List Text := [text "docker", text "logs", container]

def readDockerLogs (container : Text) : Check Text :=
  (subprocessRun (logsArgv container) none (some dockerExecTimeoutSec)).bind fun
    | .timeoutExpired => raiseQkd (container ++ text ": docker logs timed out after " ++
        natText dockerExecTimeoutSec ++ text "s")
    | .completed result =>
        if result.returncode ≠ 0 then
          raiseQkd (container ++ text ": docker logs failed: " ++ exitDetail result)
        else .done (result.stdout ++ result.stderr)

def kmeKeyRequestLines (logs endpoint : Text) (saeId : Option Text) : List Text :=
  ((splitlines logs).filter fun line =>
    contains (text "POST") line && contains endpoint line &&
      saeId.all fun sae => contains sae line).map strip

/-- The requests for this SAE, or all of them when there are none for it. -/
def keyRequests (logs endpoint saeId : Text) : List Text :=
  match kmeKeyRequestLines logs endpoint (some saeId) with
  | [] => kmeKeyRequestLines logs endpoint none
  | matching => matching

def returned200 (latest : Text) : Bool :=
  contains (text " 200 ") latest || contains (text "\" 200 ") latest

def checkKmeKeyRequestLogs (container kmeNode endpoint saeId : Text) : Check Text :=
  (readDockerLogs container).bind fun logs =>
    match (keyRequests logs endpoint saeId).getLast? with
    | none => raiseQkd (kmeNode ++ text ": no POST /" ++ endpoint ++
        text " requests in docker logs (expected QuaDRA key rotation traffic)")
    | some latest =>
        if !returned200 latest then
          raiseQkd (kmeNode ++ text ": latest /" ++ endpoint ++ text " request did not return 200: " ++ latest)
        else
          (reportOk (text "[kme]  ") (endpoint ++ text " logged (" ++
            natText (keyRequests logs endpoint saeId).length ++ text " POST, latest HTTP 200)")).bind
              fun _ => .done latest

/-- `find_rotation_success_log` on the output. -/
def rotationSuccessLine (output : Text) : Option Text :=
  ((splitlines output).find? fun line =>
    rotationSuccessMarkers.any fun marker => contains marker line).map strip

def loggingCommand : Text := text "enable\nshow logging 500\n"

def noteRotationSuccessLog (container node : Text) : Check Bool :=
  (ceosCli container loggingCommand).bind fun output =>
    match rotationSuccessLine output with
    | some (first :: line) =>
        (reportOk (text "[log]   ") (text "found rotation success: " ++ (first :: line))).bind
          fun _ => .done true
    | _ =>
        (reportCheck .warn (text "[log]   ") (node ++
          text ": no %QUADRA-4-ROTATION_SUCCESS% in recent syslog (normal in steady state — QuaDRA logs " ++
          text "this only after agent startup or last failure)")).bind fun _ => .done false

/-- One direction of `check_quadra_link_ping`. -/
def pingPeer (container : Text) (node : Ceos) (interface : Text) : Check Unit := do
  let peer := (quadraPeerIp node).getD []
  let output ← ceosCli container (text "enable\nping " ++ peer ++ text " repeat 3\n")
  if !pingTextSuccess output then
    raiseQkd (node.name ++ text " ping " ++ peer ++ text " over QuaDRA link failed")
  else reportLive (node.name ++ text " ping " ++ peer ++ text " over " ++ interface ++ text " OK")

def checkQuadraLinkPing (masterContainer slaveContainer : Text) : Check Unit := do
  pingPeer masterContainer quadraMaster masterIntf
  pingPeer slaveContainer quadraSlave slaveIntf

variable (clabName swix : Text)

/-- `QkdTargets.ceos_container` -/
def ceosContainer (node : Ceos) : Text := containerOf clabName node.name

/-- A switch that cannot be asked is one without the extension. -/
def quadraInstalledOnNodes [WordClass] : List Ceos → Check Bool
  | [] => .done true
  | node :: rest =>
      (caught (ceosCli (ceosContainer clabName node) showExtensions)).bind fun
        | .error _ => .done false
        | .ok output =>
            if !extensionInstalled output swix then .done false else quadraInstalledOnNodes rest

/-- The part of `run_qkd_checks` for the agent of one switch. -/
def checkAgent [WordClass] (node : Ceos) : Check (List (Text × Text)) :=
  (checkExtensionInstalled (ceosContainer clabName node) node.name swix).bind fun _ =>
    (checkDaemonRunning (ceosContainer clabName node) node.name).bind fun output =>
      checkAgentRole printable node.name output (expectedAgentRole node)

def checkInstalled [WordClass] : Check Unit := do
  let masterStatus ← checkAgent printable clabName swix quadraMaster
  checkMasterRotationSchedule quadraMaster.name masterStatus
  let _ ← noteRotationSuccessLog (ceosContainer clabName quadraMaster) quadraMaster.name
  let _ ← checkAgent printable clabName swix quadraSlave
  let _ ← noteRotationSuccessLog (ceosContainer clabName quadraSlave) quadraSlave.name
  checkStaticSakKeySync printable loader (ceosContainer clabName quadraMaster)
    (ceosContainer clabName quadraSlave)
  let _ ← checkKmeKeyRequestLogs (containerOf clabName (text "kme-a")) (text "kme-a") (text "enc_keys")
    kmeBSaeId
  let _ ← checkKmeKeyRequestLogs (containerOf clabName (text "kme-b")) (text "kme-b") (text "dec_keys")
    kmeSaeId
  checkQuadraLinkPing (ceosContainer clabName quadraMaster) (ceosContainer clabName quadraSlave)

/-- `run_qkd_checks` with what `quadra_swix_name` gives. -/
def runQkdChecks [WordClass] : Check Bool :=
  (quadraInstalledOnNodes clabName swix ceosQuadraNodes).bind fun installed =>
    if !installed then .done false
    else (checkInstalled printable loader clabName swix).bind fun _ => .done true

end Checks

/-- The exit code of `main`, and none where it does not catch the exception. -/
def exitCode : Except Raised Bool → Option Nat
  | .ok _ => some 0
  | .error (.qkdSkip _) => some 0
  | .error (.qkdCheckError _) | .error (.pqcConnectionError _) => some 1
  | .error _ => none

end QuantumSafe.QkdSession
