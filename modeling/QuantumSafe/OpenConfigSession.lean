import QuantumSafe.PqcSession

set_option autoImplicit false

/- `lab/test_openconfig.py` and `lab/test_openconfig_grpc.py`, with the commands of
`lab/grpc_probe.py`: gNMI, gNOI, gRIBI, gNSI, gNPSI, RESTCONF and eos-sdk-rpc on each switch. -/
namespace QuantumSafe.OpenConfigSession

open PyText PyJson PyValue Interaction Interaction.Program DockerCalls LabSession CeosSession WireProbes
open PyRegex (WordClass)
open PqcSession
open CeosContract (Ceos gnmiSslProfile gribiSslProfile gnsiSslProfile gnpsiSslProfile gribiPort gnpsiPort)
open CeosJson (assertJsonContains jsonTreeContains jsonTruthy jsonFindValue)
open JsonTransports (Port jsonTransportSslProfile jsonTransportPort jsonServerAddresses topFields)
open LabContract (tlsPqcGroup)
open MacsecSession (ceosJsonMessage)
open ProbeClient (ProbeClientMode)
open RenderTopo (IpFamily LabTargets)
open TlsWire (CheckStatus TlsWireResult lastChars)

def gnoiPingRpc : Text := text "gnoi.system.System/Ping"
def gnoiReflectionServices : List Text := [text "gnoi.system.System"]
def gnpsiService : Text := text "gnpsi.gNPSI"
def gnpsiSubscribeRpc : Text := gnpsiService ++ text "/Subscribe"
def eosAdminUsername : Text := text "admin"

def gnpsiUnsupportedMarkers : List Text :=
  [text "invalid input", text "invalid command", text "not supported", text "unrecognized command",
    text "no such command"]

/- `lab/grpc_probe.py` -/

section Commands

variable (printable : Char → Bool) (mode : ProbeClientMode) (target node : Text)

def tlsArgs : Text :=
  text "--tls-ca " ++ probeCaPath mode ++ text " --tls-cert " ++ probeClientCertPath node mode ++
    text " --tls-key " ++ probeClientKeyPath node mode ++ text " "

def gnoicMtlsArgs : Text :=
  tlsArgs mode node ++ text "--tls-version 1.3 --tls-min-version 1.3 --tls-max-version 1.3 "

def grpcMtlsArgs : Text :=
  text "-cacert " ++ probeCaPath mode ++ text " -cert " ++ probeClientCertPath node mode ++
    text " -key " ++ probeClientKeyPath node mode ++ text " "

def grpcurlInvokeCommand (rpc body : Text) : Text :=
  text "grpcurl " ++ grpcMtlsArgs mode node ++ text " -d " ++ reprText printable body ++ text " " ++
    reprText printable target ++ text " " ++ rpc

def gnoicServicesCommand : Text :=
  text "gnoic -a " ++ reprText printable target ++ text " " ++ gnoicMtlsArgs mode node ++ text "services"

def gnoicPingCommand : Text :=
  text "gnoic -a " ++ reprText printable target ++ text " " ++ gnoicMtlsArgs mode node ++
    text "system ping --destination " ++ reprText printable (text "127.0.0.1") ++
    text " --count 1 --do-not-resolve"

def gribicGetCommand : Text :=
  text "gribic -a " ++ reprText printable target ++ text " " ++ tlsArgs mode node ++ text "get --aft IPv4"

def gnsicCertzGetProfileListCommand : Text :=
  text "gnsic -u " ++ reprText printable eosAdminUsername ++ text " -a " ++ reprText printable target ++
    text " " ++ tlsArgs mode node ++ text "certz get-profile-list"

end Commands

/-- `_report_live` with `probe_client=True`: the name of the client is fixed here. -/
def testRunnerTag : Text := text "[live / test-runner]  "

def reportGrpc (detail : Text) (status : CheckStatus := .ok) : Check Unit :=
  reportCheck status testRunnerTag detail

section Config

variable (printable : Char → Bool) (loader : Loader) (targets : LabTargets) (node : Ceos)

def checkGnoiConfig : Check Unit := do
  checkSwitchSslProfile printable loader targets node gnmiSslProfile
  let gnmi ← ceosShowJson loader (ceosContainer targets node) (text "show management api gnmi")
  match assertJsonContains gnmi gnmiSslProfile (node.name ++ text " gNOI transport") with
  -- The `CeosJsonError` is not translated here.
  | .error error => .fail (.ceosJsonError (ceosJsonMessage printable error))
  | .ok _ =>
      if !jsonTruthy gnmi (text "enabled") then
        raisePqc (node.name ++ text " gNOI transport: gNMI api not enabled")
      else reportConfig (text "gNOI transport via gNMI ssl profile " ++ gnmiSslProfile ++ text " valid (" ++
        tlsPqcGroup ++ text "), grpc bound")

/-- `_service_port` of a port that was read. -/
def servicePort (port : Except Unit (Option Port)) (default : Nat) : Check Port :=
  match port with
  | .error _ => .fail .valueError
  | .ok found => .done (found.getD (.number default))

/-- The binding of gRIBI and gNPSI: the ssl profile, and then the port. -/
def serviceBound (service profile : Text) (port : Nat) (tree : Json) (more : Check Unit) : Check Unit :=
  if jsonTransportSslProfile tree ≠ some profile then
    raisePqc (node.name ++ text " " ++ service ++ text " binding: expected sslProfile " ++
      reprText printable profile ++ text ", got " ++ reprOption printable (jsonTransportSslProfile tree))
  else
    (servicePort (jsonTransportPort tree) port).bind fun found =>
      if !found.equals port then
        raisePqc (node.name ++ text " " ++ service ++ text ": expected port " ++ natText port ++
          text ", got " ++ found.shown)
      else more

def expectMentioned (found : Bool) (message : Text) : Check Unit :=
  if found then .done () else raisePqc (node.name ++ message)

def gribiCommand : Text := text "show management api gribi"

def checkGribiConfig : Check Unit := do
  checkSwitchSslProfile printable loader targets node gribiSslProfile
  let gribi ← ceosShowJson loader (ceosContainer targets node) gribiCommand
  serviceBound printable node (text "gRIBI") gribiSslProfile gribiPort gribi do
    expectMentioned node (jsonTreeContains gribi (text "MGMT")) (text " gRIBI: expected vrf MGMT in JSON output")
    reportConfig (text "gRIBI ssl profile " ++ gribiSslProfile ++ text " valid (" ++ tlsPqcGroup ++
      text "), grpc bound port " ++ natText gribiPort ++ text " vrf MGMT")

def checkGribiSslProfile : Check Unit := do
  checkSwitchSslProfile printable loader targets node gribiSslProfile
  reportConfig (text "gRIBI ssl profile " ++ gribiSslProfile ++ text " PQC-hybrid only (" ++ tlsPqcGroup ++
    text ")")

/-- The text that the addresses are looked for in. -/
def gribiAddresses (gribi : Json) : Check Text :=
  if jsonServerAddresses gribi = [] then
    ceosCli (ceosContainer targets node) (text "enable\nshow management api gribi\n")
  else .done (join (text " ") (jsonServerAddresses gribi))

def checkGribiIpv6Binding : Check Unit := do
  let gribi ← ceosShowJson loader (ceosContainer targets node) gribiCommand
  let blob ← gribiAddresses targets node gribi
  if contains (text "::") blob = false ∧ contains (text "IPv6") blob = false then
    raisePqc (node.name ++ text " gRIBI IPv6 binding: expected dual-stack listen (::) on vrf MGMT")
  else reportConfig (text "gRIBI listen includes IPv6 (::) on vrf MGMT dual-stack")

def gnsiCommand : Text := text "show management api gnsi"

/-- `transports.get("default")` is enabled. -/
def gnsiEnabled (gnsi : Json) : Bool :=
  match JsonTransports.defaultTransport gnsi with
  | some entry => (field (text "enabled") entry).truthy
  | none => false

def reprPort : Option Port → Text
  | some port => port.shown
  | none => text "None"

/-- The tests of `check_gnsi_config` on the service. -/
def gnsiService (gnsi : Json) : Check Unit :=
  match jsonTransportPort gnsi with
  | .error _ => .fail .valueError
  | .ok port =>
      if !port.any (·.equals gnmiPort) then
        raisePqc (node.name ++ text " gNSI transport: expected port " ++ natText gnmiPort ++
          text " on gNMI listener, got " ++ reprPort port)
      else if !gnsiEnabled gnsi then
        raisePqc (node.name ++ text " gNSI transport: expected transport gnmi default enabled on port " ++
          natText gnmiPort)
      else if !jsonTreeContains gnsi (text "certz") then
        raisePqc (node.name ++ text " gNSI: expected certz service enabled")
      else if !jsonTreeContains gnsi (text "authz") then
        raisePqc (node.name ++ text " gNSI: expected authz service enabled")
      else .done ()

def checkGnsiConfig : Check Unit := do
  checkSwitchSslProfile printable loader targets node gnsiSslProfile
  let gnsi ← ceosShowJson loader (ceosContainer targets node) gnsiCommand
  gnsiService node gnsi
  reportConfig (text "gNSI ssl profile " ++ gnsiSslProfile ++ text " valid (" ++ tlsPqcGroup ++
    text "), certz/authz on transport gnmi default port " ++ natText gnmiPort)

/-- `_gnsi_port` -/
def gnsiPort : Check Port := do
  let gnsi ← ceosShowJson loader (ceosContainer targets node) gnsiCommand
  servicePort (jsonTransportPort gnsi) gnmiPort

/-- What an exception leaves of an answer, with `except Exception`. -/
def orNone {Value : Type} (check : Check Value) : Check (Option Value) :=
  (check.bind fun value => .done (some value)).handle fun _ => .done none

/-- The tests of `gnpsi_supported_on_ceos` on the output. -/
def gnpsiSupported (output : Text) : Bool :=
  if gnpsiUnsupportedMarkers.any fun marker => contains marker (lower output) then false
  else !(contains (text "disabled") (lower output) && !contains (text "running") (lower output))

def gnpsiSupportedOnCeos : Check Bool :=
  (orNone (ceosCli (ceosContainer targets node) (text "enable\nshow management api gnpsi\n"))).bind
    fun output => .done (output.any gnpsiSupported)

def probeGnpsiCeosSupport : Check Bool :=
  (gnpsiSupportedOnCeos targets node).bind fun supported =>
    (if supported then reportConfig (text "gNPSI management api available on cEOS")
      else reportCheck .skip (text "[config]")
        (text "gNPSI not supported on cEOS — remaining gNPSI checks skipped")).bind fun _ => .done supported

def checkGnpsiConfig : Check Unit := do
  checkSwitchSslProfile printable loader targets node gnpsiSslProfile
  let gnpsi ← ceosShowJson loader (ceosContainer targets node) (text "show management api gnpsi")
  serviceBound printable node (text "gNPSI") gnpsiSslProfile gnpsiPort gnpsi do
    expectMentioned node (jsonTreeContains gnpsi (text "sflow") false)
      (text " gNPSI: expected source sFlow in JSON output")
    expectMentioned node (jsonTreeContains gnpsi (text "MGMT"))
      (text " gNPSI: expected listen-address vrf MGMT in JSON output")
    reportConfig (text "gNPSI ssl profile " ++ gnpsiSslProfile ++ text " valid (" ++ tlsPqcGroup ++
      text "), transport enabled port " ++ natText gnpsiPort ++ text " source sFlow vrf MGMT")

/-- `value.get(key) if isinstance(value, dict) else None` -/
def getIn (key : Text) : Json → Json
  | .object items => field key items
  | _ => .null

/-- `"::"` is among the addresses of vrf MGMT. -/
def gnpsiListensIpv6 (gnpsi : Json) : Bool :=
  match getIn (text "ipAddrs") (getIn (text "MGMT") (getIn (text "vrfs") (getIn (text "default")
      (getIn (text "transports") gnpsi)))) with
  | .list addresses => addresses.any fun | .str addr => addr == text "::" | _ => false
  | _ => false

def checkGnpsiIpv6Binding : Check Unit := do
  let gnpsi ← ceosShowJson loader (ceosContainer targets node) (text "show management api gnpsi")
  if !gnpsiListensIpv6 gnpsi then
    raisePqc (node.name ++ text " gNPSI IPv6 binding: expected listen-address vrf MGMT ::")
  else reportConfig (text "gNPSI listen on vrf MGMT :: (dual-stack IPv4/IPv6)")

end Config

section Probes

variable (printable : Char → Bool) (loader : Loader) (mode : ProbeClientMode) (targets : LabTargets)
  (node : Ceos) (family : IpFamily)

/-- `grpc_target` at the address of the switch. -/
def grpcTarget (port : Text) : Text := hostport (targets.ceosMgmtIp node family) port

/-- `run_grpc_probe` -/
def runGrpcProbe (command : Text) : Check CompletedProcess :=
  dockerExecProbe mode targets.clabName command false

def output (result : CompletedProcess) : Text := result.stdout ++ result.stderr

/-- A second command where the first one failed. -/
def orElse (first second : Text) : Check CompletedProcess :=
  (runGrpcProbe mode targets first).bind fun result =>
    if result.returncode ≠ 0 then runGrpcProbe mode targets second else .done result

def probeGnoiTls [WordClass] : Check TlsWireResult :=
  strictProbe mode targets.clabName testRunnerTag (tlsProbeCommon mode targets node family gnmiPort false)
    (text "gNOI transport TLS handshake") (node.name ++ text " gNOI transport TLS") family

def gnoiPingData : Text :=
  text "\x7b\"destination\": \"127.0.0.1\", \"count\": 1, \"doNotResolve\": true\x7d"

def probeGnoiPing (tlsWire : TlsWireResult) : Check Unit :=
  let target := grpcTarget targets node family (natText gnmiPort)
  (orElse mode targets (gnoicPingCommand printable mode target node.name)
      (grpcurlInvokeCommand printable mode target node.name gnoiPingRpc gnoiPingData)).bind fun result =>
    if result.returncode ≠ 0 then
      raisePqc (node.name ++ text " gNOI Ping: " ++ lastChars 500 (strip (output result)))
    else reportGrpc (text "gNOI System/Ping RPC (" ++ familyLabel family ++ text ", mTLS, " ++
      rpcTlsWireSuffix (some tlsWire) ++ text ")")

def quoted (services : List Text) : Text :=
  text "[" ++ join (text ", ") (services.map (reprText printable)) ++ text "]"

def probeGnoiReflection (tlsWire : TlsWireResult) : Check Unit :=
  (runGrpcProbe mode targets (gnoicServicesCommand printable mode
      (grpcTarget targets node family (natText gnmiPort)) node.name)).bind fun result =>
    let missing := gnoiReflectionServices.filter fun service => !contains service (output result)
    if result.returncode ≠ 0 then
      raisePqc (node.name ++ text " gNOI reflection: " ++ lastChars 500 (output result))
    else if missing ≠ [] then
      raisePqc (node.name ++ text " gNOI reflection: missing services " ++ quoted printable missing)
    else reportGrpc (text "gNOI gRPC reflection lists " ++ join (text ", ") gnoiReflectionServices ++
      text " (" ++ familyLabel family ++ text ", " ++ rpcTlsWireSuffix (some tlsWire) ++ text ")")

/-- The status of an RPC whose handshake need not be hybrid. -/
def rpcStatus (tlsWire : TlsWireResult) : CheckStatus := if tlsWire.pqcConfirmed then .ok else .warn

def probeGribiTls [WordClass] : Check TlsWireResult :=
  warnProbe mode targets.clabName testRunnerTag (tlsProbeCommon mode targets node family gribiPort true)
    (text "gRIBI gRPC mTLS handshake") (node.name ++ text " gRIBI mTLS") family gribiPort

def probeGribiMtls (tlsWire : TlsWireResult) : Check Unit :=
  let target := grpcTarget targets node family (natText gribiPort)
  (orElse mode targets (gribicGetCommand printable mode target node.name)
      (grpcurlInvokeCommand printable mode target node.name (text "gribi.gRIBI/Get") (text "\x7b\x7d"))).bind
    fun result =>
      if result.returncode ≠ 0 then
        raisePqc (node.name ++ text " gRIBI mTLS Get: " ++ lastChars 500 (strip (output result)))
      else reportGrpc (text "gRIBI gRPC mTLS + Get RPC (" ++ familyLabel family ++ text ", " ++
        rpcTlsWireSuffix (some tlsWire) ++ text ")") (rpcStatus tlsWire)

/-- The port is the one that the switch shows. -/
def gnsiEndpoint (port : Port) : Endpoint :=
  endpointAt mode (targets.ceosMgmtIp node family) port.shown (some node.name)

def probeGnsiTls [WordClass] : Check TlsWireResult :=
  (gnsiPort loader targets node).bind fun port =>
    strictProbe mode targets.clabName testRunnerTag (gnsiEndpoint mode targets node family port)
      (text "gNSI gRPC mTLS handshake") (node.name ++ text " gNSI mTLS") family

def probeGnsiCertzProfilelist (tlsWire : TlsWireResult) : Check Unit :=
  (gnsiPort loader targets node).bind fun port =>
    (runGrpcProbe mode targets (gnsicCertzGetProfileListCommand printable mode
        (grpcTarget targets node family port.shown) node.name)).bind fun result =>
      let body := strip (output result)
      if result.returncode ≠ 0 then
        raisePqc (node.name ++ text " gNSI Certz.GetProfileList: " ++ lastChars 500 body)
      else if !contains gnsiSslProfile body then
        raisePqc (node.name ++ text " gNSI Certz.GetProfileList: expected ssl profile " ++
          reprText printable gnsiSslProfile ++ text " in response")
      else reportGrpc (text "gNSI Certz.GetProfileList RPC (" ++ familyLabel family ++ text ", mTLS, " ++
        rpcTlsWireSuffix (some tlsWire) ++ text ")")

def gnpsiEndpoint : Endpoint := tlsProbeCommon mode targets node family gnpsiPort true

def refusedDetail : Text :=
  text "gNPSI gRPC mTLS handshake (" ++ familyLabel family ++ text "), skipped — port " ++
    natText gnpsiPort ++ text " not listening on vrf MGMT despite enabled transport"

def gnpsiRefused : Check (Option TlsWireResult) :=
  (reportGrpc (refusedDetail family) .skip).bind fun _ => .done none

/-- What `probe_gnpsi_tls` looks for where there was no handshake. -/
def Refused (raw : Text) : Prop := contains (text "connection refused") (lower raw) = true

instance (raw : Text) : Decidable (Refused raw) := inferInstanceAs (Decidable (_ = true))

def reportGnpsiTls (result : TlsWireResult) : Check (Option TlsWireResult) :=
  (reportTlsWireProbe testRunnerTag ⟨text "gNPSI gRPC mTLS handshake", node.name ++ text " gNPSI mTLS", family,
    .warn, some gnpsiPort⟩ result).bind fun reported => .done (some reported)

def probeGnpsiTls [WordClass] : Check (Option TlsWireResult) :=
  (runTlsWireProbe mode targets.clabName (gnpsiEndpoint mode targets node family) true).bind fun result =>
    if result.tls13 then reportGnpsiTls node family result
    else
      (runOpensslSClient mode targets.clabName (gnpsiEndpoint mode targets node family) none true).bind
        fun raw =>
          if Refused raw then gnpsiRefused family
          else reportGnpsiTls node family result

def probeGnpsiServices (tlsWire : TlsWireResult) : Check Unit :=
  (runGrpcProbe mode targets (gnoicServicesCommand printable mode
      (grpcTarget targets node family (natText gnpsiPort)) node.name)).bind fun result =>
    if result.returncode ≠ 0 then
      raisePqc (node.name ++ text " gNPSI mTLS: " ++ lastChars 500 (output result))
    else if !contains gnpsiService (output result) then
      raisePqc (node.name ++ text " gNPSI mTLS: expected " ++ reprText printable gnpsiService ++
        text " in reflection")
    else reportGrpc (text "gNPSI gRPC reflection lists " ++ gnpsiService ++ text " (" ++ familyLabel family ++
      text ", " ++ rpcTlsWireSuffix (some tlsWire) ++ text ")") (rpcStatus tlsWire)

def probeGnpsiSubscribe (tlsWire : TlsWireResult) : Check Unit :=
  let invoke := grpcurlInvokeCommand printable mode (grpcTarget targets node family (natText gnpsiPort))
    node.name gnpsiSubscribeRpc (text "\x7b\x7d")
  (runGrpcProbe mode targets (text "timeout 8 sh -c " ++ reprText printable invoke ++ text " || true")).bind
    fun result =>
      if result.returncode = 0 ∧ strip (output result) ≠ [] then
        reportGrpc (text "gNPSI subscribe received datagram (" ++ familyLabel family ++ text ", mTLS, " ++
          rpcTlsWireSuffix (some tlsWire) ++ text ")") (rpcStatus tlsWire)
      else reportGrpc (text "gNPSI subscribe (" ++ familyLabel family ++
        text "), skipped — no sFlow datagrams on cEOS within probe window") .skip

end Probes

section Runs

variable (printable : Char → Bool) (loader : Loader) (mode : ProbeClientMode) (targets : LabTargets)
  (skipConfig : Bool) (node : Ceos)

def gnoiGroup [WordClass] : Check Unit :=
  (configChecks skipConfig (checkGnoiConfig printable loader targets node)).bind fun _ =>
    forEach ipFamilies fun family =>
      (probeGnoiTls mode targets node family).bind fun wire =>
        (probeGnoiPing printable mode targets node family wire).bind fun _ =>
          probeGnoiReflection printable mode targets node family wire

def gribiConfigs : Check Unit := do
  checkGribiConfig printable loader targets node
  checkGribiSslProfile printable loader targets node
  checkGribiIpv6Binding loader targets node

def gribiGroup [WordClass] : Check Unit :=
  (configChecks skipConfig (gribiConfigs printable loader targets node)).bind fun _ =>
    forEach ipFamilies fun family =>
      (probeGribiTls mode targets node family).bind fun wire =>
        probeGribiMtls printable mode targets node family wire

def gnsiGroup [WordClass] : Check Unit :=
  (configChecks skipConfig (checkGnsiConfig printable loader targets node)).bind fun _ =>
    forEach ipFamilies fun family =>
      (probeGnsiTls loader mode targets node family).bind fun wire =>
        probeGnsiCertzProfilelist printable loader mode targets node family wire

/-- Whether gNPSI is there, asked again unless it was found missing and the configuration is not
checked. -/
def gnpsiEnabled (enabled : Bool) : Check Bool :=
  if !skipConfig then
    (probeGnpsiCeosSupport targets node).bind fun supported =>
      (configChecks (!supported) ((checkGnpsiConfig printable loader targets node).bind fun _ =>
        checkGnpsiIpv6Binding loader targets node)).bind fun _ => .done supported
  else if enabled then gnpsiSupportedOnCeos targets node
  else .done enabled

def gnpsiFamily [WordClass] (family : IpFamily) : Check Unit :=
  (probeGnpsiTls mode targets node family).bind fun
    | none => .done ()
    | some wire =>
        (probeGnpsiServices printable mode targets node family wire).bind fun _ =>
          probeGnpsiSubscribe printable mode targets node family wire

def gnpsiGroup [WordClass] (enabled : Bool) : Check Bool :=
  (gnpsiEnabled printable loader targets skipConfig node enabled).bind fun supported =>
    (configChecks (!supported) (forEach ipFamilies (gnpsiFamily printable mode targets node))).bind fun _ =>
      .done supported

/-- One pass of the loop of `run_openconfig_grpc_checks`. -/
def grpcNode [WordClass] (enabled : Bool) : Check Bool :=
  (gnoiGroup printable loader mode targets skipConfig node).bind fun _ =>
    (gribiGroup printable loader mode targets skipConfig node).bind fun _ =>
      (gnsiGroup printable loader mode targets skipConfig node).bind fun _ =>
        gnpsiGroup printable loader mode targets skipConfig node enabled

/-- `gnpsi_enabled` is carried from one switch to the next one. -/
def grpcNodes [WordClass] (enabled : Bool) : List Ceos → Check Unit
  | [] => .done ()
  | first :: rest =>
      (grpcNode printable loader mode targets skipConfig first enabled).bind fun next =>
        grpcNodes next rest

def runOpenconfigGrpcChecks [WordClass] (nodes : List Ceos) : Check Unit :=
  grpcNodes printable loader mode targets skipConfig true nodes

def nodeConfigs : Check Unit := do
  checkGnmiConfig printable loader targets node
  checkRestconfConfig printable loader targets node
  checkEossdkrpcConfig printable loader targets node

def gnmiFamily [WordClass] (family : IpFamily) : Check Unit :=
  (probeGnmiTls mode targets node family).bind fun _ =>
    (probeGnmiMtls mode targets node family).bind fun wire =>
      probeGnmiGet printable mode targets node family wire

/-- One switch of `run_openconfig_checks`. -/
def openconfigNode [WordClass] : Check Unit :=
  (configChecks skipConfig (nodeConfigs printable loader targets node)).bind fun _ =>
    (forEach ipFamilies (gnmiFamily printable mode targets node)).bind fun _ =>
      (runOpenconfigGrpcChecks printable loader mode targets skipConfig [node]).bind fun _ =>
        (forEach ipFamilies fun family =>
          (probeRestconfTls mode targets node family).bind fun _ => .done ()).bind fun _ =>
            forEach ipFamilies fun family =>
              (probeEossdkrpcTls mode targets node family).bind fun _ => .done ()

def runOpenconfigChecks [WordClass] (clabName mgmtSubnet : Text) : Check Unit :=
  onTargets clabName mgmtSubnet fun all =>
    forEach ceosNodes fun node => openconfigNode printable loader mode all skipConfig node

end Runs

end QuantumSafe.OpenConfigSession
