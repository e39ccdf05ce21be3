import QuantumSafe.CeosSession
import QuantumSafe.Evidence
import QuantumSafe.ProbeClient
import QuantumSafe.TlsWire

set_option autoImplicit false

/- The TLS handshakes of the live checks: `openssl s_client` from the probe client
(`lab/probe_client.py`), what its output says, and how it is reported (`lab/tls_wire.py`). -/
namespace QuantumSafe.WireProbes

open PyText Interaction Interaction.Program DockerCalls LabSession CeosSession
open PyRegex (WordClass)
open LabContract (tlsPqcGroup)
open ProbeClient (ProbeClientMode opensslEnvPrefix opensslPqcCnf radiusOpensslPqcCnf)
open RenderTopo (IpFamily)
open TlsWire (CheckStatus Confirms TlsWirePolicy TlsWireResult classicalProbeGroup parseTlsWireOutput
  tlsWireStatus)

/-- `bracketed_host`: in brackets with a colon in it. -/
def bracketedHost (addr : Text) : Text :=
  if contains (text ":") addr then text "[" ++ addr ++ text "]" else addr

/-- `hostport` with the text of the port. -/
def hostport (addr port : Text) : Text := bracketedHost addr ++ text ":" ++ port

/-- `probe_node_name`, and none for its `ValueError`. -/
def probeNodeName : ProbeClientMode → Option Text
  | .testRunner => some (text "test-runner")
  | .radius => some (text "radius")
  | .host => none

def probeCaPath : ProbeClientMode → Text
  | .radius => text "/etc/raddb/certs/radsec/ca.pem"
  | _ => text "/etc/probe/certs/radsec-ca.pem"

def probeClientCertPath (node : Text) : ProbeClientMode → Text
  | .radius => text "/etc/raddb/certs/probe/" ++ node ++ text "-client.pem"
  | _ => text "/etc/probe/certs/" ++ node ++ text "-client.pem"

def probeClientKeyPath (node : Text) : ProbeClientMode → Text
  | .radius => text "/etc/raddb/certs/probe/" ++ node ++ text "-client.key"
  | _ => text "/etc/probe/certs/" ++ node ++ text "-client.key"

/-- `live_check_prefix` -/
def liveCheckPrefix (mode : ProbeClientMode) : Text :=
  text "[live / " ++ (probeNodeName mode).getD (text "host") ++ text "]  "

/-- What `_tls_probe_common` passes on, with the certificate and the key of the client for mTLS. -/
structure Endpoint where
  connect : Text
  caFile : Text
  client : Option (Text × Text)
deriving DecidableEq

/-- `_tls_probe_common` with an address in place of a switch. -/
def endpointAt (mode : ProbeClientMode) (addr port : Text) (client : Option Text) : Endpoint where
  connect := hostport addr port
  caFile := probeCaPath mode
  client := client.map fun node => (probeClientCertPath node mode, probeClientKeyPath node mode)

/-- `openssl_s_client_command` without a server name. -/
def opensslSClientCommand (mode : ProbeClientMode) (endpoint : Endpoint) (groups : Option Text)
    (usePqcConf : Bool) : Text :=
  let certArgs := match endpoint.client with
    | some (cert, key) => text "-cert " ++ cert ++ text " -key " ++ key ++ text " "
    | none => []
  let groupsArg := match groups with
    | some names => text "-groups " ++ names ++ text " "
    | none => []
  opensslEnvPrefix mode usePqcConf ++ text "openssl s_client -connect " ++ endpoint.connect ++
    text " -tls1_3 " ++ (text "-CAfile " ++ endpoint.caFile ++ text " ") ++ certArgs ++ groupsArg ++
    text "-brief </dev/null 2>&1"

/-- The file with the groups that a client offers where none are named. The host has none: there
`_openssl_env_prefix` is empty, and OpenSSL offers its defaults. -/
def groupsFile : ProbeClientMode → Option Text
  | .testRunner => some opensslPqcCnf
  | .radius => some radiusOpensslPqcCnf
  | .host => none

/-- How a command with that file starts. -/
def clientStart : Option Text → Text
  | some file => text "OPENSSL_CONF=" ++ file ++ text " openssl s_client "
  | none => text "openssl s_client "

theorem opensslSClientCommand_start (mode : ProbeClientMode) (endpoint : Endpoint) (groups : Option Text) :
    clientStart (groupsFile mode) <+: opensslSClientCommand mode endpoint groups true := by
  have start : opensslEnvPrefix mode true ++ text "openssl s_client -connect " =
      clientStart (groupsFile mode) ++ text "-connect " := by
    cases mode <;> decide
  simp only [opensslSClientCommand, start, List.append_assoc, List.prefix_append]

section Probes

variable (mode : ProbeClientMode) (clabName : Text)

/-- `docker_exec_probe` -/
def dockerExecProbe (command : Text) (check : Bool := true) : Check CompletedProcess :=
  match probeNodeName mode with
  | none => .fail .valueError
  | some node =>
      (runProcess (dockerShell (containerOf clabName node) command) (some [])).bind fun result =>
        if check = true ∧ result.returncode ≠ 0 then
          .fail (.calledProcessError result.returncode (dockerShell (containerOf clabName node) command))
        else .done result

/-- How a command of the probe client runs: in its container, or in a shell of the host. -/
def probeArgv (command : Text) : List Text :=
  match probeNodeName mode with
  | some node => dockerShell (containerOf clabName node) command
  | none => [text "sh", text "-c", command]

def probeInput : Option Text :=
  match probeNodeName mode with
  | some _ => some []
  | none => none

def runOpensslSClient (endpoint : Endpoint) (groups : Option Text) (usePqcConf : Bool) : Check Text :=
  (runProcess (probeArgv mode clabName (opensslSClientCommand mode endpoint groups usePqcConf))
      (probeInput mode)).bind fun result => .done (result.stdout ++ result.stderr)

def runTlsWireProbe [WordClass] (endpoint : Endpoint) (classicalFallback : Bool) : Check TlsWireResult :=
  (runOpensslSClient mode clabName endpoint none true).bind fun pqcOutput =>
    if (parseTlsWireOutput pqcOutput).pqcConfirmed || !classicalFallback then
      .done (parseTlsWireOutput pqcOutput)
    else if (parseTlsWireOutput pqcOutput).tls13 then .done (parseTlsWireOutput pqcOutput)
    else
      (runOpensslSClient mode clabName endpoint (some classicalProbeGroup) false).bind
        fun classicalOutput =>
          if (parseTlsWireOutput classicalOutput).tls13 then .done (parseTlsWireOutput classicalOutput)
          else .done (parseTlsWireOutput pqcOutput)

end Probes

def nonEmpty (value : Option Text) : Option Text :=
  value.bind fun shown => if shown = [] then none else some shown

def formatTlsWireSummary (result : TlsWireResult) (port : Option Nat) : Text :=
  if !result.tls13 then
    match port with
    | some number => text "no TLS 1.3 handshake on :" ++ natText number
    | none => text "no TLS 1.3 handshake"
  else
    let kex := (nonEmpty result.kexGroup).map fun group => text "KEX " ++ group
    let cipher := (nonEmpty result.cipher).map fun name => text "cipher " ++ name
    let summary := join (text ", ") (text "TLS 1.3" :: (kex.toList ++ cipher.toList))
    if result.pqcConfirmed then summary else text "not PQC-safe — " ++ summary

def rpcTlsWireSuffix : Option TlsWireResult → Text
  | none => text "wire KEX not verified"
  | some result =>
      let cipher := (nonEmpty result.cipher).map fun name => text "cipher " ++ name
      if result.pqcConfirmed then
        join (text ", ") ((text "wire KEX " ++ (nonEmpty result.kexGroup).getD tlsPqcGroup) :: cipher.toList)
      else if result.tls13 then
        join (text ", ") ((text "not PQC-safe — wire KEX " ++
          (nonEmpty result.kexGroup).getD (text "unknown")) :: cipher.toList)
      else text "wire KEX not verified"

/-- What a handshake is reported as. -/
structure Handshake where
  label : Text
  errorLabel : Text
  family : IpFamily
  policy : TlsWirePolicy
  port : Option Nat

def Handshake.named (handshake : Handshake) (label : Text) : Text :=
  label ++ text " (" ++ familyLabel handshake.family ++ text ")"

/-- `report_tls_wire_probe` -/
def reportTlsWireProbe (tag : Text) (handshake : Handshake) (result : TlsWireResult) :
    Check TlsWireResult :=
  let summary := formatTlsWireSummary result handshake.port
  if tlsWireStatus result handshake.policy = .fail then
    .fail (.pqcConnectionError (handshake.named handshake.errorLabel ++ text ": " ++ summary))
  else
    (reportCheck (tlsWireStatus result handshake.policy) tag
      (handshake.named handshake.label ++ text ", " ++ summary)).bind fun _ => .done result

/-- A probe that fails where the hybrid group is not confirmed. -/
def strictProbe [WordClass] (mode : ProbeClientMode) (clabName tag : Text) (endpoint : Endpoint)
    (label errorLabel : Text) (family : IpFamily) : Check TlsWireResult :=
  (runTlsWireProbe mode clabName endpoint false).bind
    (reportTlsWireProbe tag ⟨label, errorLabel, family, .strict, none⟩)

/-- A probe that reports a classical group as a warning. -/
def warnProbe [WordClass] (mode : ProbeClientMode) (clabName tag : Text) (endpoint : Endpoint)
    (label errorLabel : Text) (family : IpFamily) (port : Nat) : Check TlsWireResult :=
  (runTlsWireProbe mode clabName endpoint true).bind
    (reportTlsWireProbe tag ⟨label, errorLabel, family, .warn, some port⟩)

/- What the probes have seen -/

section Evidence

variable (mode : ProbeClientMode) (clabName : Text) (endpoint : Endpoint)

/-- This s_client has printed such a text. -/
def sClientPrinted (groups : Option Text) (usePqcConf : Bool) (accepts : Text → Prop) :
    Evidence Command Answer :=
  .exchange fun exchange =>
    exchange.1 = .run (probeArgv mode clabName (opensslSClientCommand mode endpoint groups usePqcConf))
      (probeInput mode) none ∧
    ∃ process, exchange.2.outcome = .completed process ∧ accepts (process.stdout ++ process.stderr)

/-- It has printed what is taken for a handshake with the hybrid group. -/
def confirmedBy (groups : Option Text) (usePqcConf : Bool) : Evidence Command Answer :=
  sClientPrinted mode clabName endpoint groups usePqcConf Confirms

/-- The s_client that is given no groups has printed so. A container offers the groups of its file,
and the host those of its own OpenSSL. -/
def ownGroups : Evidence Command Answer :=
  Evidence.both (.fact (clientStart (groupsFile mode) <+: opensslSClientCommand mode endpoint none true))
    (confirmedBy mode clabName endpoint none true)

/-- The s_client of the diagnosis may have printed it instead. -/
def ownOrNamed : Evidence Command Answer :=
  (ownGroups mode clabName endpoint).either
    (confirmedBy mode clabName endpoint (some classicalProbeGroup) false)

/-- A warning was reported. -/
def warned : Evidence Command Answer := .exchange fun exchange => exchange.1.status = some .warn

theorem gathers_sClient (groups : Option Text) (usePqcConf : Bool) (accepts : Text → Prop) :
    (runOpensslSClient mode clabName endpoint groups usePqcConf).Gathers fun output =>
      .either (.fact (¬ accepts output))
        (sClientPrinted mode clabName endpoint groups usePqcConf accepts) := by
  intro transcript output ends
  obtain ⟨process, before, after, rfl, runs, rfl, same⟩ := ends_bind_ok ends
  obtain ⟨answer, rfl, ⟨_, ended, given⟩ | ⟨-, given⟩⟩ := runProcess_ends runs
  · obtain rfl := Except.ok.inj given
    obtain rfl := Except.ok.inj same
    by_cases accepted : accepts (process.stdout ++ process.stderr)
    · exact Or.inr ⟨_, List.mem_cons_self, rfl, process, ended, accepted⟩
    · exact Or.inl accepted
  · cases given

theorem gathers_ownGroups :
    (runOpensslSClient mode clabName endpoint none true).Gathers fun output =>
      .either (.fact (¬ Confirms output)) (ownGroups mode clabName endpoint) :=
  (gathers_sClient mode clabName endpoint none true Confirms).weaken fun _ _ shown =>
    shown.imp_right fun seen => ⟨opensslSClientCommand_start mode endpoint none, seen⟩

/-- A result that is confirmed has been seen, in the one session without a fallback. -/
theorem gathers_runTlsWireProbe [WordClass] (classicalFallback : Bool) :
    (runTlsWireProbe mode clabName endpoint classicalFallback).Gathers fun result =>
      .either (.fact (¬ result.pqcConfirmed = true))
        (if classicalFallback then ownOrNamed mode clabName endpoint else ownGroups mode clabName endpoint) := by
  have first : ∀ output transcript,
      ((Evidence.fact (¬ Confirms output)).either (ownGroups mode clabName endpoint)).shown transcript →
      (Evidence.either (.fact (¬ (parseTlsWireOutput output).pqcConfirmed = true))
        (if classicalFallback then ownOrNamed mode clabName endpoint
          else ownGroups mode clabName endpoint)).shown transcript := by
    rintro output transcript (never | seen)
    · exact Or.inl (TlsWire.pqcConfirmed_iff.not.mpr never)
    · cases classicalFallback
      · exact Or.inr seen
      · exact Or.inr (Or.inl seen)
  have started := gathers_ownGroups mode clabName endpoint
  intro transcript result ends
  obtain ⟨pqcOutput, before, after, rfl, begins, goes⟩ := ends_bind_ok ends
  have early := first pqcOutput _ (Evidence.stays _ (List.subset_append_left before after) (started begins))
  split at goes
  · rwa [← Except.ok.inj goes.2] at early
  · rename_i unsettled
    split at goes
    · rwa [← Except.ok.inj goes.2] at early
    · obtain ⟨classicalOutput, middle, last, rfl, diagnoses, given⟩ := ends_bind_ok goes
      split at given
      · obtain rfl := Except.ok.inj given.2
        obtain rfl : classicalFallback = true := by
          simp only [Bool.or_eq_true, not_or, Bool.not_eq_true, Bool.not_eq_false'] at unsettled
          exact unsettled.2
        rcases gathers_sClient mode clabName endpoint _ _ Confirms diagnoses with never | seen
        · exact Or.inl (TlsWire.pqcConfirmed_iff.not.mpr never)
        · refine Or.inr (Or.inr (Evidence.stays _ ?_ seen))
          intro exchange member
          simp [member]
      · rwa [← Except.ok.inj given.2] at early

theorem report_ends {tag : Text} {handshake : Handshake} {result reported : TlsWireResult}
    {transcript : List Exchange}
    (ends : (reportTlsWireProbe tag handshake result).Ends transcript (.ok reported)) :
    reported = result ∧ tlsWireStatus result handshake.policy ≠ .fail ∧
      ∃ detail answer, transcript = [(.report (tlsWireStatus result handshake.policy) tag detail, answer)] := by
  unfold reportTlsWireProbe at ends
  split at ends
  · cases ends.2
  · rename_i passes
    obtain ⟨_, told, none, rfl, tells, rfl, same⟩ := ends_bind_ok ends
    obtain ⟨answer, rfl, -⟩ := reportCheck_ends tells
    exact ⟨(Except.ok.inj same), passes, _, answer, rfl⟩

variable (tag label errorLabel : Text) (family : IpFamily)

theorem gathers_strictProbe [WordClass] :
    (strictProbe mode clabName tag endpoint label errorLabel family).Gathers fun _ =>
      ownGroups mode clabName endpoint := by
  intro transcript reported ends
  obtain ⟨result, before, after, rfl, probes, reports⟩ := ends_bind_ok ends
  obtain ⟨rfl, passes, -⟩ := report_ends reports
  have confirmed : reported.pqcConfirmed = true := by
    by_contra never
    exact passes (by rw [tlsWireStatus, if_neg never]; rfl)
  rcases gathers_runTlsWireProbe mode clabName endpoint false probes with never | seen
  · exact absurd confirmed never
  · exact Evidence.stays _ (List.subset_append_left _ _) seen

/-- A result that is reported has been seen, or it is reported as a warning. -/
theorem warned_of_report [WordClass] {result reported : TlsWireResult} {before after whole : List Exchange}
    {port : Option Nat}
    (probes : (runTlsWireProbe mode clabName endpoint true).Ends before (.ok result))
    (reports : (reportTlsWireProbe tag ⟨label, errorLabel, family, .warn, port⟩ result).Ends after (.ok reported))
    (early : before ⊆ whole) (late : after ⊆ whole) :
    ((ownOrNamed mode clabName endpoint).either warned).shown whole := by
  obtain ⟨rfl, -, detail, answer, rfl⟩ := report_ends reports
  rcases gathers_runTlsWireProbe mode clabName endpoint true probes with never | seen
  · refine Or.inr ⟨_, late List.mem_cons_self, ?_⟩
    simp only [Command.status, tlsWireStatus, if_neg never]
    rfl
  · exact Or.inl (Evidence.stays _ early seen)

theorem gathers_warnProbe [WordClass] (port : Nat) :
    (warnProbe mode clabName tag endpoint label errorLabel family port).Gathers fun _ =>
      (ownOrNamed mode clabName endpoint).either warned := by
  intro transcript reported ends
  obtain ⟨result, before, after, rfl, probes, reports⟩ := ends_bind_ok ends
  exact warned_of_report _ _ _ _ _ _ _ probes reports (List.subset_append_left _ _)
    (List.subset_append_right _ _)

end Evidence

end QuantumSafe.WireProbes
