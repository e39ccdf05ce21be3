import QuantumSafe.OpenConfigSession
import QuantumSafe.PqcRuns

set_option autoImplicit false

/- What the run for gNMI, gNOI, gRIBI, gNSI, gNPSI, RESTCONF and eos-sdk-rpc has seen when it ends
normally. -/
namespace QuantumSafe.OpenConfigSession

open PyText PyJson Interaction Interaction.Program DockerCalls LabSession CeosSession WireProbes PqcSession
open PyRegex (WordClass)
open CeosContract (Ceos gnmiSslProfile restconfSslProfile restconfPort eossdkrpcPort gribiSslProfile
  gnsiSslProfile gnpsiSslProfile gribiPort gnpsiPort)
open CeosJson (Mentions assertJsonContains_ok jsonTreeContains jsonTreeContains_iff jsonTruthy)
open JsonTransports (Port jsonTransportSslProfile jsonTransportPort jsonServerAddresses)
open LabReport (recorded)
open ProbeClient (ProbeClientMode)
open RenderTopo (IpFamily LabTargets labTargetsForSubnet)
open TlsWire (TlsWireResult)

/- The configurations of the switches -/

section Config

variable (loader : Loader) (targets : LabTargets) (node : Ceos)

def gnmiConfigTexts : Evidence Command Answer :=
  (profileTexts loader targets node gnmiSslProfile).both
    ((mentioned loader targets node (text "show management api gnmi") gnmiSslProfile).both
      (mentioned loader targets node (profileCommand gnmiSslProfile) (text "radsec-ca.pem")))

def restconfConfigTexts : Evidence Command Answer :=
  (profileTexts loader targets node restconfSslProfile).both
    (mentioned loader targets node (text "show management api restconf") restconfSslProfile)

def eossdkrpcConfigTexts : Evidence Command Answer :=
  (profileTexts loader targets node eossdkrpcSslProfile).both
    ((printedBy (ceosContainer targets node) (text "enable\nshow running-config | section eos-sdk-rpc\n")
        fun cfg => contains (text "ssl profile " ++ eossdkrpcSslProfile) cfg = true).both
      (treeBy loader (ceosContainer targets node) (text "show management api eos-sdk-rpc") fun rpc =>
        jsonTransportSslProfile rpc = some eossdkrpcSslProfile ∧ jsonTruthy rpc (text "enabled") = true))

def gnoiConfigTexts : Evidence Command Answer :=
  (profileTexts loader targets node gnmiSslProfile).both
    (treeBy loader (ceosContainer targets node) (text "show management api gnmi") fun gnmi =>
      Mentions gnmi gnmiSslProfile ∧ jsonTruthy gnmi (text "enabled") = true)

/-- The port that a service uses: the one shown, or else its default. -/
def OnPort (tree : Json) (default : Nat) (port : Port) : Prop :=
  ∃ found, jsonTransportPort tree = .ok found ∧ port = found.getD (.number default)

def gribiConfigTexts : Evidence Command Answer :=
  (profileTexts loader targets node gribiSslProfile).both
    (treeBy loader (ceosContainer targets node) gribiCommand fun gribi =>
      jsonTransportSslProfile gribi = some gribiSslProfile ∧
        (∃ port, OnPort gribi gribiPort port ∧ port.equals gribiPort = true) ∧ Mentions gribi (text "MGMT"))

/-- The text that is looked for the addresses of both families. -/
def NamesIpv6 (blob : Text) : Prop := contains (text "::") blob = true ∨ contains (text "IPv6") blob = true

/-- The addresses are those of the tree, or else what the switch prints. -/
def gribiAddressTexts : Evidence Command Answer :=
  (treeBy loader (ceosContainer targets node) gribiCommand fun gribi =>
      NamesIpv6 (join (text " ") (jsonServerAddresses gribi))).either
    (printedBy (ceosContainer targets node) (text "enable\nshow management api gribi\n") NamesIpv6)

def gnsiConfigTexts : Evidence Command Answer :=
  (profileTexts loader targets node gnsiSslProfile).both
    (treeBy loader (ceosContainer targets node) gnsiCommand fun gnsi =>
      (∃ port, jsonTransportPort gnsi = .ok (some port) ∧ port.equals gnmiPort = true) ∧
        gnsiEnabled gnsi = true ∧ Mentions gnsi (text "certz") ∧ Mentions gnsi (text "authz"))

variable {loader targets node} {printable : Char → Bool}

theorem gathers_checkGnmiConfig :
    (checkGnmiConfig printable loader targets node).Gathers fun _ => gnmiConfigTexts loader targets node :=
  (gathers_checkSwitchSslProfile _ _).andThen fun _ => (gathers_mentioned _ _ _ _).both
    (Gathers.ofTail fun _ => Gathers.ofTail fun _ => gathers_mentioned _ _ _ _)

theorem gathers_checkRestconfConfig :
    (checkRestconfConfig printable loader targets node).Gathers fun _ =>
      restconfConfigTexts loader targets node :=
  (gathers_checkSwitchSslProfile _ _).andThen fun _ => gathers_mentioned _ _ _ _

/-- What is tested on a tree that was shown. -/
theorem gathers_tested {showCommand : Text} {accepts : Json → Prop} {tests : Json → Check Unit}
    (testing : ∀ tree, (tests tree).Gathers fun _ => .fact (accepts tree)) :
    ((ceosShowJson loader (ceosContainer targets node) showCommand).bind tests).Gathers fun _ =>
      treeBy loader (ceosContainer targets node) showCommand accepts := by
  refine (gathers_ceosShowJson _ _ _).bind testing ?_
  intro tree _ transcript shown accepted
  refine treeBy_weaken ?_ shown
  rintro other rfl
  exact accepted

theorem gathers_eossdkrpcService (rpc : Json) :
    (eossdkrpcService printable node rpc).Gathers fun _ =>
      .fact (jsonTransportSslProfile rpc = some eossdkrpcSslProfile ∧
        jsonTruthy rpc (text "enabled") = true) := by
  unfold eossdkrpcService
  split
  · exact Gathers.fail _ _
  · rename_i profile
    split
    · exact Gathers.fail _ _
    · rename_i enabled
      exact Gathers.done ⟨not_not.mp profile, by simpa using enabled⟩

theorem gathers_checkEossdkrpcConfig :
    (checkEossdkrpcConfig printable loader targets node).Gathers fun _ =>
      eossdkrpcConfigTexts loader targets node :=
  (gathers_checkSwitchSslProfile _ _).andThen fun _ => (gathers_contained _ _ _ _).both
    (Gathers.ofTail fun _ => Gathers.ofTail fun _ =>
      gathers_tested fun rpc => (gathers_eossdkrpcService rpc).ofHead)

theorem gathers_checkGnoiConfig :
    (checkGnoiConfig printable loader targets node).Gathers fun _ => gnoiConfigTexts loader targets node := by
  refine (gathers_checkSwitchSslProfile _ _).andThen fun _ => gathers_tested fun gnmi => ?_
  split
  · exact Gathers.fail _ _
  · rename_i accepted
    split
    · exact Gathers.fail _ _
    · rename_i enabled
      intro transcript _ ends
      exact ⟨jsonTreeContains_iff.mp (assertJsonContains_ok.mp accepted), by simpa using enabled⟩

theorem gathers_serviceBound {service profile : Text} {port : Nat} {tree : Json} {more : Check Unit}
    {known : Prop} (goes : more.Gathers fun _ => .fact known) :
    (serviceBound printable node service profile port tree more).Gathers fun _ =>
      .fact (jsonTransportSslProfile tree = some profile ∧
        (∃ found, OnPort tree port found ∧ found.equals port = true) ∧ known) := by
  intro transcript _ ends
  unfold serviceBound at ends
  split at ends
  · cases ends.2
  · rename_i bound
    obtain ⟨found, none, rest, rfl, reads, judges⟩ := ends_bind_ok ends
    split at judges
    · cases judges.2
    · rename_i same
      unfold servicePort at reads
      split at reads
      · cases reads.2
      · rename_i shown read
        obtain rfl := Except.ok.inj reads.2
        exact ⟨not_not.mp bound, ⟨_, ⟨shown, read, rfl⟩, by simpa using same⟩, goes judges⟩

theorem gathers_expectMentioned (found : Bool) (message : Text) :
    (expectMentioned node found message).Gathers fun _ => .fact (found = true) := by
  cases found
  · exact Gathers.fail _ _
  · exact Gathers.done rfl

theorem gathers_checkGribiConfig :
    (checkGribiConfig printable loader targets node).Gathers fun _ =>
      gribiConfigTexts loader targets node := by
  refine (gathers_checkSwitchSslProfile _ _).andThen fun _ => gathers_tested fun gribi => ?_
  refine gathers_serviceBound ((gathers_expectMentioned _ _).ofHead.weaken ?_)
  intro _ transcript found
  exact jsonTreeContains_iff.mp found

theorem gathers_checkGribiIpv6Binding :
    (checkGribiIpv6Binding loader targets node).Gathers fun _ => gribiAddressTexts loader targets node := by
  intro transcript _ ends
  obtain ⟨gribi, first, rest, rfl, asked, goes⟩ := ends_bind_ok ends
  obtain ⟨blob, second, last, rfl, looks, judges⟩ := ends_bind_ok goes
  have names : NamesIpv6 blob := by
    split at judges
    · cases judges.2
    · rename_i named
      by_contra neither
      exact named (by simpa [NamesIpv6] using neither)
  unfold gribiAddresses at looks
  split at looks
  · refine Or.inr (Evidence.stays _ ?_ (printedBy_weaken ?_ (gathers_ceosCli _ _ looks)))
    · intro exchange member
      simp [member]
    · rintro other rfl
      exact names
  · refine Or.inl (Evidence.stays _ (List.subset_append_left _ _) (treeBy_weaken ?_
      (gathers_ceosShowJson _ _ _ asked)))
    rintro other rfl
    rwa [Except.ok.inj looks.2] at names

theorem gathers_gnsiService (gnsi : Json) :
    (gnsiService node gnsi).Gathers fun _ =>
      .fact ((∃ port, jsonTransportPort gnsi = .ok (some port) ∧ port.equals gnmiPort = true) ∧
        gnsiEnabled gnsi = true ∧ Mentions gnsi (text "certz") ∧ Mentions gnsi (text "authz")) := by
  unfold gnsiService
  split
  · exact Gathers.fail _ _
  · rename_i port read
    split
    · exact Gathers.fail _ _
    · rename_i same
      split
      · exact Gathers.fail _ _
      · rename_i enabled
        split
        · exact Gathers.fail _ _
        · rename_i certz
          split
          · exact Gathers.fail _ _
          · rename_i authz
            refine Gathers.done ⟨?_, by simpa using enabled, jsonTreeContains_iff.mp (by simpa using certz),
              jsonTreeContains_iff.mp (by simpa using authz)⟩
            cases port with
            | none => simp at same
            | some found => exact ⟨found, read, by simpa using same⟩

theorem gathers_checkGnsiConfig :
    (checkGnsiConfig printable loader targets node).Gathers fun _ => gnsiConfigTexts loader targets node :=
  (gathers_checkSwitchSslProfile _ _).andThen fun _ =>
    gathers_tested fun gnsi => (gathers_gnsiService gnsi).ofHead

end Config

/- The probes -/

section Probes

variable (printable : Char → Bool) (loader : Loader) (mode : ProbeClientMode) (targets : LabTargets)
  (node : Ceos) (family : IpFamily)

/-- The output of a process, both of its streams. -/
def shownBy (process : CompletedProcess) : Text := process.stdout ++ process.stderr

/-- A command of the probe client has ended with 0, and its output is taken. -/
def clientRan (command : Text) (accepts : Text → Prop) : Evidence Command Answer :=
  answeredBy (probeArgv mode targets.clabName command) (probeInput mode) fun process =>
    process.returncode = 0 ∧ accepts (shownBy process)

/-- One of two commands has ended with 0. -/
def oneRan (first second : Text) : Evidence Command Answer :=
  (clientRan mode targets first fun _ => True).either (clientRan mode targets second fun _ => True)

/-- The client has ended with 0 and printed the name of the switch. -/
def gnmiTexts : Evidence Command Answer :=
  clientRan mode targets (gnmiGetCommand printable mode targets node family) fun output =>
    contains node.name (strip output) = true

/-- One of the two clients has ended with 0, whatever it printed. -/
def gnoiRan : Evidence Command Answer :=
  let target := grpcTarget targets node family (natText gnmiPort)
  oneRan mode targets (gnoicPingCommand printable mode target node.name)
    (grpcurlInvokeCommand printable mode target node.name gnoiPingRpc gnoiPingData)

def gnoiTexts : Evidence Command Answer :=
  clientRan mode targets (gnoicServicesCommand printable mode
    (grpcTarget targets node family (natText gnmiPort)) node.name) fun output =>
      ∀ service ∈ gnoiReflectionServices, contains service output = true

def gribiRan : Evidence Command Answer :=
  let target := grpcTarget targets node family (natText gribiPort)
  oneRan mode targets (gribicGetCommand printable mode target node.name)
    (grpcurlInvokeCommand printable mode target node.name (text "gribi.gRIBI/Get") (text "\x7b\x7d"))

/-- Evidence at the port that the switch has shown for gNSI. -/
def atGnsiPort (evidence : Port → Evidence Command Answer) : Evidence Command Answer :=
  .someValue fun port => (treeBy loader (ceosContainer targets node) gnsiCommand fun gnsi =>
    OnPort gnsi gnmiPort port).both (evidence port)

def gnsiGroups : Evidence Command Answer :=
  atGnsiPort loader targets node fun port =>
    ownGroups mode targets.clabName (gnsiEndpoint mode targets node family port)

def gnsiTexts : Evidence Command Answer :=
  atGnsiPort loader targets node fun port =>
    clientRan mode targets (gnsicCertzGetProfileListCommand printable mode
      (grpcTarget targets node family port.shown) node.name) fun output =>
        contains gnsiSslProfile (strip output) = true

variable {printable loader mode targets node family}

theorem gathers_runGrpcProbe (command : Text) :
    (runGrpcProbe mode targets command).Gathers fun result =>
      answeredBy (probeArgv mode targets.clabName command) (probeInput mode) (· = result) :=
  gathers_dockerExecProbe _ _ _ _

/-- What is tested on the result of a command. -/
theorem clientRan_of {command : Text} {accepts : Text → Prop} {result : CompletedProcess}
    {part whole : List Exchange} (runs : (runGrpcProbe mode targets command).Ends part (.ok result))
    (inside : part ⊆ whole) (zero : result.returncode = 0) (accepted : accepts (shownBy result)) :
    (clientRan mode targets command accepts).shown whole := by
  refine Evidence.stays _ inside (answeredBy_weaken ?_ (gathers_runGrpcProbe _ runs))
  rintro other rfl
  exact ⟨zero, accepted⟩

theorem oneRan_of {first second : Text} {result : CompletedProcess} {part whole : List Exchange}
    (runs : (orElse mode targets first second).Ends part (.ok result)) (inside : part ⊆ whole)
    (zero : result.returncode = 0) : (oneRan mode targets first second).shown whole := by
  obtain ⟨once, early, late, rfl, tries, again⟩ := ends_bind_ok runs
  split at again
  · exact Or.inr (clientRan_of again (List.Subset.trans (List.subset_append_right _ _) inside) zero trivial)
  · obtain rfl := Except.ok.inj again.2
    exact Or.inl (clientRan_of tries (List.Subset.trans (List.subset_append_left _ _) inside) zero trivial)

theorem gathers_probeGnmiGet (wire : TlsWireResult) :
    (probeGnmiGet printable mode targets node family wire).Gathers fun _ =>
      gnmiTexts printable mode targets node family := by
  intro transcript _ ends
  obtain ⟨result, before, after, rfl, runs, goes⟩ := ends_bind_ok ends
  dsimp only at goes
  split at goes
  · cases goes.2
  · rename_i zero
    split at goes
    · cases goes.2
    · rename_i named
      exact clientRan_of runs (List.subset_append_left _ _) (not_not.mp zero) (by simpa [shownBy] using named)

theorem gathers_probeGnoiPing (wire : TlsWireResult) :
    (probeGnoiPing printable mode targets node family wire).Gathers fun _ =>
      gnoiRan printable mode targets node family := by
  intro transcript _ ends
  obtain ⟨result, before, after, rfl, runs, goes⟩ := ends_bind_ok ends
  split at goes
  · cases goes.2
  · rename_i zero
    exact oneRan_of runs (List.subset_append_left _ _) (not_not.mp zero)

theorem gathers_probeGnoiReflection (wire : TlsWireResult) :
    (probeGnoiReflection printable mode targets node family wire).Gathers fun _ =>
      gnoiTexts printable mode targets node family := by
  intro transcript _ ends
  obtain ⟨result, before, after, rfl, runs, goes⟩ := ends_bind_ok ends
  dsimp only at goes
  split at goes
  · cases goes.2
  · rename_i zero
    split at goes
    · cases goes.2
    · rename_i listed
      refine clientRan_of runs (List.subset_append_left _ _) (not_not.mp zero) fun service member => ?_
      have none := List.filter_eq_nil_iff.mp (not_not.mp listed) service member
      simpa [shownBy, output] using none

theorem gathers_probeGribiMtls (wire : TlsWireResult) :
    (probeGribiMtls printable mode targets node family wire).Gathers fun _ =>
      gribiRan printable mode targets node family := by
  intro transcript _ ends
  obtain ⟨result, before, after, rfl, runs, goes⟩ := ends_bind_ok ends
  split at goes
  · cases goes.2
  · rename_i zero
    exact oneRan_of runs (List.subset_append_left _ _) (not_not.mp zero)

theorem gathers_gnsiPort :
    (gnsiPort loader targets node).Gathers fun port =>
      treeBy loader (ceosContainer targets node) gnsiCommand fun gnsi => OnPort gnsi gnmiPort port := by
  intro transcript port ends
  obtain ⟨gnsi, before, after, rfl, asks, reads⟩ := ends_bind_ok ends
  unfold servicePort at reads
  split at reads
  · cases reads.2
  · rename_i found read
    refine Evidence.stays _ (List.subset_append_left _ _) (treeBy_weaken ?_ (gathers_ceosShowJson _ _ _ asks))
    rintro other rfl
    exact ⟨found, read, Except.ok.inj reads.2⟩

theorem gathers_probeGnsiTls [WordClass] :
    (probeGnsiTls loader mode targets node family).Gathers fun _ =>
      gnsiGroups loader mode targets node family := by
  refine gathers_gnsiPort.bind (fun port => gathers_strictProbe _ _ _ _ _ _ _) ?_
  intro port wire transcript shown shaken
  exact ⟨port, shown, shaken⟩

theorem gathers_probeGnsiCertzProfilelist (wire : TlsWireResult) :
    (probeGnsiCertzProfilelist printable loader mode targets node family wire).Gathers fun _ =>
      gnsiTexts printable loader mode targets node family := by
  intro transcript _ ends
  obtain ⟨port, asked, rest, rfl, asks, goes⟩ := ends_bind_ok ends
  obtain ⟨result, before, after, rfl, runs, judges⟩ := ends_bind_ok goes
  dsimp only at judges
  split at judges
  · cases judges.2
  · rename_i zero
    split at judges
    · cases judges.2
    · rename_i named
      refine ⟨port, Evidence.stays _ (List.subset_append_left _ _) (gathers_gnsiPort asks),
        clientRan_of runs ?_ (not_not.mp zero) (by simpa [shownBy, output] using named)⟩
      intro exchange member
      simp [member]

end Probes

section Gnpsi

variable (printable : Char → Bool) (mode : ProbeClientMode) (targets : LabTargets) (node : Ceos)
  (family : IpFamily)

def gnpsiShow : Text := text "enable\nshow management api gnpsi\n"

/-- The switch could not be asked for gNPSI, or does not support it. -/
def gnpsiUnsupported : Evidence Command Answer :=
  .exchange fun exchange => exchange.1 = .run (cliArgv (ceosContainer targets node)) (some gnpsiShow) none ∧
    ∀ process, exchange.2.outcome = .completed process → process.returncode = 0 →
      gnpsiSupported process.stdout = false

/-- The handshake was refused, and this is reported as skipped. -/
def gnpsiSkipped : Evidence Command Answer :=
  (sClientPrinted mode targets.clabName (gnpsiEndpoint mode targets node family) none true Refused).both
    (.exchange fun exchange => exchange.1 = .report .skip testRunnerTag (refusedDetail family))

def gnpsiTexts : Evidence Command Answer :=
  clientRan mode targets (gnoicServicesCommand printable mode
    (grpcTarget targets node family (natText gnpsiPort)) node.name) fun output =>
      contains gnpsiService output = true

def gnpsiServed : Evidence Command Answer :=
  (gnpsiSkipped mode targets node family).either
    (((ownOrNamed mode targets.clabName (gnpsiEndpoint mode targets node family)).either warned).both
      (gnpsiTexts printable mode targets node family))

variable {printable mode targets node family}

/-- A session whose exceptions are caught: there is a text where it has succeeded. -/
theorem orNone_ceosCli {container commands : Text} {found : Option Text} {transcript : List Exchange}
    (ends : (orNone (ceosCli container commands)).Ends transcript (.ok found)) :
    ∃ answer, transcript = [(.run (cliArgv container) (some commands) none, answer)] ∧
      ∀ process, answer.outcome = .completed process → process.returncode = 0 →
        found = some process.stdout := by
  rcases ends_handle_iff.mp ends with ⟨value, same, completes⟩ | ⟨error, before, after, rfl, fails, rfl, given⟩
  · obtain ⟨out, first, rest, rfl, succeeds, rfl, given⟩ := ends_bind_ok completes
    obtain ⟨answer, rfl, ⟨process, ended, -, printed⟩ | ⟨-, error, printed⟩⟩ := ceosCli_ends succeeds
    · refine ⟨answer, rfl, fun other completed _ => ?_⟩
      cases ended.symm.trans completed
      rw [Except.ok.inj same, Except.ok.inj given, Except.ok.inj printed]
    · cases printed
  · rcases ends_bind_iff.mp fails with ⟨out, first, rest, -, -, done⟩ | ⟨raised, -, raises⟩
    · cases done.2
    · obtain ⟨answer, rfl, ⟨process, -, -, printed⟩ | ⟨failed, -⟩⟩ := ceosCli_ends raises
      · cases printed
      · exact ⟨answer, rfl, fun process completed zero => absurd ⟨process, completed, zero⟩ failed⟩

theorem gathers_gnpsiSupportedOnCeos :
    (gnpsiSupportedOnCeos targets node).Gathers fun supported =>
      .either (.fact (supported = true)) (gnpsiUnsupported targets node) := by
  intro transcript supported ends
  obtain ⟨found, asked, rest, rfl, asks, rfl, same⟩ := ends_bind_ok ends
  obtain rfl := Except.ok.inj same
  obtain ⟨answer, rfl, gives⟩ := orNone_ceosCli asks
  by_cases supports : found.any gnpsiSupported = true
  · exact Or.inl supports
  · refine Or.inr ⟨_, List.mem_cons_self, rfl, fun process completed zero => ?_⟩
    rw [gives process completed zero] at supports
    simpa using supports

theorem gathers_gnpsiEnabled {loader : Loader} (skipConfig : Bool) :
    (gnpsiEnabled printable loader targets skipConfig node true).Gathers fun supported =>
      .either (.fact (supported = true)) (gnpsiUnsupported targets node) := by
  cases skipConfig with
  | false => exact gathers_gnpsiSupportedOnCeos.keep.keep
  | true => exact gathers_gnpsiSupportedOnCeos

theorem gathers_probeGnpsiTls [WordClass] :
    (probeGnpsiTls mode targets node family).Gathers fun reported =>
      .either (Evidence.both (.fact (reported = none)) (gnpsiSkipped mode targets node family))
        (.both (.fact (reported ≠ none))
          ((ownOrNamed mode targets.clabName (gnpsiEndpoint mode targets node family)).either warned)) := by
  intro transcript reported ends
  obtain ⟨result, before, after, rfl, probes, goes⟩ := ends_bind_ok ends
  have served : ∀ part, part ⊆ after →
      (reportGnpsiTls node family result).Ends part (.ok reported) → reported ≠ none ∧
      ((ownOrNamed mode targets.clabName (gnpsiEndpoint mode targets node family)).either warned).shown
        (before ++ after) := by
    intro part inside reports
    obtain ⟨told, tells, rest, rfl, tellsIt, -, same⟩ := ends_bind_ok reports
    refine ⟨by rw [Except.ok.inj same]; exact Option.some_ne_none _, ?_⟩
    refine warned_of_report _ _ _ _ _ _ _ probes tellsIt (List.subset_append_left _ _) ?_
    exact List.Subset.trans (List.subset_append_left _ _)
      (List.Subset.trans inside (List.subset_append_right _ _))
  split at goes
  · exact Or.inr (served after (List.Subset.refl _) goes)
  · obtain ⟨raw, again, last, rfl, asks, judges⟩ := ends_bind_ok goes
    split at judges
    · rename_i refused
      obtain ⟨_, told, rest, rfl, tells, rfl, same⟩ := ends_bind_ok judges
      obtain ⟨answer, rfl, -⟩ := reportCheck_ends tells
      have printed := (gathers_sClient _ _ _ _ _ Refused asks).resolve_left (not_not.mpr refused)
      refine Or.inl ⟨Except.ok.inj same, Evidence.stays _ ?_ printed, _, List.mem_append_right _
        (List.mem_append_right _ (List.mem_append_left _ List.mem_cons_self)), rfl⟩
      intro exchange member
      simp [member]
    · exact Or.inr (served last (List.subset_append_right _ _) judges)

theorem gathers_probeGnpsiServices (wire : TlsWireResult) :
    (probeGnpsiServices printable mode targets node family wire).Gathers fun _ =>
      gnpsiTexts printable mode targets node family := by
  intro transcript _ ends
  obtain ⟨result, before, after, rfl, runs, goes⟩ := ends_bind_ok ends
  split at goes
  · cases goes.2
  · rename_i zero
    split at goes
    · cases goes.2
    · rename_i named
      exact clientRan_of runs (List.subset_append_left _ _) (not_not.mp zero)
        (by simpa [shownBy, output] using named)

theorem gathers_gnpsiFamily [WordClass] :
    (gnpsiFamily printable mode targets node family).Gathers fun _ =>
      gnpsiServed printable mode targets node family := by
  intro transcript _ ends
  obtain ⟨reported, before, after, rfl, probes, goes⟩ := ends_bind_ok ends
  rcases gathers_probeGnpsiTls probes with ⟨-, skipped⟩ | ⟨some, seen⟩
  · exact Or.inl (Evidence.stays _ (List.subset_append_left _ _) skipped)
  · cases reported with
    | none => exact absurd rfl some
    | some wire =>
        obtain ⟨_, listed, rest, rfl, lists, -⟩ := ends_bind_ok goes
        refine Or.inr ⟨Evidence.stays _ (List.subset_append_left _ _) seen,
          Evidence.stays _ ?_ (gathers_probeGnpsiServices wire lists)⟩
        intro exchange member
        simp [member]

theorem gathers_gnpsiGroup [WordClass] {loader : Loader} (skipConfig : Bool) :
    (gnpsiGroup printable loader mode targets skipConfig node true).Gathers fun _ =>
      (gnpsiUnsupported targets node).either
        (.each ipFamilies (gnpsiServed printable mode targets node)) := by
  intro transcript _ ends
  obtain ⟨supported, before, after, rfl, asks, goes⟩ := ends_bind_ok ends
  rcases gathers_gnpsiEnabled skipConfig asks with rfl | unsupported
  · obtain ⟨_, probed, last, rfl, probes, -⟩ := ends_bind_ok goes
    refine Or.inr (Evidence.stays _ ?_ (Gathers.forEach (fun _ _ => gathers_gnpsiFamily) probes))
    intro exchange member
    simp [member]
  · exact Or.inl (Evidence.stays _ (List.subset_append_left _ _) unsupported)

end Gnpsi

/- The run -/

section Run

variable {printable : Char → Bool} {loader : Loader} {mode : ProbeClientMode} {targets : LabTargets}
  {node : Ceos} {family : IpFamily} {skipConfig : Bool} {transcript : List Exchange}

/-- The host has no client for these commands. -/
theorem dockerExecProbe_client {clabName command : Text} {check : Bool} {result : CompletedProcess}
    (ends : (dockerExecProbe mode clabName command check).Ends transcript (.ok result)) : mode ≠ .host := by
  rintro rfl
  cases ends.2

theorem gathers_gnmiFamily [WordClass] :
    (gnmiFamily printable mode targets node family).Gathers fun _ =>
      (ownGroups mode targets.clabName (tlsProbeCommon mode targets node family gnmiPort false)).both
        ((ownGroups mode targets.clabName (tlsProbeCommon mode targets node family gnmiPort true)).both
          (Evidence.both (.fact (mode ≠ .host)) (gnmiTexts printable mode targets node family))) := by
  have client : ∀ wire, (probeGnmiGet printable mode targets node family wire).Gathers fun _ =>
      .fact (mode ≠ .host) := by
    intro wire part _ ends
    obtain ⟨result, before, after, rfl, runs, -⟩ := ends_bind_ok ends
    exact dockerExecProbe_client runs
  exact (gathers_strictProbe _ _ _ _ _ _ _).andThen fun _ => (gathers_strictProbe _ _ _ _ _ _ _).andThen
    fun wire => (client wire).both (gathers_probeGnmiGet wire)

theorem gathers_gnoiGroup [WordClass] :
    (gnoiGroup printable loader mode targets skipConfig node).Gathers fun _ =>
      (checked skipConfig (gnoiConfigTexts loader targets node)).both (.each ipFamilies fun family =>
        (gnoiRan printable mode targets node family).both (gnoiTexts printable mode targets node family)) :=
  (gathers_configChecks gathers_checkGnoiConfig _).andThen fun _ => Gathers.forEach fun _ _ =>
    Gathers.ofTail fun wire => (gathers_probeGnoiPing wire).andThen fun _ => gathers_probeGnoiReflection wire

theorem gathers_gribiGroup [WordClass] :
    (gribiGroup printable loader mode targets skipConfig node).Gathers fun _ =>
      (checked skipConfig
        ((gribiConfigTexts loader targets node).both (gribiAddressTexts loader targets node))).both
        (.each ipFamilies fun family =>
          ((ownOrNamed mode targets.clabName (tlsProbeCommon mode targets node family gribiPort true)).either
            warned).both (gribiRan printable mode targets node family)) := by
  refine (gathers_configChecks ?_ _).andThen fun _ => Gathers.forEach fun _ _ =>
    (gathers_warnProbe _ _ _ _ _ _ _ _).andThen fun wire => gathers_probeGribiMtls wire
  exact gathers_checkGribiConfig.andThen fun _ => Gathers.ofTail fun _ => gathers_checkGribiIpv6Binding

theorem gathers_gnsiGroup [WordClass] :
    (gnsiGroup printable loader mode targets skipConfig node).Gathers fun _ =>
      (checked skipConfig (gnsiConfigTexts loader targets node)).both (.each ipFamilies fun family =>
        (gnsiGroups loader mode targets node family).both
          (gnsiTexts printable loader mode targets node family)) :=
  (gathers_configChecks gathers_checkGnsiConfig _).andThen fun _ => Gathers.forEach fun _ _ =>
    gathers_probeGnsiTls.andThen fun wire => gathers_probeGnsiCertzProfilelist wire

theorem gathers_probeEossdkrpcTls [WordClass] :
    (probeEossdkrpcTls mode targets node family).Gathers fun _ => Evidence.either (.fact (family = .ipv6))
      ((ownOrNamed mode targets.clabName (tlsProbeCommon mode targets node family eossdkrpcPort true)).either
        warned) := by
  cases family with
  | ipv4 => exact ((gathers_warnProbe _ _ _ _ _ _ _ _).weaken fun _ _ shown => Or.inr shown).ofHead
  | ipv6 => exact fun _ _ _ => Or.inl rfl

/-- What one switch has shown of its services. -/
def servicesSeen (printable : Char → Bool) (loader : Loader) (mode : ProbeClientMode) (targets : LabTargets)
    (skipConfig : Bool) (node : Ceos) : Evidence Command Answer :=
  ((checked skipConfig (gnoiConfigTexts loader targets node)).both (.each ipFamilies fun family =>
    (gnoiRan printable mode targets node family).both (gnoiTexts printable mode targets node family))).both
  (((checked skipConfig
      ((gribiConfigTexts loader targets node).both (gribiAddressTexts loader targets node))).both
    (.each ipFamilies fun family =>
      ((ownOrNamed mode targets.clabName (tlsProbeCommon mode targets node family gribiPort true)).either
        warned).both (gribiRan printable mode targets node family))).both
  (((checked skipConfig (gnsiConfigTexts loader targets node)).both (.each ipFamilies fun family =>
    (gnsiGroups loader mode targets node family).both
      (gnsiTexts printable loader mode targets node family))).both
  ((gnpsiUnsupported targets node).either (.each ipFamilies (gnpsiServed printable mode targets node)))))

theorem gathers_runOpenconfigGrpcChecks [WordClass] :
    (runOpenconfigGrpcChecks printable loader mode targets skipConfig [node]).Gathers fun _ =>
      servicesSeen printable loader mode targets skipConfig node :=
  Gathers.ofHead (gathers_gnoiGroup.andThen fun _ => gathers_gribiGroup.andThen fun _ =>
    gathers_gnsiGroup.andThen fun _ => gathers_gnpsiGroup skipConfig)

theorem gathers_nodeConfigs :
    (nodeConfigs printable loader targets node).Gathers fun _ =>
      (gnmiConfigTexts loader targets node).both
        ((restconfConfigTexts loader targets node).both (eossdkrpcConfigTexts loader targets node)) :=
  gathers_checkGnmiConfig.andThen fun _ => gathers_checkRestconfConfig.andThen fun _ =>
    gathers_checkEossdkrpcConfig

theorem gathers_openconfigNode [WordClass] :
    (openconfigNode printable loader mode targets skipConfig node).Gathers fun _ =>
      (checked skipConfig ((gnmiConfigTexts loader targets node).both
        ((restconfConfigTexts loader targets node).both (eossdkrpcConfigTexts loader targets node)))).both
      ((Evidence.each ipFamilies fun family =>
        (ownGroups mode targets.clabName (tlsProbeCommon mode targets node family gnmiPort false)).both
          ((ownGroups mode targets.clabName (tlsProbeCommon mode targets node family gnmiPort true)).both
            (Evidence.both (.fact (mode ≠ .host)) (gnmiTexts printable mode targets node family)))).both
      ((servicesSeen printable loader mode targets skipConfig node).both
      ((Evidence.each ipFamilies fun family =>
        ownGroups mode targets.clabName (tlsProbeCommon mode targets node family restconfPort false)).both
      (Evidence.each ipFamilies fun family => Evidence.either (.fact (family = .ipv6))
        ((ownOrNamed mode targets.clabName (tlsProbeCommon mode targets node family eossdkrpcPort true)).either
          warned))))) :=
  (gathers_configChecks gathers_nodeConfigs _).andThen fun _ =>
    (Gathers.forEach fun _ _ => gathers_gnmiFamily).andThen fun _ =>
      gathers_runOpenconfigGrpcChecks.andThen fun _ =>
        (Gathers.forEach fun _ _ => (gathers_strictProbe _ _ _ _ _ _ _).ofHead).andThen fun _ =>
          Gathers.forEach fun _ _ => gathers_probeEossdkrpcTls.ofHead

/-- Without a recorded warning. -/
theorem unwarned {evidence : Evidence Command Answer} (shown : (evidence.either warned).shown transcript)
    (none : (recorded (statuses transcript)).warn = 0) : evidence.shown transcript := by
  refine shown.resolve_right ?_
  rintro ⟨exchange, member, reported⟩
  exact LabReport.recorded_warn (List.mem_filterMap.mpr ⟨exchange, member, reported⟩) none

end Run

section Seen

variable (printable : Char → Bool) (loader : Loader) (mode : ProbeClientMode) (targets : LabTargets)
  (skipConfig : Bool) (transcript : List Exchange)

/-- What the probes of a switch have printed on one family. Those of gRIBI and eos-sdk-rpc may print
another group, which leaves a warning. -/
structure FamilySeen (node : Ceos) (family : IpFamily) : Prop where
  gnmi :
    (ownGroups mode targets.clabName (tlsProbeCommon mode targets node family gnmiPort false)).shown transcript ∧
    (ownGroups mode targets.clabName (tlsProbeCommon mode targets node family gnmiPort true)).shown transcript
  gnmiGet : (gnmiTexts printable mode targets node family).shown transcript
  gnoi : (gnoiRan printable mode targets node family).shown transcript ∧
    (gnoiTexts printable mode targets node family).shown transcript
  gribi : (recorded (statuses transcript)).warn = 0 → (ownOrNamed mode targets.clabName
    (tlsProbeCommon mode targets node family gribiPort true)).shown transcript
  gribiGet : (gribiRan printable mode targets node family).shown transcript
  gnsi : (gnsiGroups loader mode targets node family).shown transcript ∧
    (gnsiTexts printable loader mode targets node family).shown transcript
  restconf : (ownGroups mode targets.clabName
    (tlsProbeCommon mode targets node family restconfPort false)).shown transcript
  eossdkrpc : family = .ipv4 → (recorded (statuses transcript)).warn = 0 → (ownOrNamed mode
    targets.clabName (tlsProbeCommon mode targets node family eossdkrpcPort true)).shown transcript

/-- gNPSI on one family: skipped, or answered with its name. -/
def GnpsiSeen (node : Ceos) (family : IpFamily) : Prop :=
  (gnpsiSkipped mode targets node family).shown transcript ∨
    ((recorded (statuses transcript)).warn = 0 →
      (ownOrNamed mode targets.clabName (gnpsiEndpoint mode targets node family)).shown transcript) ∧
    (gnpsiTexts printable mode targets node family).shown transcript

/-- The texts that a switch has shown of its configuration. -/
structure ConfigSeen (node : Ceos) : Prop where
  gnmi : (gnmiConfigTexts loader targets node).shown transcript
  restconf : (restconfConfigTexts loader targets node).shown transcript
  eossdkrpc : (eossdkrpcConfigTexts loader targets node).shown transcript
  gnoi : (gnoiConfigTexts loader targets node).shown transcript
  gribi : (gribiConfigTexts loader targets node).shown transcript ∧
    (gribiAddressTexts loader targets node).shown transcript
  gnsi : (gnsiConfigTexts loader targets node).shown transcript

structure OpenconfigSeen : Prop where
  client : mode ≠ .host
  families : ∀ node ∈ ceosNodes, ∀ family ∈ ipFamilies,
    FamilySeen printable loader mode targets transcript node family
  gnpsi : ∀ node ∈ ceosNodes, (gnpsiUnsupported targets node).shown transcript ∨
    ∀ family ∈ ipFamilies, GnpsiSeen printable mode targets transcript node family
  configured : skipConfig = false → ∀ node ∈ ceosNodes, ConfigSeen loader targets transcript node

end Seen

section Run

variable {printable : Char → Bool} {loader : Loader} {mode : ProbeClientMode} {clabName mgmtSubnet : Text}
  {skipConfig : Bool} {transcript : List Exchange}

theorem runOpenconfigChecks_seen [WordClass]
    (ends : (runOpenconfigChecks printable loader mode skipConfig clabName mgmtSubnet).Ends transcript
      (.ok ())) :
    ∃ targets, labTargetsForSubnet clabName mgmtSubnet = .ok targets ∧
      OpenconfigSeen printable loader mode targets skipConfig transcript := by
  obtain ⟨targets, found, runs⟩ := onTargets_ends ends
  have seen := Gathers.forEach (fun _ _ => gathers_openconfigNode) runs
  refine ⟨targets, found, ?_, ?_, ?_, ?_⟩
  · obtain ⟨-, gnmi, -⟩ := seen .ceos1Both (by decide)
    exact (gnmi .ipv4 (by decide)).2.2.1
  · intro node inNodes family inFamilies
    obtain ⟨-, gnmi, ⟨gnoi, gribi, gnsi, -⟩, restconf, eossdkrpc⟩ := seen node inNodes
    obtain ⟨tls, mtls, -, answered⟩ := gnmi family inFamilies
    refine
      { gnmi := ⟨tls, mtls⟩
        gnmiGet := answered
        gnoi := gnoi.2 family inFamilies
        gribi := unwarned (gribi.2 family inFamilies).1
        gribiGet := (gribi.2 family inFamilies).2
        gnsi := gnsi.2 family inFamilies
        restconf := restconf family inFamilies
        eossdkrpc := ?_ }
    rintro rfl none
    rcases eossdkrpc .ipv4 inFamilies with other | shown
    · cases other
    · exact unwarned shown none
  · intro node inNodes
    obtain ⟨-, -, ⟨-, -, -, gnpsi⟩, -⟩ := seen node inNodes
    rcases gnpsi with unsupported | served
    · exact Or.inl unsupported
    · refine Or.inr fun family inFamilies => ?_
      rcases served family inFamilies with skipped | ⟨shaken, listed⟩
      · exact Or.inl skipped
      · exact Or.inr ⟨unwarned shaken, listed⟩
  · intro kept node inNodes
    obtain ⟨config, -, ⟨gnoi, gribi, gnsi, -⟩, -⟩ := seen node inNodes
    obtain ⟨gnmi, restconf, eossdkrpc⟩ := checked_false config kept
    exact ⟨gnmi, restconf, eossdkrpc, checked_false gnoi.1 kept, checked_false gribi.1 kept,
      checked_false gnsi.1 kept⟩

/-- What `show management api ...` prints of a service. -/
def serviceJson (profile : Text) (port : Nat) : Text :=
  text "\x7b\"enabled\": true, \"transports\": \x7b\"default\": \x7b\"enabled\": true, \"sslProfile\": \"" ++
    profile ++ text "\", \"port\": " ++ natText port ++
    text ", \"vrfs\": \x7b\"MGMT\": \x7b\"ipAddrs\": [\"::\"]\x7d\x7d\x7d\x7d, \"addresses\": [\"::\"], " ++
    text "\"services\": [\"certz\", \"authz\"], \"source\": \"sflow\"\x7d"

def serviceTree (profile : Text) (port : Nat) : Json :=
  .object [(text "enabled", .bool true),
    (text "transports", .object [(text "default", .object [(text "enabled", .bool true),
      (text "sslProfile", .str profile), (text "port", .int port),
      (text "vrfs", .object [(text "MGMT", .object [(text "ipAddrs", .list [.str (text "::")])])])])]),
    (text "addresses", .list [.str (text "::")]),
    (text "services", .list [.str (text "certz"), .str (text "authz")]), (text "source", .str (text "sflow"))]

/-- What `show management security ssl profile ...` prints. -/
def profileJson : Text :=
  text "\x7b\"profileState\": \"valid\", \"groups\": [\"X25519MLKEM768\"], \"trust\": [\"radsec-ca.pem\"]\x7d"

def profileTree : Json :=
  .object [(text "profileState", .str (text "valid")), (text "groups", .list [.str (text "X25519MLKEM768")]),
    (text "trust", .list [.str (text "radsec-ca.pem")])]

/-- The services of the example. -/
def exampleServices : List (Text × Text × Nat) :=
  [(text "gnmi", gnmiSslProfile, gnmiPort), (text "restconf", restconfSslProfile, restconfPort),
    (text "eos-sdk-rpc", eossdkrpcSslProfile, eossdkrpcPort), (text "gribi", gribiSslProfile, gribiPort),
    (text "gnsi", gnmiSslProfile, gnmiPort), (text "gnpsi", gnpsiSslProfile, gnpsiPort)]

/-- `json.loads` on the texts of the example. -/
def serviceLoader : Loader where
  loads shown :=
    if shown = profileJson then .ok profileTree
    else
      match exampleServices.find? fun (_, profile, port) => shown == serviceJson profile port with
      | some (_, profile, port) => .ok (serviceTree profile port)
      | none => .error .jsonDecodeError
  shown _ := []

/-- What is printed where no JSON is asked for. -/
def plainOut : Text :=
  text "TLSv1.3 X25519MLKEM768 ssl profile GNMI GNSI ceos1-both ceos2-pqc ceos3-qkd " ++
    text "gnoi.system.System gnpsi.gNPSI"

def serviceAnswers (_ : List Exchange) : Command → Answer
  | .run _ input _ =>
      let asked := input.getD []
      let printed :=
        if contains (text "detail | json") asked then profileJson
        else
          match exampleServices.find? fun (name, _) => contains (text "api " ++ name ++ text " | json") asked with
          | some (_, profile, port) => serviceJson profile port
          | none => plainOut
      ⟨.completed ⟨0, printed, []⟩, 0⟩
  | _ => ⟨.timeoutExpired, 0⟩

attribute [local instance] PyRegex.asciiWords

def exampleOpenconfig : Check Unit :=
  runOpenconfigChecks (fun _ => true) serviceLoader .testRunner false (text "lab") (text "172.20.127.0/24")

theorem runOpenconfigChecks_seen_example :
    ∃ targets, labTargetsForSubnet (text "lab") (text "172.20.127.0/24") = .ok targets ∧
      OpenconfigSeen (fun _ => true) serviceLoader .testRunner targets false
        (exampleOpenconfig.run serviceAnswers []).2 := by
  have ends := ends_run serviceAnswers exampleOpenconfig []
  rw [show (exampleOpenconfig.run serviceAnswers []).1 = .ok () by decide +kernel] at ends
  exact runOpenconfigChecks_seen ends

end Run

end QuantumSafe.OpenConfigSession
