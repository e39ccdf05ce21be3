import QuantumSafe.PqcSession

set_option autoImplicit false

/- What the runs for eAPI, SSH and RadSec have seen when they end normally. -/
namespace QuantumSafe.PqcSession

open PyText PyJson PyRegex Interaction Interaction.Program DockerCalls LabSession CeosSession WireProbes
open CeosContract (Ceos eapiSslProfile sshPqcKex sshPqcCiphers)
open CeosJson (CeosJsonError Mentions assertJsonContains assertJsonContains_ok jsonTreeContains_iff)
open LabContract (radsecPort tlsPqcGroup)
open LabReport (recorded)
open Polling (Step)
open ProbeClient (ProbeClientMode curlEapiCommand curlEapiArgv sshPqcCommand sshPqcArgv)
open RenderTopo (IpFamily LabTargets labTargetsForSubnet)
open SshProbe (SshResult probeSshPqc)

/- Processes as evidence -/

/-- A process has ended so. -/
def answeredBy (argv : List Text) (input : Option Text) (accepts : CompletedProcess → Prop) :
    Evidence Command Answer :=
  .exchange fun exchange => exchange.1 = .run argv input none ∧
    ∃ process, exchange.2.outcome = .completed process ∧ accepts process

/-- A session on a switch has ended with 0 and printed such a text. -/
def printedBy (container commands : Text) (accepts : Text → Prop) : Evidence Command Answer :=
  answeredBy (cliArgv container) (some commands) fun process =>
    process.returncode = 0 ∧ accepts process.stdout

/-- A command in a container has ended with 0 and printed such a text. -/
def execBy (container command : Text) (accepts : Text → Prop) : Evidence Command Answer :=
  answeredBy (dockerShell container command) (some []) fun process =>
    process.returncode = 0 ∧ accepts process.stdout

/-- A switch has shown such a tree. -/
def treeBy (loader : Loader) (container showCommand : Text) (accepts : Json → Prop) :
    Evidence Command Answer :=
  printedBy container (showCommands showCommand) fun out =>
    ∃ tree, parseEosJson loader out = .ok tree ∧ accepts tree

/-- What is not left out. -/
def checked (skip : Bool) (evidence : Evidence Command Answer) : Evidence Command Answer :=
  .either (.fact (skip = true)) evidence

section Processes

variable {transcript : List Exchange}

theorem answeredBy_weaken {argv : List Text} {input : Option Text} {strong weak : CompletedProcess → Prop}
    (implies : ∀ process, strong process → weak process)
    (shown : (answeredBy argv input strong).shown transcript) :
    (answeredBy argv input weak).shown transcript := by
  obtain ⟨exchange, member, same, process, ended, accepted⟩ := shown
  exact ⟨exchange, member, same, process, ended, implies process accepted⟩

theorem printedBy_weaken {container commands : Text} {strong weak : Text → Prop}
    (implies : ∀ out, strong out → weak out) (shown : (printedBy container commands strong).shown transcript) :
    (printedBy container commands weak).shown transcript :=
  answeredBy_weaken (fun process fine => ⟨fine.1, implies process.stdout fine.2⟩) shown

theorem execBy_weaken {container command : Text} {strong weak : Text → Prop}
    (implies : ∀ out, strong out → weak out) (shown : (execBy container command strong).shown transcript) :
    (execBy container command weak).shown transcript :=
  answeredBy_weaken (fun process fine => ⟨fine.1, implies process.stdout fine.2⟩) shown

theorem treeBy_weaken {loader : Loader} {container showCommand : Text} {strong weak : Json → Prop}
    (implies : ∀ tree, strong tree → weak tree)
    (shown : (treeBy loader container showCommand strong).shown transcript) :
    (treeBy loader container showCommand weak).shown transcript := by
  refine printedBy_weaken ?_ shown
  rintro out ⟨tree, parses, accepted⟩
  exact ⟨tree, parses, implies tree accepted⟩

theorem gathers_runProcess (argv : List Text) (input : Option Text) :
    (runProcess argv input).Gathers fun result => answeredBy argv input (· = result) := by
  intro transcript result ends
  obtain ⟨answer, rfl, ⟨process, ended, same⟩ | ⟨-, same⟩⟩ := runProcess_ends ends
  · obtain rfl := Except.ok.inj same
    exact ⟨_, List.mem_cons_self, rfl, _, ended, rfl⟩
  · cases same

theorem gathers_ceosCli (container commands : Text) :
    (ceosCli container commands).Gathers fun out => printedBy container commands (· = out) := by
  intro transcript out ends
  obtain ⟨answer, process, member, ended, zero, same⟩ := ceosCli_ok ends
  exact ⟨_, member, rfl, process, ended, zero, same⟩

theorem gathers_dockerExec (container command : Text) :
    (dockerExec container command).Gathers fun result => execBy container command (· = result.stdout) := by
  intro transcript result ends
  obtain ⟨process, before, after, rfl, runs, goes⟩ := ends_bind_ok ends
  split at goes
  · cases goes.2
  · rename_i fine
    obtain rfl := Except.ok.inj goes.2
    refine Evidence.stays _ (List.subset_append_left _ _) (answeredBy_weaken ?_ (gathers_runProcess _ _ runs))
    rintro other rfl
    exact ⟨by simpa using fine, rfl⟩

theorem gathers_ceosShowJson (loader : Loader) (container showCommand : Text) :
    (ceosShowJson loader container showCommand).Gathers fun tree =>
      treeBy loader container showCommand (· = tree) := by
  intro transcript tree ends
  obtain ⟨out, ⟨answer, process, member, ended, zero, same⟩, reads⟩ := ceosShowJson_ok ends
  exact ⟨_, member, rfl, process, ended, zero, tree, by rw [same, reads], rfl⟩

/-- A command of the probe client that may fail. -/
theorem gathers_dockerExecProbe (mode : ProbeClientMode) (clabName command : Text) (check : Bool) :
    (dockerExecProbe mode clabName command check).Gathers fun result =>
      answeredBy (probeArgv mode clabName command) (probeInput mode) (· = result) := by
  unfold dockerExecProbe
  split
  · exact Gathers.fail _ _
  · rename_i node named
    have begins := gathers_runProcess (dockerShell (containerOf clabName node) command) (some [])
    intro transcript result ends
    obtain ⟨process, before, after, rfl, runs, goes⟩ := ends_bind_ok ends
    split at goes
    · cases goes.2
    · obtain rfl := Except.ok.inj goes.2
      rw [probeArgv, probeInput, named]
      exact Evidence.stays _ (List.subset_append_left _ _) (begins runs)

theorem gathers_configChecks {check : Check Unit} {evidence : Evidence Command Answer}
    (gathers : check.Gathers fun _ => evidence) (skip : Bool) :
    (configChecks skip check).Gathers fun _ => checked skip evidence := by
  cases skip
  · exact gathers.weaken fun _ _ shown => Or.inr shown
  · exact Gathers.done (Or.inl rfl)

theorem checked_false {evidence : Evidence Command Answer} {skip : Bool}
    (shown : (checked skip evidence).shown transcript) (kept : skip = false) : evidence.shown transcript :=
  shown.resolve_left (by simp [Evidence.fact, kept])

theorem tells_configChecks {check : Check Unit} {count : Nat} (tells : Tells Passed count check) (skip : Bool) :
    Tells Passed (if skip then 0 else count) (configChecks skip check) := by
  cases skip
  · exact tells
  · exact Tells.done ()

theorem onTargets_ends {clabName mgmtSubnet : Text} {run : LabTargets → Check Unit}
    (ends : (onTargets clabName mgmtSubnet run).Ends transcript (.ok ())) :
    ∃ targets, labTargetsForSubnet clabName mgmtSubnet = .ok targets ∧
      (run targets).Ends transcript (.ok ()) := by
  unfold onTargets at ends
  split at ends
  · cases ends.2
  · rename_i targets found
    exact ⟨targets, found, ends⟩

end Processes

/- The configurations of the switches -/

section Config

variable {printable : Char → Bool} {loader : Loader} {targets : LabTargets} {transcript : List Exchange}

/-- What the switch shows of the profile mentions "valid", which "invalid" does too, and the hybrid
group. -/
def profileTexts (loader : Loader) (targets : LabTargets) (node : Ceos) (profile : Text) :
    Evidence Command Answer :=
  treeBy loader (ceosContainer targets node) (profileCommand profile) fun detail =>
    Mentions detail (text "valid") ∧ Mentions detail tlsPqcGroup

/-- The switch shows something that mentions this. -/
def mentioned (loader : Loader) (targets : LabTargets) (node : Ceos) (showCommand needle : Text) :
    Evidence Command Answer :=
  treeBy loader (ceosContainer targets node) showCommand fun tree => Mentions tree needle

def eapiConfigTexts (loader : Loader) (targets : LabTargets) (node : Ceos) : Evidence Command Answer :=
  (profileTexts loader targets node eapiSslProfile).both
    (mentioned loader targets node (text "show management api http-commands") (text "EAPI"))

/-- The section of the configuration, and the servers of the two VRFs. -/
def sshBound (targets : LabTargets) (node : Ceos) : Evidence Command Answer :=
  (printedBy (ceosContainer targets node) (text "enable\nshow running-config section management ssh\n")
      fun cfg => contains sshPqcKex cfg = true ∧ sshCipherLine cfg = some sshPqcCiphers ∧
        contains (text "vrf MGMT") cfg = true).both
    ((printedBy (ceosContainer targets node) (text "enable\nshow management ssh vrf MGMT\n")
        fun status => contains (text "SSHD status for VRF MGMT: enabled") status = true).both
      (printedBy (ceosContainer targets node) (text "enable\nshow management ssh\n")
        fun status => contains (text "SSHD status for Default VRF: disabled") status = true))

def radsecConfigTexts (loader : Loader) (targets : LabTargets) (node : Ceos) : Evidence Command Answer :=
  (profileTexts loader targets node (text "RADSEC")).both
    (printedBy (ceosContainer targets node) (text "enable\nshow running-config | section radius\n")
      fun cfg => contains (text "tls ssl-profile RADSEC") cfg = true)

/-- The sockets and the groups of the RADIUS server name its port and the hybrid group. -/
def radiusTexts (targets : LabTargets) : Evidence Command Answer :=
  (execBy (containerAt targets .radius) (text "netstat -ltn")
      fun out => contains (text ":" ++ natText radsecPort) out = true).both
    (execBy (containerAt targets .radius) (text "openssl list -tls-groups")
      fun out => contains tlsPqcGroup out = true)

theorem gathers_required (verdict : Except CeosJsonError Unit) :
    (required printable verdict).Gathers fun _ => .fact (verdict = .ok ()) := by
  cases verdict with
  | ok _ => exact Gathers.done rfl
  | error error => exact Gathers.fail _ _

theorem gathers_assertContains (shown needle label : Text) :
    (assertContains printable shown needle label).Gathers fun _ => .fact (contains needle shown = true) := by
  unfold assertContains
  split
  · rename_i found
    exact Gathers.done found
  · exact Gathers.fail _ _

theorem gathers_checkSwitchSslProfile (node : Ceos) (profile : Text) :
    (checkSwitchSslProfile printable loader targets node profile).Gathers fun _ =>
      profileTexts loader targets node profile := by
  refine (gathers_ceosShowJson _ _ _).bind (fun detail => gathers_required _) ?_
  intro detail _ transcript shown accepted
  refine treeBy_weaken ?_ shown
  rintro other rfl
  exact SslProfileChecks.checkSwitchSslProfile_ok.mp accepted

/-- What is shown mentions what it must, and the rest follows. -/
theorem gathers_mentioned (node : Ceos) (showCommand needle label : Text) {rest : Check Unit} :
    ((ceosShowJson loader (ceosContainer targets node) showCommand).bind fun tree =>
      (required printable (assertJsonContains tree needle label)).bind fun _ => rest).Gathers fun _ =>
        mentioned loader targets node showCommand needle := by
  refine (gathers_ceosShowJson _ _ _).bind (fun tree => (gathers_required _).ofHead) ?_
  intro tree _ transcript shown accepted
  refine treeBy_weaken ?_ shown
  rintro other rfl
  exact jsonTreeContains_iff.mp (assertJsonContains_ok.mp accepted)

/-- The same of a text that a session prints. -/
theorem gathers_contained (container commands needle label : Text) {rest : Check Unit} :
    ((ceosCli container commands).bind fun out =>
      (assertContains printable out needle label).bind fun _ => rest).Gathers fun _ =>
        printedBy container commands fun out => contains needle out = true := by
  refine (gathers_ceosCli _ _).bind (fun out => (gathers_assertContains _ _ _).ofHead) ?_
  intro out _ transcript shown found
  refine printedBy_weaken ?_ shown
  rintro other rfl
  exact found

theorem gathers_checkEapiConfig (node : Ceos) :
    (checkEapiConfig printable loader targets node).Gathers fun _ => eapiConfigTexts loader targets node :=
  (gathers_checkSwitchSslProfile _ _).andThen fun _ => gathers_mentioned _ _ _ _

theorem gathers_checkRadsecConfig (node : Ceos) :
    (checkRadsecConfig printable loader targets node).Gathers fun _ =>
      radsecConfigTexts loader targets node :=
  (gathers_checkSwitchSslProfile _ _).andThen fun _ => gathers_contained _ _ _ _

/-- The same in a container. -/
theorem gathers_execContained (container command needle label : Text) {rest : Check Unit} :
    ((dockerExec container command).bind fun result =>
      (assertContains printable result.stdout needle label).bind fun _ => rest).Gathers fun _ =>
        execBy container command fun out => contains needle out = true := by
  refine (gathers_dockerExec _ _).bind (fun result => (gathers_assertContains _ _ _).ofHead) ?_
  intro result _ transcript shown found
  refine execBy_weaken ?_ shown
  rintro other rfl
  exact found

theorem gathers_checkRadiusConfig :
    (checkRadiusConfig printable targets).Gathers fun _ => radiusTexts targets :=
  (gathers_execContained _ _ _ _).both
    (Gathers.ofTail fun _ => Gathers.ofTail fun _ => gathers_execContained _ _ _ _)

theorem gathers_checkSshPqcConfig (node : Ceos) :
    (checkSshPqcConfig printable targets node).Gathers fun _ => sshBound targets node := by
  intro transcript _ ends
  obtain ⟨cfg, first, rest, rfl, asked, onCfg⟩ := ends_bind_ok ends
  obtain ⟨_, none, later, rfl, hasKex, ciphers⟩ := ends_bind_ok onCfg
  split at ciphers
  · cases ciphers.2
  · rename_i cipher
    obtain ⟨_, nothing, last, rfl, hasVrf, servers⟩ := ends_bind_ok ciphers
    have written : contains sshPqcKex cfg = true ∧ sshCipherLine cfg = some sshPqcCiphers ∧
        contains (text "vrf MGMT") cfg = true :=
      ⟨gathers_assertContains _ _ _ hasKex, not_not.mp cipher, gathers_assertContains _ _ _ hasVrf⟩
    have served := (gathers_contained _ _ _ _).both
      (Gathers.ofTail fun _ => Gathers.ofTail fun _ => gathers_contained _ _ _ _) servers
    refine ⟨Evidence.stays _ (List.subset_append_left _ _) (printedBy_weaken ?_ (gathers_ceosCli _ _ asked)),
      Evidence.stays _ ?_ served⟩
    · rintro other rfl
      exact written
    · intro exchange member
      simp [member]

end Config

/- The probes -/

section Probes

variable {printable : Char → Bool} {mode : ProbeClientMode} {targets : LabTargets} {node : Ceos}
  {family : IpFamily}

variable (printable mode targets node family) in
/-- The arguments that `run_curl_eapi` runs. -/
def curlArgv : List Text :=
  match mode with
  | .host => curlEapiArgv (eapiUrl targets node family) eapiPayload eapiUser
  | _ => probeArgv mode targets.clabName (curlEapiCommand printable (eapiUrl targets node family) eapiPayload
      eapiUser mode)

variable (printable mode targets node family) in
/-- The call has ended with 0, and what it printed names a model or a version. -/
def eapiTexts : Evidence Command Answer :=
  answeredBy (curlArgv printable mode targets node family) (probeInput mode) fun process =>
    process.returncode = 0 ∧ eapiAnswered process = true

variable (printable mode targets node family) in
/-- The first algorithms that ssh has printed are the required ones. -/
def sshNegotiated : Evidence Command Answer :=
  answeredBy (sshArgv printable mode targets node family) (probeInput (sshProbeMode mode)) fun process =>
    process.returncode = 0 ∧
      FirstWord SshProbe.kexLabel (process.stdout ++ process.stderr) sshPqcKex ∧
      FirstWord SshProbe.cipherLabel (process.stdout ++ process.stderr) sshPqcCiphers ∧
      contains node.name (process.stdout ++ process.stderr) = true

variable (targets node family) in
/-- `test aaa` has printed the marker of a login. -/
def loginTexts : Evidence Command Answer :=
  printedBy (ceosContainer targets node) (radsecAaaTestCommands (targets.serviceIp .radius family))
    fun out => radsecAaaTestSucceeded out = true

variable (targets node family) in
/-- A ping has ended with 0 and printed "0% packet loss", which "100% packet loss" has in it. -/
def pingTexts : Evidence Command Answer :=
  printedBy (ceosContainer targets node)
    (text "enable\nping vrf MGMT " ++ targets.serviceIp .radius family ++ text " repeat 3\n")
    fun out => contains (text "0% packet loss") out = true

theorem gathers_probeEapi :
    (probeEapi printable mode targets node family).Gathers fun _ =>
      eapiTexts printable mode targets node family := by
  have called : (runCurlEapi printable mode targets node family).Gathers fun result =>
      answeredBy (curlArgv printable mode targets node family) (probeInput mode) (· = result) := by
    cases mode with
    | testRunner => exact gathers_dockerExecProbe .testRunner _ _ true
    | radius => exact gathers_dockerExecProbe .radius _ _ true
    | host => exact gathers_runProcess _ _
  intro transcript _ ends
  obtain ⟨result, before, after, rfl, calls, goes⟩ := ends_bind_ok ends
  dsimp only at goes
  split at goes
  · cases goes.2
  · rename_i fine
    split at goes
    · cases goes.2
    · rename_i answered
      refine Evidence.stays _ (List.subset_append_left _ _) (answeredBy_weaken ?_ (called calls))
      rintro other rfl
      exact ⟨not_not.mp (not_or.mp fine).1, by simpa using answered⟩

theorem gathers_probeSsh :
    (probeSsh printable mode targets node family).Gathers fun _ =>
      sshNegotiated printable mode targets node family := by
  have called : (runSshPqcProbe printable mode targets node family).Gathers fun result =>
      answeredBy (sshArgv printable mode targets node family) (probeInput (sshProbeMode mode)) (· = result) := by
    cases mode with
    | testRunner => exact gathers_dockerExecProbe .testRunner _ _ true
    | radius => exact gathers_dockerExecProbe .testRunner _ _ true
    | host => exact gathers_runProcess _ _
  intro transcript _ ends
  obtain ⟨result, before, after, rfl, calls, goes⟩ := ends_bind_ok ends
  dsimp only at goes
  split at goes
  · cases goes.2
  · rename_i accepted
    refine Evidence.stays _ (List.subset_append_left _ _) (answeredBy_weaken ?_ (called calls))
    rintro other rfl
    exact SshProbe.probeSshPqc_ok.mp accepted

theorem gathers_pingRadius :
    (pingRadius targets node family).Gathers fun _ => pingTexts targets node family := by
  intro transcript _ ends
  obtain ⟨result, before, after, rfl, runs, goes⟩ := ends_bind_ok ends
  split at goes
  · cases goes.2
  · rename_i fine
    refine Evidence.stays _ (List.subset_append_left _ _) (answeredBy_weaken ?_ (gathers_runProcess _ _ runs))
    rintro other rfl
    exact ⟨not_not.mp (not_or.mp fine).1, by simpa using (not_or.mp fine).2⟩

/-- An attempt is over when a login was answered with the marker. -/
theorem radsecAttempt_ends {index : Nat} {step : Step Text Unit} {transcript : List Exchange}
    (ends : (radsecAttempt targets node family index).Ends transcript (.ok step)) :
    (step = .left () ∧ (loginTexts targets node family).shown transcript) ∨
      ∃ out, step = .again out ∧ radsecAaaTestSucceeded out = false := by
  obtain ⟨_, wait, rest, rfl, waits, goes⟩ := ends_bind_ok ends
  obtain ⟨output, before, after, rfl, asks, judges⟩ := ends_bind_ok goes
  split at judges
  · rename_i succeeded
    refine Or.inl ⟨Except.ok.inj judges.2, Evidence.stays _ ?_ (printedBy_weaken ?_ (gathers_ceosCli _ _ asks))⟩
    · intro exchange member
      simp [member]
    · rintro other rfl
      exact succeeded
  · rename_i failed
    exact Or.inr ⟨output, Except.ok.inj judges.2, by simpa using failed⟩

/-- No attempt that is not the last one has printed the marker. -/
theorem radsecAttempts_failed {last : Option Text} {transcript : List Exchange}
    (polls : (pollTimes (radsecAttempt targets node family) radsecAaaPollAttempts 0 none).Ends transcript
      (.ok (.inl last))) : radsecAaaTestSucceeded (last.getD []) = false := by
  have absent : ∀ out, last = some out → radsecAaaTestSucceeded out = false := by
    refine pollTimes_inl ?_ (fun out same => by cases same) polls
    intro index part reason ends
    rcases radsecAttempt_ends ends with ⟨same, -⟩ | ⟨out, same, failed⟩
    · cases same
    · rwa [Step.again.inj same]
  cases last with
  | none => decide
  | some out => exact absent out rfl

theorem gathers_probeRadsecFromSwitch :
    (probeRadsecFromSwitch printable targets node family).Gathers fun _ => loginTexts targets node family := by
  intro transcript _ ends
  obtain ⟨polled, before, after, rfl, polls, goes⟩ := ends_bind_ok ends
  cases polled with
  | inr _ =>
      obtain ⟨parts, count, part, rfl, -, -, last⟩ := pollTimes_left polls
      rcases radsecAttempt_ends last with ⟨-, seen⟩ | ⟨out, same, -⟩
      · refine Evidence.stays _ ?_ seen
        intro exchange member
        simp [member]
      · cases same
  | inl last =>
      have found : radsecAaaTestSucceeded (last.getD []) = true := gathers_assertContains _ _ _ goes
      rw [radsecAttempts_failed polls] at found
      cases found

end Probes

/- What is reported -/

section Told

variable {printable : Char → Bool} {loader : Loader} {mode : ProbeClientMode} {targets : LabTargets}

theorem tells_reportConfig (detail : Text) : Tells Passed 1 (reportConfig detail) :=
  tells_reportOk passed_ok _ _

theorem tells_required (verdict : Except CeosJsonError Unit) : Tells Passed 0 (required printable verdict) := by
  cases verdict with
  | ok _ => exact Tells.done ()
  | error error => exact Tells.fail 0 _

theorem tells_assertContains (shown needle label : Text) :
    Tells Passed 0 (assertContains printable shown needle label) := by
  unfold assertContains
  split
  · exact Tells.done ()
  · exact Tells.fail 0 _

theorem tells_checkSwitchSslProfile (node : Ceos) (profile : Text) :
    Tells Passed 0 (checkSwitchSslProfile printable loader targets node profile) :=
  (tells_ceosShowJson _ _ _).after fun _ => tells_required _

theorem tells_checkEapiConfig (node : Ceos) : Tells Passed 1 (checkEapiConfig printable loader targets node) :=
  (tells_checkSwitchSslProfile _ _).after fun _ => (tells_ceosShowJson _ _ _).after fun _ =>
    (tells_required _).after fun _ => tells_reportConfig _

theorem tells_checkSshPqcConfig (node : Ceos) : Tells Passed 1 (checkSshPqcConfig printable targets node) := by
  refine (tells_ceosCli _ _).after fun cfg => (tells_assertContains _ _ _).after fun _ => ?_
  split
  · exact Tells.fail 1 _
  · exact (tells_assertContains _ _ _).after fun _ => (tells_ceosCli _ _).after fun _ =>
      (tells_assertContains _ _ _).after fun _ => (tells_ceosCli _ _).after fun _ =>
        (tells_assertContains _ _ _).after fun _ => tells_reportConfig _

theorem tells_checkRadsecConfig (node : Ceos) :
    Tells Passed 1 (checkRadsecConfig printable loader targets node) :=
  (tells_checkSwitchSslProfile _ _).after fun _ => (tells_ceosCli _ _).after fun _ =>
    (tells_assertContains _ _ _).after fun _ => tells_reportConfig _

theorem tells_checkRadiusConfig : Tells Passed (1 + 1) (checkRadiusConfig printable targets) :=
  (tells_dockerExec _ _ _).after fun _ => (tells_assertContains _ _ _).after fun _ =>
    (tells_dockerExec _ _ _).after fun _ => (tells_assertContains _ _ _).after fun _ =>
      (tells_reportConfig _).bind fun _ => tells_reportConfig _

theorem tells_dockerExecProbe (mode : ProbeClientMode) (clabName command : Text) (check : Bool) :
    Tells Passed 0 (dockerExecProbe mode clabName command check) := by
  unfold dockerExecProbe
  split
  · exact Tells.fail 0 _
  · refine (tells_runProcess _ _).after fun result => ?_
    split
    · exact Tells.fail 0 _
    · exact Tells.done _

theorem tells_runTlsWireProbe [WordClass] (clabName : Text) (endpoint : Endpoint) (classicalFallback : Bool) :
    Tells Passed 0 (runTlsWireProbe mode clabName endpoint classicalFallback) := by
  have quiet : ∀ groups usePqcConf,
      Tells Passed 0 (runOpensslSClient mode clabName endpoint groups usePqcConf) :=
    fun groups usePqcConf => (tells_runProcess _ _).after fun _ => Tells.done _
  refine (quiet _ _).after fun pqcOutput => ?_
  split
  · exact Tells.done _
  · split
    · exact Tells.done _
    · refine (quiet _ _).after fun classicalOutput => ?_
      split <;> exact Tells.done _

theorem tells_strictProbe [WordClass] (clabName tag : Text) (endpoint : Endpoint) (label errorLabel : Text)
    (family : IpFamily) : Tells Passed 1 (strictProbe mode clabName tag endpoint label errorLabel family) := by
  refine (tells_runTlsWireProbe _ _ _).after fun result transcript reported ends => ?_
  obtain ⟨rfl, passes, detail, answer, rfl⟩ := report_ends ends
  have ok : TlsWire.tlsWireStatus reported .strict = .ok := by
    unfold TlsWire.tlsWireStatus at passes ⊢
    split
    · rfl
    · rename_i never
      rw [if_neg never] at passes
      exact absurd rfl passes
  refine ⟨rfl, List.forall_mem_singleton.mpr ?_⟩
  exact ok

theorem tells_reportProbe (detail : Text) : Tells Passed 1 (reportProbe mode detail) :=
  tells_reportCheck passed_ok _ _

theorem tells_probeEapi (node : Ceos) (family : IpFamily) :
    Tells Passed 1 (probeEapi printable mode targets node family) := by
  have called : Tells Passed 0 (runCurlEapi printable mode targets node family) := by
    cases mode with
    | testRunner => exact tells_dockerExecProbe .testRunner _ _ true
    | radius => exact tells_dockerExecProbe .radius _ _ true
    | host => exact tells_runProcess _ _
  refine called.after fun result => ?_
  dsimp only
  split
  · exact Tells.fail 1 _
  · split
    · exact Tells.fail 1 _
    · exact tells_reportProbe _

theorem tells_probeSsh (node : Ceos) (family : IpFamily) :
    Tells Passed 1 (probeSsh printable mode targets node family) := by
  have called : Tells Passed 0 (runSshPqcProbe printable mode targets node family) := by
    cases mode with
    | testRunner => exact tells_dockerExecProbe .testRunner _ _ true
    | radius => exact tells_dockerExecProbe .testRunner _ _ true
    | host => exact tells_runProcess _ _
  refine called.after fun result => ?_
  dsimp only
  split
  · exact Tells.fail 1 _
  · exact tells_reportCheck passed_ok _ _

theorem tells_pingRadius (node : Ceos) (family : IpFamily) : Tells Passed 1 (pingRadius targets node family) := by
  refine (tells_runProcess _ _).after fun result => ?_
  split
  · exact Tells.fail 1 _
  · exact tells_reportOk passed_ok _ _

/-- With the marker the attempts end, and without it the run does: one report in any case. -/
theorem tells_probeRadsecFromSwitch (node : Ceos) (family : IpFamily) :
    Tells Passed 1 (probeRadsecFromSwitch printable targets node family) := by
  refine (tells_pollTimes (fun index => ?_) _ _ _).afterRun fun part polled polls => ?_
  · refine (MacsecSession.tells_pauseBefore _ _).after fun _ => (tells_ceosCli _ _).after fun output => ?_
    split <;> exact Tells.done _
  · cases polled with
    | inr _ => exact tells_reportOk passed_ok _ _
    | inl last =>
        have absent : ¬ contains radsecAaaSuccessMarker (last.getD []) = true := by
          simpa [radsecAaaTestSucceeded] using radsecAttempts_failed polls
        show Tells Passed 1 (assertContains _ _ _ _)
        rw [assertContains, if_neg absent]
        exact Tells.fail 1 _

end Told

/- The runs -/

section Seen

variable (printable : Char → Bool) (loader : Loader) (mode : ProbeClientMode) (targets : LabTargets)
  (skipConfig : Bool) (transcript : List Exchange)

/-- The texts that every switch was answered with: those of the handshake and of the call on both
families, and those of its configuration. -/
structure EapiSeen : Prop where
  handshakes : ∀ node ∈ ceosNodes, ∀ family ∈ ipFamilies,
    (ownGroups mode targets.clabName (tlsProbeCommon mode targets node family 443 false)).shown transcript
  calls : ∀ node ∈ ceosNodes, ∀ family ∈ ipFamilies,
    (eapiTexts printable mode targets node family).shown transcript
  configured : skipConfig = false → ∀ node ∈ ceosNodes, (eapiConfigTexts loader targets node).shown transcript
  reported : recorded (statuses transcript) = ⟨if skipConfig then 12 else 15, 0, 0, 0⟩

structure SshSeen : Prop where
  sessions : ∀ node ∈ ceosNodes, ∀ family ∈ ipFamilies,
    (sshNegotiated printable mode targets node family).shown transcript
  configured : skipConfig = false → ∀ node ∈ ceosNodes, (sshBound targets node).shown transcript
  reported : recorded (statuses transcript) = ⟨if skipConfig then 6 else 9, 0, 0, 0⟩

/-- The texts of the RadSec run: those of the handshake with the certificate of every switch and of
its login on both families, and those of the server, the configurations and the pings. -/
structure RadsecSeen : Prop where
  handshakes : ∀ node ∈ ceosNodes, ∀ family ∈ ipFamilies,
    (ownGroups mode targets.clabName (radsecEndpoint mode targets node family)).shown transcript
  logins : ∀ node ∈ ceosNodes, ∀ family ∈ ipFamilies, (loginTexts targets node family).shown transcript
  server : skipConfig = false → (radiusTexts targets).shown transcript
  configured : skipConfig = false → ∀ node ∈ ceosNodes,
    (radsecConfigTexts loader targets node).shown transcript
  pings : skipConfig = false → ∀ node ∈ ceosNodes, ∀ family ∈ ipFamilies,
    (pingTexts targets node family).shown transcript
  reported : recorded (statuses transcript) = ⟨if skipConfig then 12 else 23, 0, 0, 0⟩

end Seen

section Runs

variable {printable : Char → Bool} {loader : Loader} {mode : ProbeClientMode} {clabName mgmtSubnet : Text}
  {skipConfig : Bool} {transcript : List Exchange}

/-- What every process of the SSH example prints. -/
def exampleOut : Text :=
  text "ceos1-both ceos2-pqc ceos3-qkd vrf MGMT\n" ++
    text "kex: algorithm: mlkem768x25519-sha256\nkex: cipher: aes256-gcm@openssh.com\n" ++
    text "cipher aes256-gcm@openssh.com\nSSHD status for VRF MGMT: enabled\n" ++
    text "SSHD status for Default VRF: disabled\n"

/-- What every process of the other two prints. -/
def exampleJson : Text :=
  text "\x7b\"profileState\": \"valid\", \"groups\": [\"X25519MLKEM768\"], \"sslProfile\": \"EAPI\", " ++
    text "\"protocol\": \"TLSv1.3\", \"version\": \"4.36\", \"radius\": \"tls ssl-profile RADSEC\", " ++
    text "\"listens\": \":2083\", \"ping\": \"0% packet loss\", \"login\": \"successfully authenticated\"\x7d"

def exampleTree : Json :=
  .object [(text "profileState", .str (text "valid")), (text "groups", .list [.str (text "X25519MLKEM768")]),
    (text "sslProfile", .str (text "EAPI")), (text "protocol", .str (text "TLSv1.3")),
    (text "version", .str (text "4.36")), (text "radius", .str (text "tls ssl-profile RADSEC")),
    (text "listens", .str (text ":2083")), (text "ping", .str (text "0% packet loss")),
    (text "login", .str (text "successfully authenticated"))]

/-- Every process ends with 0 and prints this. -/
def examplePrints (out : Text) (_ : List Exchange) (_ : Command) : Answer := ⟨.completed ⟨0, out, []⟩, 0⟩

/-- `json.loads` on the text of the examples. -/
def exampleLoader : Loader where
  loads shown := if shown = exampleJson then .ok exampleTree else .error .jsonDecodeError
  shown _ := []

theorem runEapiChecks_seen [WordClass]
    (ends : (runEapiChecks printable loader mode clabName mgmtSubnet skipConfig).Ends transcript (.ok ())) :
    ∃ targets, labTargetsForSubnet clabName mgmtSubnet = .ok targets ∧
      EapiSeen printable loader mode targets skipConfig transcript := by
  obtain ⟨targets, found, runs⟩ := onTargets_ends ends
  have node : ∀ node ∈ ceosNodes, (eapiNode printable loader mode targets skipConfig node).Gathers fun _ =>
      (checked skipConfig (eapiConfigTexts loader targets node)).both (.each ipFamilies fun family =>
        (ownGroups mode targets.clabName (tlsProbeCommon mode targets node family 443 false)).both
          (eapiTexts printable mode targets node family)) := by
    intro node _
    exact (gathers_configChecks (gathers_checkEapiConfig node) _).andThen fun _ =>
      Gathers.forEach fun _ _ => (gathers_strictProbe _ _ _ _ _ _ _).andThen fun _ => gathers_probeEapi
  have seen := Gathers.forEach node runs
  have tells : Tells Passed _ (forEach ceosNodes (eapiNode printable loader mode targets skipConfig)) :=
    Tells.forEach fun node => (tells_configChecks (tells_checkEapiConfig node) skipConfig).bind fun _ =>
      Tells.forEach fun family => (tells_strictProbe _ _ _ _ _ _).bind fun _ => tells_probeEapi node family
  refine ⟨targets, found, fun node member family both => ((seen node member).2 family both).1,
    fun node member family both => ((seen node member).2 family both).2,
    fun kept node member => checked_false (seen node member).1 kept, ?_⟩
  rw [tells.recorded runs]
  cases skipConfig <;> rfl

attribute [local instance] PyRegex.asciiWords

def exampleEapi : Check Unit :=
  runEapiChecks (fun _ => true) exampleLoader .testRunner (text "lab") (text "172.20.127.0/24") false

theorem runEapiChecks_seen_example :
    ∃ targets, labTargetsForSubnet (text "lab") (text "172.20.127.0/24") = .ok targets ∧
      EapiSeen (fun _ => true) exampleLoader .testRunner targets false
        (exampleEapi.run (examplePrints exampleJson) []).2 := by
  have ends := ends_run (examplePrints exampleJson) exampleEapi []
  rw [show (exampleEapi.run (examplePrints exampleJson) []).1 = .ok () by decide +kernel] at ends
  exact runEapiChecks_seen ends

theorem runSshChecks_seen
    (ends : (runSshChecks printable mode clabName mgmtSubnet skipConfig).Ends transcript (.ok ())) :
    ∃ targets, labTargetsForSubnet clabName mgmtSubnet = .ok targets ∧
      SshSeen printable mode targets skipConfig transcript := by
  obtain ⟨targets, found, runs⟩ := onTargets_ends ends
  have node : ∀ node ∈ ceosNodes, (sshNode printable mode targets skipConfig node).Gathers fun _ =>
      (checked skipConfig (sshBound targets node)).both
        (.each ipFamilies (sshNegotiated printable mode targets node)) := by
    intro node _
    exact (gathers_configChecks (gathers_checkSshPqcConfig node) _).andThen fun _ =>
      Gathers.forEach fun _ _ => gathers_probeSsh
  have seen := Gathers.forEach node runs
  have tells : Tells Passed _ (forEach ceosNodes (sshNode printable mode targets skipConfig)) :=
    Tells.forEach fun node => (tells_configChecks (tells_checkSshPqcConfig node) skipConfig).bind fun _ =>
      Tells.forEach fun family => tells_probeSsh node family
  refine ⟨targets, found, fun node member => (seen node member).2,
    fun kept node member => checked_false (seen node member).1 kept, ?_⟩
  rw [tells.recorded runs]
  cases skipConfig <;> rfl

def exampleSsh : Check Unit :=
  runSshChecks (fun _ => true) .testRunner (text "lab") (text "172.20.127.0/24") false

theorem runSshChecks_seen_example :
    ∃ targets, labTargetsForSubnet (text "lab") (text "172.20.127.0/24") = .ok targets ∧
      SshSeen (fun _ => true) .testRunner targets false (exampleSsh.run (examplePrints exampleOut) []).2 := by
  have ends := ends_run (examplePrints exampleOut) exampleSsh []
  rw [show (exampleSsh.run (examplePrints exampleOut) []).1 = .ok () by decide +kernel] at ends
  exact runSshChecks_seen ends

theorem runRadsecChecks_seen [WordClass]
    (ends : (runRadsecChecks printable loader mode clabName mgmtSubnet skipConfig).Ends transcript (.ok ())) :
    ∃ targets, labTargetsForSubnet clabName mgmtSubnet = .ok targets ∧
      RadsecSeen loader mode targets skipConfig transcript := by
  obtain ⟨targets, found, runs⟩ := onTargets_ends ends
  have node : ∀ node ∈ ceosNodes, (radsecNode printable loader mode targets skipConfig node).Gathers fun _ =>
      (checked skipConfig (radsecConfigTexts loader targets node)).both
        ((checked skipConfig (.each ipFamilies (pingTexts targets node))).both (.each ipFamilies fun family =>
          (ownGroups mode targets.clabName (radsecEndpoint mode targets node family)).both
            (loginTexts targets node family))) := by
    intro node _
    exact (gathers_configChecks (gathers_checkRadsecConfig node) _).andThen fun _ =>
      (gathers_configChecks (Gathers.forEach fun _ _ => gathers_pingRadius) _).andThen fun _ =>
        Gathers.forEach fun _ _ =>
          (gathers_strictProbe _ _ _ _ _ _ _).andThen fun _ => gathers_probeRadsecFromSwitch
  obtain ⟨server, seen⟩ := (gathers_configChecks gathers_checkRadiusConfig skipConfig).andThen
    (fun _ => Gathers.forEach node) runs
  have tells : Tells Passed _ ((configChecks skipConfig (checkRadiusConfig printable targets)).bind fun _ =>
      forEach ceosNodes (radsecNode printable loader mode targets skipConfig)) :=
    (tells_configChecks tells_checkRadiusConfig skipConfig).bind fun _ => Tells.forEach fun node =>
      (tells_configChecks (tells_checkRadsecConfig node) skipConfig).bind fun _ =>
        (tells_configChecks (Tells.forEach fun family => tells_pingRadius node family) skipConfig).bind fun _ =>
          Tells.forEach fun family => (tells_strictProbe _ _ _ _ _ _).bind fun _ =>
            tells_probeRadsecFromSwitch node family
  refine ⟨targets, found, fun node member family both => ((seen node member).2.2 family both).1,
    fun node member family both => ((seen node member).2.2 family both).2, checked_false server,
    fun kept node member => checked_false (seen node member).1 kept,
    fun kept node member => checked_false (seen node member).2.1 kept, ?_⟩
  rw [tells.recorded runs]
  cases skipConfig <;> rfl

def exampleRadsec : Check Unit :=
  runRadsecChecks (fun _ => true) exampleLoader .testRunner (text "lab") (text "172.20.127.0/24") false

theorem runRadsecChecks_seen_example :
    ∃ targets, labTargetsForSubnet (text "lab") (text "172.20.127.0/24") = .ok targets ∧
      RadsecSeen exampleLoader .testRunner targets false
        (exampleRadsec.run (examplePrints exampleJson) []).2 := by
  have ends := ends_run (examplePrints exampleJson) exampleRadsec []
  rw [show (exampleRadsec.run (examplePrints exampleJson) []).1 = .ok () by decide +kernel] at ends
  exact runRadsecChecks_seen ends

end Runs

end QuantumSafe.PqcSession
