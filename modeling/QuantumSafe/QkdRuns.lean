import QuantumSafe.QkdSession

set_option autoImplicit false

/- What a run of the QuaDRA checks with exit code 0 has seen: the texts that its checks have found in
the output of its own sessions and in the logs. -/
namespace QuantumSafe.QkdSession

open PyText PyJson Interaction Interaction.Program DockerCalls LabSession CeosSession
open PyRegex (WordClass)
open CeosContract (Ceos kmeSaeId kmeBSaeId quadraMacsecProfileMaster quadraMacsecProfileSlave)
open DaemonStatus (parseDaemonQuadraStatus)
open InstallQuadra (extensionInstalled showExtensions showDaemon)
open KmeHttp (dockerExecTimeoutSec)
open LabContract (ceosQuadraNodes)
open LabReport (recorded)
open MacsecSession (quadraMaster quadraSlave quadraPeerIp interfaceCommand)
open PingJudges (SuccessTexts pingTextSuccess_texts)
open StaticSak (StaticSakProfile CrossMapped LiveInSync masterIntf slaveIntf parseStaticSakProfile
  usesEncryptedKeys)
open TlsWire (CheckStatus)

section Evidence

variable (loader : Loader) (clabName swix : Text) (part : List Exchange)

/-- The listing of the extensions has this one as `extension_installed` looks for it. -/
def Installed [WordClass] (node : Ceos) : Prop :=
  ∃ out, Printed (ceosContainer clabName node) showExtensions out part ∧ extensionInstalled out swix = true

/-- The daemon of a switch has shown that it runs, and its role as the status of the agent. -/
def Active (node : Ceos) (out : Text) : Prop :=
  Printed (ceosContainer clabName node) showDaemon out part ∧ runningRe.found out = true ∧
    agentRole out = some (expectedAgentRole node)

/-- The profile of a switch is that of its running configuration. -/
def Configured (node : Ceos) (name : Text) (profile : StaticSakProfile) : Prop :=
  ∃ cfg, Printed (ceosContainer clabName node) sectionCommand cfg part ∧
    parseStaticSakProfile cfg name = .ok profile

/-- The live interface has the association numbers of the profile. -/
def Live (node : Ceos) (interface : Text) (profile : StaticSakProfile) : Prop :=
  ∃ payload, Shown loader (ceosContainer clabName node) (interfaceCommand interface) payload part ∧
    LiveInSync (.ok payload) profile

/-- Each channel of one switch is mapped to a channel of the other one. The keys are equal where
they can be read, and used on both interfaces where they cannot. -/
def InSync : Prop :=
  ∃ masterProfile slaveProfile,
    Configured clabName part quadraMaster quadraMacsecProfileMaster masterProfile ∧
    Configured clabName part quadraSlave quadraMacsecProfileSlave slaveProfile ∧
    CrossMapped masterProfile slaveProfile ∧
    if usesEncryptedKeys masterProfile slaveProfile then
      Live loader clabName part quadraMaster masterIntf masterProfile ∧
        Live loader clabName part quadraSlave slaveIntf slaveProfile
    else masterProfile.rx.key = slaveProfile.tx.key ∧ masterProfile.tx.key = slaveProfile.rx.key

/-- The last line about such a request in the log of a KME has a 200 between blanks somewhere: as the
status, or as the size of another answer. -/
def LogsTwoHundred (kmeNode endpoint saeId : Text) : Prop :=
  ∃ answer process latest,
    (Command.run (logsArgv (containerOf clabName kmeNode)) none (some dockerExecTimeoutSec), answer) ∈ part ∧
    answer.outcome = .completed process ∧ process.returncode = 0 ∧
    (keyRequests (process.stdout ++ process.stderr) endpoint saeId).getLast? = some latest ∧
    contains (text " 200 ") latest = true

/-- A ping that prints the texts of a success. -/
def PingTexts (node : Ceos) : Prop :=
  ∃ out, Printed (ceosContainer clabName node)
      (text "enable\nping " ++ (quadraPeerIp node).getD [] ++ text " repeat 3\n") out part ∧
    SuccessTexts out

/-- How the log of a switch is reported. -/
def noted (output : Text) : CheckStatus := if (rotationSuccessLine output).getD [] = [] then .warn else .ok

/-- Only a log without a rotation gives a warning. -/
def Noted : Prop :=
  ∃ masterLog slaveLog,
    Printed (ceosContainer clabName quadraMaster) loggingCommand masterLog part ∧
    Printed (ceosContainer clabName quadraSlave) loggingCommand slaveLog part ∧
    recorded (statuses part) = recorded (List.replicate 13 .ok ++ [noted masterLog, noted slaveLog])

/-- What is found on both switches, in the logs of the KMEs and on the link. -/
structure RotationSeen [WordClass] : Prop where
  installed : Installed clabName swix part quadraMaster ∧ Installed clabName swix part quadraSlave
  master : ∃ out nextEvent, Active clabName part quadraMaster out ∧
    statusField (parseDaemonQuadraStatus out) (text "next key rotation event") = some nextEvent
  slave : ∃ out, Active clabName part quadraSlave out
  keys : InSync loader clabName part
  requested : LogsTwoHundred clabName part (text "kme-a") (text "enc_keys") kmeBSaeId
  fetched : LogsTwoHundred clabName part (text "kme-b") (text "dec_keys") kmeSaeId
  pings : PingTexts clabName part quadraMaster ∧ PingTexts clabName part quadraSlave
  reported : Noted clabName part

/-- A switch could not be asked for its extensions, or this one was not among them. -/
def Missing [WordClass] : Prop :=
  ∃ node ∈ ceosQuadraNodes, ∃ answer,
    (Command.run (cliArgv (ceosContainer clabName node)) (some showExtensions) none, answer) ∈ part ∧
    ∀ process, answer.outcome = .completed process → process.returncode = 0 →
      extensionInstalled process.stdout swix = false

end Evidence

section Parts

variable {printable : Char → Bool} {loader : Loader} {clabName swix : Text}
variable {part whole transcript : List Exchange}

theorem Tells.statuses {Failure Value : Type} {count : Nat} {session : Session Failure Value}
    (tells : Tells Passed count session) {value : Value} (ends : session.Ends transcript (.ok value)) :
    statuses transcript = List.replicate count .ok := List.eq_replicate_iff.mpr (tells ends)

theorem settled_ok {Failure Value : Type} {raised : Failure → Raised} {verdict : Except Failure Value}
    {value : Value} (ends : (settled raised verdict).Ends transcript (.ok value)) :
    transcript = [] ∧ verdict = .ok value := by
  cases verdict with
  | ok found => exact ⟨ends.1, congrArg Except.ok (Except.ok.inj ends.2).symm⟩
  | error failure => cases ends.2

/-- What is caught is what the check raised. -/
theorem caught_ends {Value : Type} {check : Check Value} {outcome : Except Text Value}
    (ends : (caught check).Ends transcript (.ok outcome)) :
    (∃ value, outcome = .ok value ∧ check.Ends transcript (.ok value)) ∨
      ∃ message, outcome = .error message ∧ check.Ends transcript (.error (.pqcConnectionError message)) := by
  rcases ends_handle_iff.mp ends with ⟨found, same, completes⟩ | ⟨error, before, after, rfl, fails, goes⟩
  · obtain ⟨value, first, rest, rfl, succeeds, rfl, given⟩ := ends_bind_ok completes
    obtain rfl := Except.ok.inj same
    rw [List.append_nil]
    exact Or.inl ⟨value, Except.ok.inj given, succeeds⟩
  · rcases ends_bind_iff.mp fails with ⟨value, first, rest, -, -, done⟩ | ⟨raised, same, raises⟩
    · cases done.2
    · obtain rfl := Except.error.inj same
      cases error with
      | pqcConnectionError message =>
          obtain ⟨rfl, given⟩ := goes
          rw [List.append_nil]
          exact Or.inr ⟨message, Except.ok.inj given, raises⟩
      | _ => cases goes.2

theorem checkSakState_ends {container node interface : Text} {profile : StaticSakProfile}
    (ends : (checkMacsecInterfaceSakState printable loader container node interface profile.rx.an
      profile.tx.an).Ends transcript (.ok ())) :
    ∃ payload, (ceosShowJson loader container (interfaceCommand interface)).Ends transcript (.ok payload) ∧
      LiveInSync (.ok payload) profile := by
  obtain ⟨shown, first, rest, rfl, looks, judges⟩ := ends_bind_ok ends
  obtain ⟨rfl, accepted⟩ := settled_ok judges
  rw [List.append_nil]
  have live := StaticSak.checkMacsecInterfaceSakState_ok.mp accepted
  rcases caught_ends looks with ⟨payload, rfl, completes⟩ | ⟨message, rfl, -⟩
  · exact ⟨payload, completes, live⟩
  · obtain ⟨payload, -, -, same, -⟩ := live
    cases same

theorem compareKeys_seen {masterProfile slaveProfile : StaticSakProfile}
    (ends : (compareKeys printable loader (ceosContainer clabName quadraMaster)
      (ceosContainer clabName quadraSlave) masterProfile slaveProfile).Ends transcript (.ok ())) :
    statuses transcript = [.ok] ∧
    if usesEncryptedKeys masterProfile slaveProfile then
      Live loader clabName transcript quadraMaster masterIntf masterProfile ∧
        Live loader clabName transcript quadraSlave slaveIntf slaveProfile
    else masterProfile.rx.key = slaveProfile.tx.key ∧ masterProfile.tx.key = slaveProfile.rx.key := by
  unfold compareKeys at ends
  split at ends
  · rename_i encrypted
    rw [if_pos encrypted]
    obtain ⟨_, first, rest, rfl, masterLive, goes⟩ := ends_bind_ok ends
    obtain ⟨_, second, told, rfl, slaveLive, tells⟩ := ends_bind_ok goes
    obtain ⟨masterPayload, masterShown, masterAgrees⟩ := checkSakState_ends masterLive
    obtain ⟨slavePayload, slaveShown, slaveAgrees⟩ := checkSakState_ends slaveLive
    obtain ⟨answer, rfl, -⟩ := reportCheck_ends tells
    refine ⟨?_, ⟨masterPayload, (ceosShowJson_ok masterShown).mono (by simp), masterAgrees⟩,
      slavePayload, (ceosShowJson_ok slaveShown).mono ?_, slaveAgrees⟩
    · rw [statuses_append, statuses_append, Tells.statuses (tells_ceosShowJson _ _ _) masterShown,
        Tells.statuses (tells_ceosShowJson _ _ _) slaveShown]
      rfl
    · intro exchange member
      simp [member]
  · rename_i plain
    rw [if_neg plain]
    obtain ⟨_, first, told, rfl, compares, tells⟩ := ends_bind_ok ends
    obtain ⟨rfl, same⟩ := settled_ok compares
    obtain ⟨answer, rfl, -⟩ := reportCheck_ends tells
    exact ⟨rfl, StaticSak.assertPlainSakKeyExchange_ok.mp same⟩

theorem Live.mono {node : Ceos} {interface : Text} {profile : StaticSakProfile}
    (live : Live loader clabName part node interface profile) (inside : part ⊆ whole) :
    Live loader clabName whole node interface profile := by
  obtain ⟨payload, shown, agrees⟩ := live
  exact ⟨payload, shown.mono inside, agrees⟩

theorem InSync.mono (sync : InSync loader clabName part) (inside : part ⊆ whole) :
    InSync loader clabName whole := by
  obtain ⟨masterProfile, slaveProfile, ⟨masterCfg, masterPrinted, masterParsed⟩,
    ⟨slaveCfg, slavePrinted, slaveParsed⟩, mapped, keys⟩ := sync
  refine ⟨masterProfile, slaveProfile, ⟨masterCfg, masterPrinted.mono inside, masterParsed⟩,
    ⟨slaveCfg, slavePrinted.mono inside, slaveParsed⟩, mapped, ?_⟩
  split at keys
  · rename_i encrypted
    rw [if_pos encrypted]
    exact ⟨keys.1.mono inside, keys.2.mono inside⟩
  · rename_i plain
    rw [if_neg plain]
    exact keys

theorem checkStaticSakKeySync_seen
    (ends : (checkStaticSakKeySync printable loader (ceosContainer clabName quadraMaster)
      (ceosContainer clabName quadraSlave)).Ends transcript (.ok ())) :
    statuses transcript = [.ok, .ok] ∧ InSync loader clabName transcript := by
  obtain ⟨masterCfg, first, rest, rfl, masterAsked, goes⟩ := ends_bind_ok ends
  obtain ⟨slaveCfg, second, rest, rfl, slaveAsked, goes⟩ := ends_bind_ok goes
  obtain ⟨masterProfile, none, rest, rfl, masterParses, onMaster⟩ := ends_bind_ok goes
  obtain ⟨rfl, masterParsed⟩ := settled_ok masterParses
  obtain ⟨slaveProfile, none, rest, rfl, slaveParses, onBoth⟩ := ends_bind_ok onMaster
  obtain ⟨rfl, slaveParsed⟩ := settled_ok slaveParses
  obtain ⟨_, none, rest, rfl, maps, onMapped⟩ := ends_bind_ok onBoth
  obtain ⟨rfl, mapped⟩ := settled_ok maps
  obtain ⟨_, told, last, rfl, tells, compares⟩ := ends_bind_ok onMapped
  obtain ⟨answer, rfl, -⟩ := reportCheck_ends tells
  obtain ⟨reported, keys⟩ := compareKeys_seen compares
  refine ⟨?_, masterProfile, slaveProfile,
    ⟨masterCfg, (ceosCli_ok masterAsked).mono (List.subset_append_left _ _), masterParsed⟩,
    ⟨slaveCfg, (ceosCli_ok slaveAsked).mono (by simp), slaveParsed⟩,
    StaticSak.assertStaticSakPeerMapping_ok.mp mapped, ?_⟩
  · rw [statuses_append, statuses_append, Tells.statuses (tells_ceosCli _ _) masterAsked,
      Tells.statuses (tells_ceosCli _ _) slaveAsked]
    simp only [List.replicate_zero, List.nil_append, List.singleton_append, statuses_cons, reported]
    rfl
  · split at keys
    · rename_i encrypted
      rw [if_pos encrypted]
      refine ⟨keys.1.mono ?_, keys.2.mono ?_⟩ <;>
      · intro exchange member
        simp [member]
    · rename_i plain
      rw [if_neg plain]
      exact keys

theorem Installed.mono [WordClass] {node : Ceos} (installed : Installed clabName swix part node)
    (inside : part ⊆ whole) :
    Installed clabName swix whole node := by
  obtain ⟨out, printed, rest⟩ := installed
  exact ⟨out, printed.mono inside, rest⟩

theorem Active.mono {node : Ceos} {out : Text} (active : Active clabName part node out)
    (inside : part ⊆ whole) : Active clabName whole node out :=
  ⟨active.1.mono inside, active.2⟩

theorem LogsTwoHundred.mono {kmeNode endpoint saeId : Text}
    (delivered : LogsTwoHundred clabName part kmeNode endpoint saeId)
    (inside : part ⊆ whole) : LogsTwoHundred clabName whole kmeNode endpoint saeId := by
  obtain ⟨answer, process, latest, member, rest⟩ := delivered
  exact ⟨answer, process, latest, inside member, rest⟩

theorem PingTexts.mono {node : Ceos} (reaches : PingTexts clabName part node) (inside : part ⊆ whole) :
    PingTexts clabName whole node := by
  obtain ⟨out, printed, rest⟩ := reaches
  exact ⟨out, printed.mono inside, rest⟩

theorem checkExtensionInstalled_seen [WordClass] {node : Ceos}
    (ends : (checkExtensionInstalled (ceosContainer clabName node) node.name swix).Ends transcript (.ok ())) :
    statuses transcript = [.ok] ∧ Installed clabName swix transcript node := by
  obtain ⟨output, first, told, rfl, asked, goes⟩ := ends_bind_ok ends
  split at goes
  · cases goes.2
  · rename_i installed
    obtain ⟨answer, rfl, -⟩ := reportCheck_ends goes
    refine ⟨?_, output, (ceosCli_ok asked).mono (List.subset_append_left _ _), by simpa using installed⟩
    rw [statuses_append, Tells.statuses (tells_ceosCli _ _) asked]
    rfl

theorem checkDaemonRunning_seen {node : Ceos} {out : Text}
    (ends : (checkDaemonRunning (ceosContainer clabName node) node.name).Ends transcript (.ok out)) :
    statuses transcript = [.ok] ∧ Printed (ceosContainer clabName node) showDaemon out transcript ∧
      runningRe.found out = true := by
  obtain ⟨output, first, told, rfl, asked, goes⟩ := ends_bind_ok ends
  split at goes
  · cases goes.2
  · rename_i running
    obtain ⟨_, last, none, rfl, tells, rfl, same⟩ := ends_bind_ok goes
    obtain ⟨answer, rfl, -⟩ := reportCheck_ends tells
    obtain rfl := Except.ok.inj same
    refine ⟨?_, (ceosCli_ok asked).mono (List.subset_append_left _ _), by simpa using running⟩
    rw [statuses_append, Tells.statuses (tells_ceosCli _ _) asked]
    rfl

theorem checkAgent_seen [WordClass] {node : Ceos} {status : List (Text × Text)}
    (ends : (checkAgent printable clabName swix node).Ends transcript (.ok status)) :
    statuses transcript = [.ok, .ok, .ok] ∧ Installed clabName swix transcript node ∧
      ∃ out, Active clabName transcript node out ∧ status = parseDaemonQuadraStatus out := by
  obtain ⟨_, first, rest, rfl, extension, goes⟩ := ends_bind_ok ends
  obtain ⟨output, second, third, rfl, daemon, role⟩ := ends_bind_ok goes
  obtain ⟨early, installed⟩ := checkExtensionInstalled_seen extension
  obtain ⟨middle, printed, running⟩ := checkDaemonRunning_seen daemon
  unfold checkAgentRole at role
  split at role
  · cases role.2
  · rename_i expected
    obtain ⟨_, told, none, rfl, tells, rfl, same⟩ := ends_bind_ok role
    obtain ⟨answer, rfl, -⟩ := reportCheck_ends tells
    refine ⟨?_, installed.mono (List.subset_append_left _ _), output,
      ⟨printed.mono ?_, running, not_not.mp expected⟩, Except.ok.inj same⟩
    · rw [statuses_append, statuses_append, early, middle]
      rfl
    · intro exchange member
      simp [member]

theorem checkMasterRotationSchedule_seen {node : Text} {status : List (Text × Text)}
    (ends : (checkMasterRotationSchedule node status).Ends transcript (.ok ())) :
    statuses transcript = [.ok] ∧ ∃ nextEvent, statusField status (text "next key rotation event") = some nextEvent := by
  unfold checkMasterRotationSchedule at ends
  split at ends
  · cases ends.2
  · rename_i nextEvent found
    obtain ⟨answer, rfl, -⟩ := reportCheck_ends ends
    exact ⟨rfl, nextEvent, found⟩

theorem noteRotationSuccessLog_seen {container node : Text} {found : Bool}
    (ends : (noteRotationSuccessLog container node).Ends transcript (.ok found)) :
    ∃ output, Printed container loggingCommand output transcript ∧ statuses transcript = [noted output] := by
  obtain ⟨output, first, rest, rfl, asked, goes⟩ := ends_bind_ok ends
  refine ⟨output, (ceosCli_ok asked).mono (List.subset_append_left _ _), ?_⟩
  rw [statuses_append, Tells.statuses (tells_ceosCli _ _) asked]
  split at goes
  · rename_i head line rotated
    obtain ⟨_, told, none, rfl, tells, rfl, -⟩ := ends_bind_ok goes
    obtain ⟨answer, rfl, -⟩ := reportCheck_ends tells
    rw [noted, rotated]
    rfl
  · rename_i empty
    obtain ⟨_, told, none, rfl, tells, rfl, -⟩ := ends_bind_ok goes
    obtain ⟨answer, rfl, -⟩ := reportCheck_ends tells
    have without : (rotationSuccessLine output).getD [] = [] := by
      cases line : rotationSuccessLine output with
      | none => rfl
      | some shown =>
          cases shown with
          | nil => rfl
          | cons head tail => exact absurd line (empty head tail)
    rw [noted, if_pos without]
    rfl

/-- The second of the two tests is a case of the first one. -/
theorem returned200_iff {latest : Text} :
    returned200 latest = true ↔ contains (text " 200 ") latest = true := by
  unfold returned200
  rw [Bool.or_eq_true, or_iff_left_of_imp]
  intro quoted
  have longer : text "\" 200 " = '"' :: text " 200 " := rfl
  rw [longer, contains_iff] at quoted
  exact (contains_iff _ _).mpr ((List.suffix_cons _ _).isInfix.trans quoted)

theorem checkKmeKeyRequestLogs_seen {kmeNode endpoint saeId latest : Text}
    (ends : (checkKmeKeyRequestLogs (containerOf clabName kmeNode) kmeNode endpoint saeId).Ends transcript
      (.ok latest)) :
    statuses transcript = [.ok] ∧ LogsTwoHundred clabName transcript kmeNode endpoint saeId := by
  obtain ⟨logs, first, rest, rfl, reads, goes⟩ := ends_bind_ok ends
  obtain ⟨outcome, before, after, rfl, runs, given⟩ := ends_bind_ok reads
  obtain ⟨answer, rfl, same⟩ := subprocessRun_ends runs
  obtain rfl := Except.ok.inj same
  split at given
  · cases given.2
  · rename_i process ended
    split at given
    · cases given.2
    · rename_i succeeded
      obtain ⟨rfl, same⟩ := given
      obtain rfl := Except.ok.inj same
      split at goes
      · cases goes.2
      · rename_i last found
        split at goes
        · cases goes.2
        · rename_i answered
          obtain ⟨_, told, none, rfl, tells, rfl, -⟩ := ends_bind_ok goes
          obtain ⟨response, rfl, -⟩ := reportCheck_ends tells
          exact ⟨rfl, answer, process, last, List.mem_cons_self, ended, not_not.mp succeeded, found,
            returned200_iff.mp (by simpa using answered)⟩

theorem pingPeer_seen {node : Ceos} {interface : Text}
    (ends : (pingPeer (ceosContainer clabName node) node interface).Ends transcript (.ok ())) :
    statuses transcript = [.ok] ∧ PingTexts clabName transcript node := by
  obtain ⟨output, first, told, rfl, asked, goes⟩ := ends_bind_ok ends
  split at goes
  · cases goes.2
  · rename_i answered
    obtain ⟨answer, rfl, -⟩ := reportCheck_ends goes
    refine ⟨?_, output, (ceosCli_ok asked).mono (List.subset_append_left _ _),
      pingTextSuccess_texts.mp (by simpa using answered)⟩
    rw [statuses_append, Tells.statuses (tells_ceosCli _ _) asked]
    rfl

theorem recorded_notes (masterNote slaveNote : CheckStatus) :
    recorded ([.ok, .ok, .ok] ++ ([.ok] ++ ([masterNote] ++ ([.ok, .ok, .ok] ++ ([slaveNote] ++
      ([.ok, .ok] ++ ([.ok] ++ ([.ok] ++ ([.ok] ++ [.ok]))))))))) =
      recorded (List.replicate 13 .ok ++ [masterNote, slaveNote]) := by
  cases masterNote <;> cases slaveNote <;> decide +kernel

/-- A run on switches with the extension. -/
theorem checkInstalled_seen [WordClass]
    (ends : (checkInstalled printable loader clabName swix).Ends transcript (.ok ())) :
    RotationSeen loader clabName swix transcript := by
  obtain ⟨status, first, rest, rfl, masterAgent, goes⟩ := ends_bind_ok ends
  obtain ⟨_, second, rest, rfl, schedule, onSchedule⟩ := ends_bind_ok goes
  obtain ⟨_, third, rest, rfl, masterNote, onNote⟩ := ends_bind_ok onSchedule
  obtain ⟨_, fourth, rest, rfl, slaveAgent, onSlave⟩ := ends_bind_ok onNote
  obtain ⟨_, fifth, rest, rfl, slaveNote, onBoth⟩ := ends_bind_ok onSlave
  obtain ⟨_, sixth, rest, rfl, sync, onKeys⟩ := ends_bind_ok onBoth
  obtain ⟨_, seventh, rest, rfl, kmeA, onKmeA⟩ := ends_bind_ok onKeys
  obtain ⟨_, eighth, rest, rfl, kmeB, onKmeB⟩ := ends_bind_ok onKmeA
  obtain ⟨_, ninth, tenth, rfl, there, back⟩ := ends_bind_ok onKmeB
  obtain ⟨told1, masterInstalled, masterOut, masterActive, rfl⟩ := checkAgent_seen masterAgent
  obtain ⟨told2, nextEvent, scheduled⟩ := checkMasterRotationSchedule_seen schedule
  obtain ⟨masterLog, masterLogged, told3⟩ := noteRotationSuccessLog_seen masterNote
  obtain ⟨told4, slaveInstalled, slaveOut, slaveActive, -⟩ := checkAgent_seen slaveAgent
  obtain ⟨slaveLog, slaveLogged, told5⟩ := noteRotationSuccessLog_seen slaveNote
  obtain ⟨told6, keys⟩ := checkStaticSakKeySync_seen sync
  obtain ⟨told7, requested⟩ := checkKmeKeyRequestLogs_seen kmeA
  obtain ⟨told8, fetched⟩ := checkKmeKeyRequestLogs_seen kmeB
  obtain ⟨told9, reached⟩ := pingPeer_seen there
  obtain ⟨told10, answered⟩ := pingPeer_seen back
  have inside : ∀ {piece : List Exchange},
      piece ∈ [first, second, third, fourth, fifth, sixth, seventh, eighth, ninth, tenth] →
      piece ⊆ first ++ (second ++ (third ++ (fourth ++ (fifth ++ (sixth ++ (seventh ++
        (eighth ++ (ninth ++ tenth)))))))) := by
    intro piece among exchange member
    have flat := List.mem_flatten.mpr ⟨piece, among, member⟩
    rwa [List.flatten_cons, List.flatten_cons, List.flatten_cons, List.flatten_cons, List.flatten_cons,
      List.flatten_cons, List.flatten_cons, List.flatten_cons, List.flatten_cons, List.flatten_singleton] at flat
  exact
    { installed := ⟨masterInstalled.mono (inside (by simp)), slaveInstalled.mono (inside (by simp))⟩
      master := ⟨masterOut, nextEvent, masterActive.mono (inside (by simp)), scheduled⟩
      slave := ⟨slaveOut, slaveActive.mono (inside (by simp))⟩
      keys := keys.mono (inside (by simp))
      requested := requested.mono (inside (by simp))
      fetched := fetched.mono (inside (by simp))
      pings := ⟨reached.mono (inside (by simp)), answered.mono (inside (by simp))⟩
      reported := by
        refine ⟨masterLog, slaveLog, masterLogged.mono (inside (by simp)),
          slaveLogged.mono (inside (by simp)), ?_⟩
        simp only [statuses_append, told1, told2, told3, told4, told5, told6, told7, told8, told9, told10]
        exact recorded_notes _ _ }

/-- The extensions are looked for on one switch after the other, until one is without it. -/
theorem quadraInstalled_ends [WordClass] {nodes : List Ceos} {installed : Bool}
    (ends : (quadraInstalledOnNodes clabName swix nodes).Ends transcript (.ok installed)) :
    statuses transcript = [] ∧ (installed = false → ∃ node ∈ nodes, ∃ answer,
      (Command.run (cliArgv (ceosContainer clabName node)) (some showExtensions) none, answer) ∈ transcript ∧
      ∀ process, answer.outcome = .completed process → process.returncode = 0 →
        extensionInstalled process.stdout swix = false) := by
  induction nodes generalizing transcript with
  | nil =>
      obtain ⟨rfl, same⟩ := ends
      exact ⟨rfl, fun other => by rw [Except.ok.inj same] at other; cases other⟩
  | cons node rest ih =>
      obtain ⟨outcome, first, later, rfl, asks, goes⟩ := ends_bind_ok ends
      rcases caught_ends asks with ⟨output, rfl, printed⟩ | ⟨message, rfl, failed⟩
      · obtain ⟨answer, rfl, ⟨process, ended, zero, same⟩ | ⟨-, error, same⟩⟩ := ceosCli_ends printed
        · obtain rfl := Except.ok.inj same
          dsimp only at goes
          split at goes
          · rename_i without
            obtain ⟨rfl, -⟩ := goes
            refine ⟨rfl, fun _ => ⟨node, List.mem_cons_self, answer, List.mem_cons_self, ?_⟩⟩
            intro other completed _
            obtain rfl := Outcome.completed.inj (ended.symm.trans completed)
            simpa using without
          · obtain ⟨silent, missing⟩ := ih goes
            refine ⟨by rw [statuses_append, silent]; rfl, fun other => ?_⟩
            obtain ⟨lacking, member, told, inside, without⟩ := missing other
            exact ⟨lacking, List.mem_cons_of_mem _ member, told, List.mem_append_right _ inside, without⟩
        · cases same
      · obtain ⟨answer, rfl, ⟨process, -, -, same⟩ | ⟨broken, error, -⟩⟩ := ceosCli_ends failed
        · cases same
        · obtain ⟨rfl, -⟩ := goes
          refine ⟨rfl, fun _ => ⟨node, List.mem_cons_self, answer, List.mem_cons_self, ?_⟩⟩
          intro process completed zero
          exact absurd ⟨process, completed, zero⟩ broken

end Parts

/- Where a `QkdSkip` comes from -/

section Skips

variable {printable : Char → Bool} {loader : Loader} {clabName swix : Text}
variable {part whole transcript : List Exchange} {Value Result : Type}

/-- Not a `QkdSkip`. -/
def Other (error : Raised) : Prop := ∀ message, error ≠ .qkdSkip message

/-- A check that never raises `QkdSkip`. -/
def Firm (check : Check Value) : Prop := check.Within (fun _ => True) Other

theorem Firm.bind {first : Check Value} {rest : Value → Check Result} (begins : Firm first)
    (goes : ∀ value, Firm (rest value)) : Firm (first.bind rest) := Within.bind begins goes

theorem Firm.done (value : Value) : Firm (.done value) := trivial

theorem firm_raiseQkd (message : Text) : Firm (raiseQkd message : Check Value) := by
  intro other same
  cases same

theorem firm_reportCheck (status : CheckStatus) (tag detail : Text) :
    Firm (reportCheck status tag detail) := ⟨trivial, fun _ => trivial⟩

theorem firm_ceosCli (container commands : Text) : Firm (ceosCli container commands) := by
  have runs : Firm (runProcess (cliArgv container) (some commands)) := by
    refine ⟨trivial, fun answer => ?_⟩
    simp only [done_bind]
    split
    · exact trivial
    · intro other same
      cases same
  refine runs.bind fun result => ?_
  split
  · intro other same
    cases same
  · exact trivial

theorem firm_ceosShowJson (container showCommand : Text) : Firm (ceosShowJson loader container showCommand) := by
  refine (firm_ceosCli _ _).bind fun shown => ?_
  split
  · exact trivial
  · intro other same
    cases same
  · intro other same
    cases same

theorem firm_caught {check : Check Value} (firm : Firm check) : Firm (caught check) := by
  refine Within.handle (firm.bind fun _ => Firm.done _) fun error other => ?_
  cases error with
  | pqcConnectionError message => exact trivial
  | _ => exact other

theorem firm_settled {Failure : Type} {raised : Failure → Raised} (others : ∀ failure, Other (raised failure))
    (verdict : Except Failure Value) : Firm (settled raised verdict) := by
  cases verdict with
  | ok value => exact trivial
  | error failure => exact others failure

theorem other_profileRaised (failure : StaticSak.Failure) : Other (profileRaised printable failure) := by
  intro message same
  cases failure <;> cases same

theorem other_syncRaised (failure : StaticSak.SyncFailure) : Other (syncRaised printable failure) := by
  intro message same
  cases failure with
  | profile failure => exact other_profileRaised failure message same
  | _ => cases same

theorem firm_compareKeys (masterContainer slaveContainer : Text) (masterProfile slaveProfile : StaticSakProfile) :
    Firm (compareKeys printable loader masterContainer slaveContainer masterProfile slaveProfile) := by
  have live : ∀ container node interface rxAn txAn,
      Firm (checkMacsecInterfaceSakState printable loader container node interface rxAn txAn) :=
    fun _ _ _ _ _ => (firm_caught (firm_ceosShowJson _ _)).bind fun _ => firm_settled other_syncRaised _
  unfold compareKeys
  split
  · exact (live _ _ _ _ _).bind fun _ => (live _ _ _ _ _).bind fun _ => firm_reportCheck _ _ _
  · exact (firm_settled other_profileRaised _).bind fun _ => firm_reportCheck _ _ _

theorem firm_checkStaticSakKeySync (masterContainer slaveContainer : Text) :
    Firm (checkStaticSakKeySync printable loader masterContainer slaveContainer) :=
  (firm_ceosCli _ _).bind fun _ => (firm_ceosCli _ _).bind fun _ =>
    (firm_settled other_profileRaised _).bind fun _ => (firm_settled other_profileRaised _).bind fun _ =>
      (firm_settled other_profileRaised _).bind fun _ => (firm_reportCheck _ _ _).bind fun _ =>
        firm_compareKeys _ _ _ _

theorem firm_noteRotationSuccessLog (container node : Text) : Firm (noteRotationSuccessLog container node) := by
  refine (firm_ceosCli _ _).bind fun output => ?_
  split
  · exact (firm_reportCheck _ _ _).bind fun _ => Firm.done _
  · exact (firm_reportCheck _ _ _).bind fun _ => Firm.done _

theorem firm_checkKmeKeyRequestLogs (container kmeNode endpoint saeId : Text) :
    Firm (checkKmeKeyRequestLogs container kmeNode endpoint saeId) := by
  have reads : Firm (readDockerLogs container) := by
    refine ⟨trivial, fun answer => ?_⟩
    simp only [done_bind]
    split
    · exact firm_raiseQkd _
    · split
      · exact firm_raiseQkd _
      · exact Firm.done _
  refine reads.bind fun logs => ?_
  split
  · exact firm_raiseQkd _
  · split
    · exact firm_raiseQkd _
    · exact (firm_reportCheck _ _ _).bind fun _ => Firm.done _

theorem firm_pingPeer (container : Text) (node : Ceos) (interface : Text) :
    Firm (pingPeer container node interface) := by
  refine (firm_ceosCli _ _).bind fun output => ?_
  split
  · exact firm_raiseQkd _
  · exact firm_reportCheck _ _ _

theorem Missing.mono [WordClass] (missing : Missing clabName swix part) (inside : part ⊆ whole) :
    Missing clabName swix whole := by
  obtain ⟨node, member, answer, told, without⟩ := missing
  exact ⟨node, member, answer, inside told, without⟩

variable (clabName swix) in
/-- When the check skips, the extension was missing. -/
def SkipsMissing [WordClass] (check : Check Value) : Prop :=
  ∀ ⦃transcript message⦄, check.Ends transcript (.error (.qkdSkip message)) →
    Missing clabName swix transcript

theorem Firm.skipsMissing [WordClass] {check : Check Value} (firm : Firm check) :
    SkipsMissing clabName swix check := by
  intro transcript message ends
  exact absurd rfl ((Within.ends firm ends).2 _ rfl message)

theorem SkipsMissing.bind [WordClass] {first : Check Value} {rest : Value → Check Result}
    (begins : SkipsMissing clabName swix first) (goes : ∀ value, SkipsMissing clabName swix (rest value)) :
    SkipsMissing clabName swix (first.bind rest) := by
  intro transcript message ends
  rcases ends_bind_iff.mp ends with ⟨value, before, after, rfl, -, later⟩ | ⟨error, same, fails⟩
  · exact (goes value later).mono (List.subset_append_right _ _)
  · obtain rfl := Except.error.inj same
    exact begins fails

theorem skips_checkAgent [WordClass] {node : Ceos} (quadra : node ∈ ceosQuadraNodes) :
    SkipsMissing clabName swix (checkAgent printable clabName swix node) := by
  have extension : SkipsMissing clabName swix
      (checkExtensionInstalled (ceosContainer clabName node) node.name swix) := by
    intro transcript message ends
    rcases ends_bind_iff.mp ends with ⟨output, before, after, rfl, asked, goes⟩ | ⟨error, same, fails⟩
    · obtain ⟨answer, rfl, ⟨process, ended, zero, same⟩ | ⟨-, error, same⟩⟩ := ceosCli_ends asked
      · obtain rfl := Except.ok.inj same
        split at goes
        · rename_i without
          refine ⟨node, quadra, answer, by simp, fun other completed _ => ?_⟩
          obtain rfl := Outcome.completed.inj (ended.symm.trans completed)
          simpa using without
        · obtain ⟨told, -, same⟩ := reportCheck_ends goes
          cases same
      · cases same
    · obtain rfl := Except.error.inj same
      exact (firm_ceosCli _ _).skipsMissing fails
  refine extension.bind fun _ => Firm.skipsMissing ?_
  refine Firm.bind ?_ fun output => ?_
  · refine (firm_ceosCli _ _).bind fun output => ?_
    split
    · exact firm_raiseQkd _
    · exact (firm_reportCheck _ _ _).bind fun _ => Firm.done _
  · unfold checkAgentRole
    split
    · exact firm_raiseQkd _
    · exact (firm_reportCheck _ _ _).bind fun _ => Firm.done _

theorem skips_checkInstalled [WordClass] :
    SkipsMissing clabName swix (checkInstalled printable loader clabName swix) := by
  have schedule : ∀ node status, Firm (checkMasterRotationSchedule node status) := by
    intro node status
    unfold checkMasterRotationSchedule
    split
    · exact firm_raiseQkd _
    · exact firm_reportCheck _ _ _
  refine (skips_checkAgent (by decide)).bind fun status => ?_
  refine (schedule _ _).skipsMissing.bind fun _ => ?_
  refine (firm_noteRotationSuccessLog _ _).skipsMissing.bind fun _ => ?_
  refine (skips_checkAgent (by decide)).bind fun _ => Firm.skipsMissing ?_
  exact (firm_noteRotationSuccessLog _ _).bind fun _ => (firm_checkStaticSakKeySync _ _).bind fun _ =>
    (firm_checkKmeKeyRequestLogs _ _ _ _).bind fun _ => (firm_checkKmeKeyRequestLogs _ _ _ _).bind fun _ =>
      (firm_pingPeer _ _ _).bind fun _ => firm_pingPeer _ _ _

end Skips

section Run

variable {printable : Char → Bool} {loader : Loader} {clabName swix : Text} {transcript : List Exchange}

theorem RotationSeen.after [WordClass] {front part : List Exchange} (quiet : statuses front = [])
    (rotates : RotationSeen loader clabName swix part) : RotationSeen loader clabName swix (front ++ part) := by
  have inside : part ⊆ front ++ part := List.subset_append_right _ _
  obtain ⟨out, nextEvent, active, scheduled⟩ := rotates.master
  obtain ⟨slaveOut, slaveActive⟩ := rotates.slave
  obtain ⟨masterLog, slaveLog, masterLogged, slaveLogged, told⟩ := rotates.reported
  exact
    { installed := ⟨rotates.installed.1.mono inside, rotates.installed.2.mono inside⟩
      master := ⟨out, nextEvent, active.mono inside, scheduled⟩
      slave := ⟨slaveOut, slaveActive.mono inside⟩
      keys := rotates.keys.mono inside
      requested := rotates.requested.mono inside
      fetched := rotates.fetched.mono inside
      pings := ⟨rotates.pings.1.mono inside, rotates.pings.2.mono inside⟩
      reported := ⟨masterLog, slaveLog, masterLogged.mono inside, slaveLogged.mono inside,
        by rw [statuses_append, quiet, List.nil_append, told]⟩ }

theorem skips_quadraInstalled [WordClass] (nodes : List Ceos) :
    SkipsMissing clabName swix (quadraInstalledOnNodes clabName swix nodes) := by
  apply Firm.skipsMissing
  induction nodes with
  | nil => exact Firm.done _
  | cons node rest ih =>
      refine (firm_caught (firm_ceosCli _ _)).bind fun outcome => ?_
      cases outcome with
      | error message => exact Firm.done _
      | ok output =>
          dsimp only
          split
          · exact Firm.done _
          · exact ih

/-- A run with exit code 0 has found the texts of its checks on both switches, in the logs of the
KMEs and on the link, or has seen a switch without the extension. -/
theorem runQkdChecks_exit [WordClass] {result : Except Raised Bool}
    (ends : (runQkdChecks printable loader clabName swix).Ends transcript result)
    (zero : exitCode result = some 0) :
    RotationSeen loader clabName swix transcript ∨ Missing clabName swix transcript := by
  rcases ends_bind_iff.mp ends with ⟨installed, front, part, rfl, looks, goes⟩ | ⟨error, rfl, fails⟩
  · obtain ⟨quiet, missing⟩ := quadraInstalled_ends looks
    cases installed with
    | false => exact Or.inr (Missing.mono (missing rfl) (List.subset_append_left _ _))
    | true =>
        rcases ends_bind_iff.mp goes with ⟨_, checks, none, rfl, complete, rfl, -⟩ | ⟨error, rfl, fails⟩
        · rw [List.append_nil]
          exact Or.inl ((checkInstalled_seen complete).after quiet)
        · cases error with
          | qkdSkip message => exact Or.inr ((skips_checkInstalled fails).mono (List.subset_append_right _ _))
          | _ => cases zero
  · cases error with
    | qkdSkip message => exact Or.inr (skips_quadraInstalled _ fails)
    | _ => cases zero

/-- The two profiles of the example, with plain keys. -/
def exampleProfile (profile : Text) : List Text :=
  [text "   profile " ++ profile, text "      cipher aes256-gcm-xpn", text "      key source sak static",
    text "      secure channel rx", text "         identifier a1", text "         an 1 key 0dd0",
    text "      secure channel tx", text "         identifier a1", text "         an 1 key 0dd0"]

/-- Two switches with running agents, whose keys the KMEs have handed out. -/
def exampleAnswer : Command → Answer
  | .run argv input _ =>
      let printed :=
        if input = some showExtensions then text "quadra.swix  2.0.1  A, I  1"
        else if input = some showDaemon then
          join (text "\n") [text "Process: quadra (running with PID 4711)", text "Status:",
            text "agent status             " ++
              (if argv.contains (ceosContainer (text "lab") quadraMaster) then text "master" else text "slave"),
            text "next key rotation event  12:00"]
        else if input = some sectionCommand then
          unlines (exampleProfile (text "quadra-master") ++ exampleProfile (text "quadra-slave"))
        else if input = some loggingCommand then text "%QUADRA-4-ROTATION_SUCCESS: rotated"
        else if input = none then text "\"POST /api/v1/keys/sae/enc_keys and dec_keys\" 200 51"
        else text "3 received, 0% packet loss"
      ⟨.completed ⟨0, printed, []⟩, 0⟩
  | _ => ⟨.timeoutExpired, 0⟩

attribute [local instance] PyRegex.asciiWords

theorem runQkdChecks_exit_example :
    RotationSeen ⟨fun _ => .error .jsonDecodeError, fun _ => []⟩ (text "lab") (text "quadra.swix")
        ((runQkdChecks (fun _ => true) ⟨fun _ => .error .jsonDecodeError, fun _ => []⟩ (text "lab")
          (text "quadra.swix")).run (fun _ => exampleAnswer) []).2 ∨
      Missing (text "lab") (text "quadra.swix")
        ((runQkdChecks (fun _ => true) ⟨fun _ => .error .jsonDecodeError, fun _ => []⟩ (text "lab")
          (text "quadra.swix")).run (fun _ => exampleAnswer) []).2 :=
  runQkdChecks_exit (ends_run _ _ _) (by decide +kernel)

end Run

end QuantumSafe.QkdSession
