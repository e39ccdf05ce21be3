import QuantumSafe.MacsecSession
import QuantumSafe.MkaCkn

set_option autoImplicit false

/- What a run of the MACsec checks that ends normally has seen: the texts that its checks have
found in the output of its own sessions. -/
namespace QuantumSafe.MacsecSession

open PyText PyJson Interaction Interaction.Program DockerCalls LabSession CeosSession
open CeosContract (Ceos dot1xEapSslProfile quadraMacsecProfileMaster quadraMacsecProfileSlave)
open LabReport (recorded)
open CeosJson (Mentions MentionsFolded jsonFindValue)
open MacsecChecks (MacsecCheckError dot1xEapIdentity macsecHasActiveKey macsecInterface)
open MkaParticipants (Conclusive examine_left_iff)
open PingJudges (SuccessTexts pingTextSuccess_texts)
open Polling (Step)
open RenderTopo (LabTargets labTargetsForSubnet)

variable {printable : Char → Bool} {loader : Loader}

/- The parts of a run -/

section Evidence

variable (loader) (targets : LabTargets) (ckn : Text) (part : List Exchange)

/-- A show of the participants that reports a success, a live peer and this CKN first, not
necessarily of one participant. -/
def ParticipantTexts (node : Ceos) : Prop :=
  ∃ tree, Shown loader (containerAt targets node.node) participantsCommand tree part ∧ Conclusive tree ckn

/-- What the show of the supplicant has to mention. -/
def supplicantTexts : List Text :=
  [dot1xEapIdentity, text "success", text "tls", dot1xEapSslProfile, pqcEapGroup]

/-- The texts that are found about the 802.1X session and the MKA participants. "authorized" is
looked for in any spelling and place, so "Unauthorized" has it too. -/
structure LinkTexts : Prop where
  port : ∃ hosts detail,
    Shown loader (containerAt targets authenticator.node) (text "show dot1x hosts") hosts part ∧
      Shown loader (containerAt targets authenticator.node)
        (text "show dot1x interface " ++ macsecInterface ++ text " detail") detail part ∧
      Mentions hosts dot1xEapIdentity ∧ Mentions hosts (text "SUCCESS") ∧
      MentionsFolded detail (text "authorized")
  client : ∃ output,
    Shown loader (containerAt targets supplicant.node) (text "show dot1x supplicant") output part ∧
      ∀ needle ∈ supplicantTexts, Mentions output needle
  agreed : ParticipantTexts loader targets ckn part authenticator ∧
    ParticipantTexts loader targets ckn part supplicant

/-- The first `traffic` field of a show is the word protected or encrypted; without such a text
field one of the words stands somewhere, "encrypted" also within "unencrypted". -/
def TrafficTexts (output : Json) : Prop :=
  (∃ value, jsonFindValue (text "traffic") output = some (.str value) ∧
      (lower value = text "protected" ∨ lower value = text "encrypted")) ∨
    (∀ value, jsonFindValue (text "traffic") output ≠ some (.str value)) ∧
      (Mentions output (text "Protected") ∨ MentionsFolded output (text "encrypted"))

/-- A show of the interface that mentions "True" anywhere, one of the words for protected traffic,
and what `macsec_has_active_key` takes for a key in use. -/
def InterfaceTexts (node : Ceos) : Prop :=
  ∃ output, Shown loader (containerAt targets node.node)
      (text "show mac security interface " ++ macsecInterface ++ text " detail") output part ∧
    Mentions output (text "True") ∧ TrafficTexts output ∧ macsecHasActiveKey output = true

/-- A ping that prints the texts of a success. -/
def PingTexts (node : Ceos) (peerIp : Text) : Prop :=
  ∃ out, Printed (containerAt targets node.node) (text "enable\nping " ++ peerIp ++ text " repeat 3\n") out part ∧
    SuccessTexts out

/-- A show of the interface with a `controlledPort` and a key that `_static_macsec_operational`
takes for up and in use. -/
def StaticTexts (node : Ceos) (interface : Text) : Prop :=
  ∃ output, Shown loader (containerAt targets node.node) (interfaceCommand interface) output part ∧
    staticMacsecOperational output = true

/-- The logins that the RADIUS log has counted. -/
def Counted (count : Int) : Prop :=
  ∃ answer process, (Command.run (dockerShell (containerAt targets .radius) loginCommand) (some []) none, answer)
      ∈ part ∧ answer.outcome = .completed process ∧ loginCount process = some count

end Evidence

section Parts

variable {targets : LabTargets} {ckn : Text} {part whole : List Exchange}

theorem ParticipantTexts.mono {node : Ceos} (texts : ParticipantTexts loader targets ckn part node)
    (inside : part ⊆ whole) : ParticipantTexts loader targets ckn whole node := by
  obtain ⟨tree, shown, conclusive⟩ := texts
  exact ⟨tree, shown.mono inside, conclusive⟩

theorem InterfaceTexts.mono {node : Ceos} (texts : InterfaceTexts loader targets part node)
    (inside : part ⊆ whole) :
    InterfaceTexts loader targets whole node := by
  obtain ⟨output, shown, rest⟩ := texts
  exact ⟨output, shown.mono inside, rest⟩

theorem PingTexts.mono {node : Ceos} {peerIp : Text} (texts : PingTexts targets part node peerIp)
    (inside : part ⊆ whole) : PingTexts targets whole node peerIp := by
  obtain ⟨out, printed, rest⟩ := texts
  exact ⟨out, printed.mono inside, rest⟩

theorem StaticTexts.mono {node : Ceos} {interface : Text}
    (texts : StaticTexts loader targets part node interface) (inside : part ⊆ whole) :
    StaticTexts loader targets whole node interface := by
  obtain ⟨output, shown, rest⟩ := texts
  exact ⟨output, shown.mono inside, rest⟩

theorem Counted.mono {count : Int} (counted : Counted targets part count) (inside : part ⊆ whole) :
    Counted targets whole count := by
  obtain ⟨answer, process, member, rest⟩ := counted
  exact ⟨answer, process, inside member, rest⟩

theorem LinkTexts.mono (texts : LinkTexts loader targets ckn part) (inside : part ⊆ whole) :
    LinkTexts loader targets ckn whole := by
  obtain ⟨hosts, detail, hostsShown, detailShown, mentioned⟩ := texts.port
  obtain ⟨output, shown, all⟩ := texts.client
  exact
    { port := ⟨hosts, detail, hostsShown.mono inside, detailShown.mono inside, mentioned⟩
      client := ⟨output, shown.mono inside, all⟩
      agreed := ⟨texts.agreed.1.mono inside, texts.agreed.2.mono inside⟩ }

theorem judged_ok {verdict : Except MacsecCheckError Unit} {transcript : List Exchange}
    (ends : (judged printable verdict).Ends transcript (.ok ())) : verdict = .ok () := by
  unfold judged at ends
  split at ends
  · rename_i value
    rfl
  · cases ends.2

/-- The tests of the first show stand before the second one. -/
theorem checkAuthenticatorDot1x_seen {container : Text} {transcript : List Exchange}
    (ends : (checkAuthenticatorDot1x printable loader container).Ends transcript (.ok ())) :
    ∃ hosts detail, Shown loader container (text "show dot1x hosts") hosts transcript ∧
      Shown loader container (text "show dot1x interface " ++ macsecInterface ++ text " detail") detail
        transcript ∧
      Mentions hosts dot1xEapIdentity ∧ Mentions hosts (text "SUCCESS") ∧
      MentionsFolded detail (text "authorized") := by
  obtain ⟨hosts, first, rest, rfl, shown, goes⟩ := ends_bind_ok ends
  obtain ⟨_, second, rest, rfl, identity, goes⟩ := ends_bind_ok goes
  obtain ⟨_, third, rest, rfl, state, goes⟩ := ends_bind_ok goes
  obtain ⟨detail, fourth, rest, rfl, detailed, goes⟩ := ends_bind_ok goes
  obtain ⟨_, fifth, rest, rfl, port, -⟩ := ends_bind_ok goes
  refine ⟨hosts, detail, (ceosShowJson_ok shown).mono (by simp), (ceosShowJson_ok detailed).mono ?_, ?_⟩
  · intro exchange member
    simp [member]
  · exact ⟨MacsecChecks.assertContains_ok.mp (judged_ok identity),
      MacsecChecks.assertContains_ok.mp (judged_ok state),
      MacsecChecks.assertContains_folded_ok.mp (judged_ok port)⟩

theorem supplicantState_ok {output : Json} :
    supplicantState output = .ok () ↔ ∀ needle ∈ supplicantTexts, Mentions output needle := by
  rw [supplicantState, Reports.then_ok_iff, Reports.then_ok_iff, Reports.then_ok_iff, Reports.then_ok_iff]
  simp only [MacsecChecks.assertContains_ok, supplicantTexts, List.forall_mem_cons, List.not_mem_nil,
    false_implies, implies_true, and_true]

theorem macsecTrafficProtected_texts {output : Json} :
    MacsecChecks.macsecTrafficProtected output = true ↔ TrafficTexts output := by
  unfold TrafficTexts
  by_cases named : ∃ value, jsonFindValue (text "traffic") output = some (.str value)
  · obtain ⟨value, found⟩ := named
    rw [MacsecChecks.macsecTrafficProtected_str found]
    simp [found]
  · have other := not_exists.mp named
    rw [MacsecChecks.macsecTrafficProtected_other other]
    simp [other]

theorem checkSupplicantDot1x_seen {container : Text} {transcript : List Exchange}
    (ends : (checkSupplicantDot1x printable loader container).Ends transcript (.ok ())) :
    ∃ output, Shown loader container (text "show dot1x supplicant") output transcript ∧
      ∀ needle ∈ supplicantTexts, Mentions output needle := by
  obtain ⟨output, first, rest, rfl, shown, goes⟩ := ends_bind_ok ends
  obtain ⟨_, second, rest, rfl, state, -⟩ := ends_bind_ok goes
  exact ⟨output, (ceosShowJson_ok shown).mono (List.subset_append_left _ _),
    supplicantState_ok.mp (judged_ok state)⟩

theorem checkMacsecInterface_seen {node : Ceos} {transcript : List Exchange}
    (ends : (checkMacsecInterface printable loader (containerAt targets node.node) node.name).Ends transcript
      (.ok ())) : InterfaceTexts loader targets transcript node := by
  obtain ⟨output, first, rest, rfl, shown, goes⟩ := ends_bind_ok ends
  obtain ⟨_, second, rest, rfl, state, -⟩ := ends_bind_ok goes
  obtain ⟨closed, traffic, key⟩ := MacsecChecks.checkMacsecInterface_ok.mp (judged_ok state)
  exact ⟨output, (ceosShowJson_ok shown).mono (List.subset_append_left _ _), closed,
    macsecTrafficProtected_texts.mp traffic, key⟩

theorem probeInterSwitchPing_seen {node : Ceos} {name peerIp interface : Text} {transcript : List Exchange}
    (ends : (probeInterSwitchPing (containerAt targets node.node) name peerIp interface).Ends transcript
      (.ok ())) : PingTexts targets transcript node peerIp := by
  obtain ⟨out, first, rest, rfl, printed, goes⟩ := ends_bind_ok ends
  refine ⟨out, (ceosCli_ok printed).mono (List.subset_append_left _ _), ?_⟩
  split at goes
  · rename_i success
    exact pingTextSuccess_texts.mp success
  · cases goes.2

/-- The CKN is that of the last poll. -/
theorem checkMkaParticipants_seen {node : Ceos} {name : Text} {transcript : List Exchange}
    (ends : (checkMkaParticipants printable loader (containerAt targets node.node) name).Ends transcript
      (.ok ckn)) : ParticipantTexts loader targets ckn transcript node := by
  obtain ⟨polled, first, rest, rfl, polls, goes⟩ := ends_bind_ok ends
  split at goes
  · rename_i found
    obtain ⟨_, told, after, rfl, -, rfl, same⟩ := ends_bind_ok goes
    obtain rfl := Except.ok.inj same
    obtain ⟨parts, count, last, rfl, -, -, left⟩ := pollTimes_left polls
    obtain ⟨_, pause, shows, rfl, -, shown⟩ := ends_bind_ok left
    obtain ⟨tree, looks, after, rfl, looked, rfl, examined⟩ := ends_bind_ok shown
    obtain ⟨other, conclusive, same⟩ := (examine_left_iff name).mp (Except.ok.inj examined).symm
    obtain rfl := Except.ok.inj same
    refine ⟨tree, (ceosShowJson_ok looked).mono ?_, conclusive⟩
    intro exchange member
    simp [member]
  · cases goes.2
  · cases goes.2
  · cases goes.2

theorem checkStaticMacsecInterface_seen {node : Ceos} {interface : Text} {transcript : List Exchange}
    (ends : (checkStaticMacsecInterface printable loader (containerAt targets node.node) node interface).Ends
      transcript (.ok ())) : StaticTexts loader targets transcript node interface := by
  obtain ⟨polled, first, rest, rfl, polls, goes⟩ := ends_bind_ok ends
  split at goes
  · obtain ⟨parts, count, last, rfl, -, -, left⟩ := pollTimes_left polls
    obtain ⟨_, nudge, shows, rfl, -, shown⟩ := ends_bind_ok left
    obtain ⟨output, looks, after, rfl, looked, judges⟩ := ends_bind_ok shown
    refine ⟨output, (ceosShowJson_ok looked).mono ?_, ?_⟩
    · intro exchange member
      simp [member]
    · split at judges
      · assumption
      · cases judges.2
  · obtain ⟨_, told, after, rfl, -, ending⟩ := ends_bind_ok goes
    split at ending <;> cases ending.2

theorem countRadiusLoginOk_seen {count : Int} {transcript : List Exchange}
    (ends : (countRadiusLoginOk (containerAt targets .radius)).Ends transcript (.ok count)) :
    Counted targets transcript count := by
  obtain ⟨result, first, rest, rfl, execs, goes⟩ := ends_bind_ok ends
  obtain ⟨process, before, after, rfl, runs, given⟩ := ends_bind_ok execs
  obtain ⟨answer, rfl, ⟨_, ended, same⟩ | ⟨-, same⟩⟩ := runProcess_ends runs
  · obtain rfl := Except.ok.inj same
    split at given
    · cases given.2
    · obtain rfl := Except.ok.inj given.2
      refine ⟨answer, _, by simp, ended, ?_⟩
      split at goes
      · rename_i read
        rw [read, Except.ok.inj goes.2]
      · cases goes.2
  · cases same

theorem linkSwitch_seen {skipConfig : Bool} {config dot1x : Check Unit} {node : Ceos}
    {transcript : List Exchange}
    (ends : (linkSwitch printable loader skipConfig config dot1x (containerAt targets node.node) node.name).Ends
      transcript (.ok ckn)) :
    (∃ part, part ⊆ transcript ∧ dot1x.Ends part (.ok ())) ∧ InterfaceTexts loader targets transcript node ∧
      ParticipantTexts loader targets ckn transcript node := by
  obtain ⟨_, first, rest, rfl, -, goes⟩ := ends_bind_ok ends
  obtain ⟨_, second, rest, rfl, states, goes⟩ := ends_bind_ok goes
  obtain ⟨_, third, fourth, rfl, port, participants⟩ := ends_bind_ok goes
  refine ⟨⟨second, ?_, states⟩, (checkMacsecInterface_seen port).mono ?_,
    (checkMkaParticipants_seen participants).mono ?_⟩ <;>
  · intro exchange member
    simp [member]

/-- Between the two counts lies the wait, and all is looked at again after it. -/
theorem checkDot1xReauthCycle_seen {baselineCkn : Text} {transcript : List Exchange}
    (ends : (checkDot1xReauthCycle printable loader (containerAt targets .radius)
      (containerAt targets authenticator.node) (containerAt targets supplicant.node) baselineCkn).Ends
        transcript (.ok ())) :
    ∃ before wait after baseline logins ckn,
      transcript = before ++ (Command.sleep reauthWaitSec, wait) :: after ∧
      Counted targets before baseline ∧ Counted targets after logins ∧ baseline < logins ∧
      LinkTexts loader targets ckn after := by
  obtain ⟨baseline, before, rest, rfl, counts, goes⟩ := ends_bind_ok ends
  obtain ⟨_, wait, after, rfl, waits, later⟩ := ends_bind_ok goes
  obtain ⟨slept, none, rfl, rfl, -⟩ := waits
  obtain ⟨_, first, rest, rfl, port, goes⟩ := ends_bind_ok later
  obtain ⟨_, second, rest, rfl, client, goes⟩ := ends_bind_ok goes
  obtain ⟨authCkn, third, rest, rfl, auth, goes⟩ := ends_bind_ok goes
  obtain ⟨suppCkn, fourth, rest, rfl, supp, goes⟩ := ends_bind_ok goes
  split at goes
  · cases goes.2
  · rename_i matching
    obtain rfl := not_not.mp matching
    obtain ⟨logins, fifth, told, rfl, again, goes⟩ := ends_bind_ok goes
    split at goes
    · cases goes.2
    · rename_i more
      obtain ⟨hosts, detail, hostsShown, detailShown, mentioned⟩ := checkAuthenticatorDot1x_seen port
      obtain ⟨output, outputShown, all⟩ := checkSupplicantDot1x_seen client
      obtain ⟨answer, process, member, counted⟩ := countRadiusLoginOk_seen again
      have inFirst : first ⊆ first ++ (second ++ (third ++ (fourth ++ (fifth ++ told)))) := by simp
      have inside : ∀ {piece : List Exchange}, (piece = second ∨ piece = third ∨ piece = fourth) →
          piece ⊆ first ++ (second ++ (third ++ (fourth ++ (fifth ++ told)))) := by
        rintro piece (rfl | rfl | rfl) exchange member <;> simp [member]
      refine ⟨before, slept, _, baseline, logins, authCkn, rfl, countRadiusLoginOk_seen counts,
        ⟨answer, process, by simp [member], counted⟩, not_le.mp more, ?_⟩
      exact
        { port := ⟨hosts, detail, hostsShown.mono inFirst, detailShown.mono inFirst, mentioned⟩
          client := ⟨output, outputShown.mono (inside (Or.inl rfl)), all⟩
          agreed := ⟨(checkMkaParticipants_seen auth).mono (inside (Or.inr (Or.inl rfl))),
            (checkMkaParticipants_seen supp).mono (inside (Or.inr (Or.inr rfl)))⟩ }

theorem quadraSwitch_seen {skipConfig : Bool} {node : Ceos} {profile interface : Text}
    {transcript : List Exchange}
    (ends : (quadraSwitch printable loader skipConfig (containerAt targets node.node) node profile
      interface).Ends transcript (.ok ())) : StaticTexts loader targets transcript node interface := by
  obtain ⟨_, first, rest, rfl, -, goes⟩ := ends_bind_ok ends
  exact (checkStaticMacsecInterface_seen goes).mono (List.subset_append_right _ _)

theorem runQuadraMacsecChecks_seen {skipConfig : Bool} {transcript : List Exchange}
    (ends : (runQuadraMacsecChecks printable loader (containerAt targets quadraMaster.node)
      (containerAt targets quadraSlave.node) skipConfig).Ends transcript (.ok ())) :
    (StaticTexts loader targets transcript quadraMaster quadraMasterIntf ∧
      StaticTexts loader targets transcript quadraSlave quadraSlaveIntf) ∧
    PingTexts targets transcript quadraMaster ((quadraPeerIp quadraMaster).getD []) ∧
      PingTexts targets transcript quadraSlave ((quadraPeerIp quadraSlave).getD []) := by
  obtain ⟨_, first, rest, rfl, master, goes⟩ := ends_bind_ok ends
  obtain ⟨_, second, rest, rfl, slave, goes⟩ := ends_bind_ok goes
  obtain ⟨_, third, fourth, rfl, there, back⟩ := ends_bind_ok goes
  refine ⟨⟨(quadraSwitch_seen master).mono ?_, (quadraSwitch_seen slave).mono ?_⟩,
    (probeInterSwitchPing_seen there).mono ?_, (probeInterSwitchPing_seen back).mono ?_⟩ <;>
  · intro exchange member
    simp [member]

/-- Traffic has passed on the link before the wait, and on the QuaDRA link after it. -/
theorem checkLink_seen {skipConfig verifyReauth : Bool} {authCkn suppCkn : Text}
    {transcript : List Exchange}
    (ends : (checkLink printable loader targets skipConfig verifyReauth authCkn suppCkn).Ends transcript
      (.ok ())) :
    authCkn = suppCkn ∧ ∃ early cycle late, transcript = early ++ (cycle ++ late) ∧
      (PingTexts targets early authenticator (interSwitchPeer supplicant) ∧
        PingTexts targets early supplicant (interSwitchPeer authenticator)) ∧
      (verifyReauth = true → (checkDot1xReauthCycle printable loader (containerAt targets .radius)
        (containerAt targets authenticator.node) (containerAt targets supplicant.node) authCkn).Ends cycle
          (.ok ())) ∧
      (runQuadraMacsecChecks printable loader (containerAt targets quadraMaster.node)
        (containerAt targets quadraSlave.node) skipConfig).Ends late (.ok ()) := by
  by_cases matching : authCkn = suppCkn
  · rw [checkLink, if_neg (not_not.mpr matching)] at ends
    obtain ⟨_, told, rest, rfl, -, goes⟩ := ends_bind_ok ends
    obtain ⟨_, first, rest, rfl, there, goes⟩ := ends_bind_ok goes
    obtain ⟨_, second, rest, rfl, back, goes⟩ := ends_bind_ok goes
    obtain ⟨_, cycle, late, rfl, renews, quadra⟩ := ends_bind_ok goes
    refine ⟨matching, told ++ (first ++ second), cycle, late, by simp,
      ⟨(probeInterSwitchPing_seen there).mono ?_, (probeInterSwitchPing_seen back).mono ?_⟩, ?_, quadra⟩
    · simp
    · simp
    · intro verified
      rwa [if_pos verified] at renews
  · rw [checkLink, if_pos matching] at ends
    cases ends.2

end Parts

/- What a run reports -/

section Told

theorem tells_judged (verdict : Except MacsecCheckError Unit) : Tells Passed 0 (judged printable verdict) := by
  unfold judged
  split
  · exact Tells.done _
  · exact Tells.fail 0 _

theorem tells_contained (found : Bool) (needle label : Text) :
    Tells Passed 0 (contained printable found needle label) := by
  unfold contained
  split
  · exact Tells.done _
  · exact Tells.fail 0 _

theorem tells_config (detail : Text) : Tells Passed 1 (reportConfig detail) := tells_reportOk passed_ok _ _

theorem tells_live (detail : Text) : Tells Passed 1 (reportLive detail) := tells_reportOk passed_ok _ _

theorem tells_checkAuthenticatorConfig (container : Text) :
    Tells Passed 1 (checkAuthenticatorConfig printable container) :=
  (tells_ceosCli _ _).after fun _ => (tells_contained _ _ _).after fun _ =>
    (tells_contained _ _ _).after fun _ => (tells_ceosCli _ _).after fun _ =>
      (tells_contained _ _ _).after fun _ => (tells_contained _ _ _).after fun _ =>
        (tells_contained _ _ _).after fun _ => (tells_contained _ _ _).after fun _ => tells_config _

theorem tells_checkSupplicantConfig (container : Text) :
    Tells Passed 1 (checkSupplicantConfig printable container) :=
  (tells_ceosCli _ _).after fun _ => (tells_contained _ _ _).after fun _ =>
    (tells_contained _ _ _).after fun _ => (tells_contained _ _ _).after fun _ =>
      (tells_contained _ _ _).after fun _ => (tells_ceosCli _ _).after fun _ =>
        (tells_contained _ _ _).after fun _ => tells_config _

theorem tells_checkAuthenticatorDot1x (container : Text) :
    Tells Passed 1 (checkAuthenticatorDot1x printable loader container) :=
  (tells_ceosShowJson _ _ _).after fun _ => (tells_judged _).after fun _ =>
    (tells_judged _).after fun _ => (tells_ceosShowJson _ _ _).after fun _ =>
      (tells_judged _).after fun _ => tells_live _

theorem tells_checkSupplicantDot1x (container : Text) :
    Tells Passed 1 (checkSupplicantDot1x printable loader container) :=
  (tells_ceosShowJson _ _ _).after fun _ => (tells_judged _).after fun _ => tells_live _

theorem tells_checkMacsecInterface (container node : Text) :
    Tells Passed 1 (checkMacsecInterface printable loader container node) :=
  (tells_ceosShowJson _ _ _).after fun _ => (tells_judged _).after fun _ => tells_live _

theorem tells_checkMkaParticipants (container node : Text) :
    Tells Passed 1 (checkMkaParticipants printable loader container node) := by
  refine (tells_pollTimes (fun index => ?_) _ _ _).after fun polled => ?_
  · exact (tells_pauseBefore _ _).after fun _ =>
      (tells_ceosShowJson _ _ _).after fun _ => Tells.done _
  · split
    · exact (tells_live _).bind fun _ => Tells.done _
    · exact Tells.fail 1 _
    · exact Tells.fail 1 _
    · exact Tells.fail 1 _

theorem tells_countRadiusLoginOk (container : Text) : Tells Passed 0 (countRadiusLoginOk container) := by
  refine (tells_dockerExec _ _ _).after fun result => ?_
  split
  · exact Tells.done _
  · exact Tells.fail 0 _

theorem tells_probeInterSwitchPing (container node peerIp interface : Text) :
    Tells Passed 1 (probeInterSwitchPing container node peerIp interface) := by
  refine (tells_ceosCli _ _).after fun output => ?_
  split
  · exact tells_live _
  · exact Tells.fail 1 _

theorem tells_countAgain (radius : Text) (baselineOk : Int) (baselineCkn ckn : Text) :
    Tells Passed 1 (countAgain radius baselineOk baselineCkn ckn) := by
  refine (tells_countRadiusLoginOk _).after fun afterOk => ?_
  split
  · exact Tells.fail 1 _
  · exact tells_live _

theorem tells_checkDot1xReauthCycle (radius auth supp baselineCkn : Text) :
    Tells Passed (1 + (1 + (1 + (1 + 1))))
      (checkDot1xReauthCycle printable loader radius auth supp baselineCkn) := by
  refine (tells_countRadiusLoginOk _).after fun baselineOk => (tells_sleep _).after fun _ => ?_
  refine (tells_checkAuthenticatorDot1x _).bind fun _ => (tells_checkSupplicantDot1x _).bind fun _ => ?_
  refine (tells_checkMkaParticipants _ _).bind fun authCkn =>
    (tells_checkMkaParticipants _ _).bind fun suppCkn => ?_
  split
  · exact Tells.fail 1 _
  · exact tells_countAgain _ _ _ _

/-- A check that is left out reports nothing. -/
theorem tells_unless {skip : Bool} {check : Check Unit} (one : Tells Passed 1 check) :
    Tells Passed (if skip then 0 else 1) (if skip then .done () else check) := by
  cases skip
  · exact one
  · exact Tells.done ()

theorem tells_checkStaticMacsecConfig (container node profile interface : Text) :
    Tells Passed 1 (checkStaticMacsecConfig printable container node profile interface) :=
  (tells_ceosCli _ _).after fun _ => (tells_contained _ _ _).after fun _ =>
    (tells_ceosCli _ _).after fun _ => (tells_contained _ _ _).after fun _ =>
      (tells_contained _ _ _).after fun _ => (tells_contained _ _ _).after fun _ => tells_config _

theorem tells_nudgePeer (container : Text) (peerIp : Option Text) (index : Nat) :
    Tells Passed 0 (nudgePeer container peerIp index) := by
  unfold nudgePeer
  split
  · exact Tells.done _
  · split
    · exact Tells.done _
    · exact (tells_pauseBefore _ _).after fun _ => (tells_ceosCli _ _).after fun _ => Tells.done _

theorem tells_checkStaticMacsecInterface (container : Text) (node : Ceos) (interface : Text) :
    Tells Passed 1 (checkStaticMacsecInterface printable loader container node interface) := by
  refine (tells_pollTimes (fun index => ?_) _ _ _).after fun polled => ?_
  · refine (tells_nudgePeer _ _ _).after fun _ => (tells_ceosShowJson _ _ _).after fun output => ?_
    split <;> exact Tells.done _
  · split
    · exact tells_live _
    · refine (tells_judged _).after fun _ => ?_
      split <;> exact Tells.fail 1 _

theorem tells_quadraSwitch (skipConfig : Bool) (container : Text) (node : Ceos) (profile interface : Text) :
    Tells Passed ((if skipConfig then 0 else 1) + 1)
      (quadraSwitch printable loader skipConfig container node profile interface) :=
  (tells_unless (tells_checkStaticMacsecConfig _ _ _ _)).bind fun _ =>
    tells_checkStaticMacsecInterface _ _ _

theorem tells_linkSwitch {skipConfig : Bool} {config dot1x : Check Unit} (configured : Tells Passed 1 config)
    (stated : Tells Passed 1 dot1x) (container node : Text) :
    Tells Passed ((if skipConfig then 0 else 1) + (1 + (1 + 1)))
      (linkSwitch printable loader skipConfig config dot1x container node) :=
  (tells_unless configured).bind fun _ => stated.bind fun _ =>
    (tells_checkMacsecInterface _ _).bind fun _ => tells_checkMkaParticipants _ _

def checkCount (skipConfig verifyReauth : Bool) : Nat :=
  13 + (if skipConfig then 0 else 4) + if verifyReauth then 5 else 0

theorem tells_runQuadraMacsecChecks (master slave : Text) (skipConfig : Bool) :
    Tells Passed ((if skipConfig then 0 else 1) + 1 + ((if skipConfig then 0 else 1) + 1 + (1 + 1)))
      (runQuadraMacsecChecks printable loader master slave skipConfig) :=
  (tells_quadraSwitch _ _ _ _ _).bind fun _ => (tells_quadraSwitch _ _ _ _ _).bind fun _ =>
    (tells_probeInterSwitchPing _ _ _ _).bind fun _ => tells_probeInterSwitchPing _ _ _ _

theorem tells_checkLink (targets : LabTargets) (skipConfig verifyReauth : Bool) (authCkn suppCkn : Text) :
    Tells Passed (1 + (1 + (1 + ((if verifyReauth then 5 else 0) +
        ((if skipConfig then 0 else 1) + 1 + ((if skipConfig then 0 else 1) + 1 + (1 + 1)))))))
      (checkLink printable loader targets skipConfig verifyReauth authCkn suppCkn) := by
  have cycle : ∀ radius auth supp ckn, Tells Passed (if verifyReauth then 5 else 0)
      (if verifyReauth then checkDot1xReauthCycle printable loader radius auth supp ckn else .done ()) := by
    intro radius auth supp ckn
    cases verifyReauth
    · exact Tells.done ()
    · exact tells_checkDot1xReauthCycle _ _ _ _
  by_cases matching : authCkn = suppCkn
  · rw [checkLink, if_neg (not_not.mpr matching)]
    exact (tells_live _).bind fun _ => (tells_probeInterSwitchPing _ _ _ _).bind fun _ =>
      (tells_probeInterSwitchPing _ _ _ _).bind fun _ => (cycle _ _ _ _).bind fun _ =>
        tells_runQuadraMacsecChecks _ _ _
  · rw [checkLink, if_pos matching]
    exact Tells.fail _ _

theorem tells_checkTargets (targets : LabTargets) (skipConfig verifyReauth : Bool) :
    Tells Passed (checkCount skipConfig verifyReauth)
      (checkTargets printable loader targets skipConfig verifyReauth) := by
  have whole : Tells Passed ((if skipConfig then 0 else 1) + (1 + (1 + 1)) +
      ((if skipConfig then 0 else 1) + (1 + (1 + 1)) + (1 + (1 + (1 + ((if verifyReauth then 5 else 0) +
        ((if skipConfig then 0 else 1) + 1 + ((if skipConfig then 0 else 1) + 1 + (1 + 1)))))))))
      (checkTargets printable loader targets skipConfig verifyReauth) :=
    (tells_linkSwitch (tells_checkAuthenticatorConfig _) (tells_checkAuthenticatorDot1x _) _ _).bind
      fun _ => (tells_linkSwitch (tells_checkSupplicantConfig _) (tells_checkSupplicantDot1x _) _ _).bind
        fun _ => tells_checkLink targets skipConfig verifyReauth _ _
  cases skipConfig <;> cases verifyReauth <;> exact whole

end Told

section Seen

variable (loader) (targets : LabTargets) (skipConfig verifyReauth : Bool) (transcript : List Exchange)

/-- The same texts are found again in the part after the wait alone, and the RADIUS log has more
logins than in the part before. -/
def Renewed : Prop :=
  ∃ before wait after baseline logins ckn renewed,
    transcript = before ++ (Command.sleep reauthWaitSec, wait) :: after ∧
    LinkTexts loader targets ckn before ∧ LinkTexts loader targets renewed after ∧
    Counted targets before baseline ∧ Counted targets after logins ∧ baseline < logins

/-- What is found in the output of the sessions of a run. -/
structure MacsecSeen : Prop where
  link : ∃ ckn, LinkTexts loader targets ckn transcript
  interfaces : InterfaceTexts loader targets transcript authenticator ∧
    InterfaceTexts loader targets transcript supplicant
  pings : PingTexts targets transcript authenticator (interSwitchPeer supplicant) ∧
    PingTexts targets transcript supplicant (interSwitchPeer authenticator)
  renewed : verifyReauth = true → Renewed loader targets transcript
  quadra : StaticTexts loader targets transcript quadraMaster quadraMasterIntf ∧
    StaticTexts loader targets transcript quadraSlave quadraSlaveIntf
  quadraPings : PingTexts targets transcript quadraMaster ((quadraPeerIp quadraMaster).getD []) ∧
    PingTexts targets transcript quadraSlave ((quadraPeerIp quadraSlave).getD [])
  reported : recorded (statuses transcript) = ⟨checkCount skipConfig verifyReauth, 0, 0, 0⟩

end Seen

section Run

variable {targets : LabTargets} {skipConfig verifyReauth : Bool} {transcript : List Exchange}

theorem checkTargets_seen
    (ends : (checkTargets printable loader targets skipConfig verifyReauth).Ends transcript (.ok ())) :
    MacsecSeen loader targets skipConfig verifyReauth transcript := by
  have reported : recorded (statuses transcript) = ⟨checkCount skipConfig verifyReauth, 0, 0, 0⟩ :=
    (tells_checkTargets targets skipConfig verifyReauth).recorded ends
  obtain ⟨ckn, auth, rest, rfl, authEnds, goes⟩ := ends_bind_ok ends
  obtain ⟨suppCkn, supp, whole, rfl, suppEnds, link⟩ := ends_bind_ok goes
  obtain ⟨⟨port, inPort, ported⟩, authSafe, authTakes⟩ := linkSwitch_seen authEnds
  obtain ⟨⟨client, inClient, sees⟩, suppSafe, suppTakes⟩ := linkSwitch_seen suppEnds
  obtain ⟨rfl, early, cycle, late, rfl, pings, renews, quadra⟩ := checkLink_seen link
  obtain ⟨hosts, detail, hostsShown, detailShown, mentioned⟩ := checkAuthenticatorDot1x_seen ported
  obtain ⟨output, outputShown, all⟩ := checkSupplicantDot1x_seen sees
  obtain ⟨operational, quadraPings⟩ := runQuadraMacsecChecks_seen quadra
  have first : ∀ after, LinkTexts loader targets ckn (auth ++ (supp ++ after)) := by
    intro after
    rw [← List.append_assoc]
    refine LinkTexts.mono ?_ (List.subset_append_left _ _)
    have inAuth := List.subset_append_left auth supp
    have inSupp := List.subset_append_right auth supp
    exact
      { port := ⟨hosts, detail, (hostsShown.mono inPort).mono inAuth,
          (detailShown.mono inPort).mono inAuth, mentioned⟩
        client := ⟨output, (outputShown.mono inClient).mono inSupp, all⟩
        agreed := ⟨authTakes.mono inAuth, suppTakes.mono inSupp⟩ }
  have inside : ∀ {piece : List Exchange}, (piece = supp ∨ piece = early ∨ piece = late) →
      piece ⊆ auth ++ (supp ++ (early ++ (cycle ++ late))) := by
    rintro piece (rfl | rfl | rfl) exchange member <;> simp [member]
  have inEarly := inside (Or.inr (Or.inl rfl))
  have inLate := inside (Or.inr (Or.inr rfl))
  refine
    { link := ⟨ckn, first _⟩
      interfaces := ⟨authSafe.mono (List.subset_append_left _ _), suppSafe.mono (inside (Or.inl rfl))⟩
      pings := ⟨pings.1.mono inEarly, pings.2.mono inEarly⟩
      renewed := ?_
      quadra := ⟨operational.1.mono inLate, operational.2.mono inLate⟩
      quadraPings := ⟨quadraPings.1.mono inLate, quadraPings.2.mono inLate⟩
      reported := reported }
  intro verified
  obtain ⟨before, wait, after, baseline, logins, renewed, rfl, counted, again, more, later⟩ :=
    checkDot1xReauthCycle_seen (renews verified)
  refine ⟨auth ++ (supp ++ (early ++ before)), wait, after ++ late, baseline, logins, ckn, renewed,
    by simp, first _, later.mono (List.subset_append_left _ _), counted.mono ?_,
    again.mono (List.subset_append_left _ _), more⟩
  intro exchange member
  simp [member]

/-- A run that ends normally has found the texts of its checks about the link and the QuaDRA link,
and has reported each of its checks as passed. -/
theorem runMacsecChecks_seen {clabName mgmtSubnet : Text}
    (ends : (runMacsecChecks printable loader clabName mgmtSubnet skipConfig verifyReauth).Ends transcript
      (.ok ())) :
    ∃ targets, labTargetsForSubnet clabName mgmtSubnet = .ok targets ∧
      MacsecSeen loader targets skipConfig verifyReauth transcript := by
  unfold runMacsecChecks at ends
  split at ends
  · cases ends.2
  · rename_i targets found
    exact ⟨targets, found, checkTargets_seen ends⟩

/-- What a switch of the example shows for every command. -/
def exampleShown : Text :=
  text "\x7b\"identity\": \"ceos2-pqc\", \"status\": \"SUCCESS success\", \"port\": \"Authorized\", " ++
    text "\"method\": \"tls\", \"sslProfile\": \"DOT1X\", \"group\": \"X25519MLKEM768\", " ++
    text "\"controlledPort\": true, \"traffic\": \"Protected\", \"keyInUse\": \"ab12\", " ++
    text "\"participants\": \x7b\"ab12\": \x7b\"success\": true, \"livePeers\": [\"ceos\"]\x7d\x7d\x7d"

def exampleTree : Json :=
  .object [(text "identity", .str (text "ceos2-pqc")), (text "status", .str (text "SUCCESS success")),
    (text "port", .str (text "Authorized")), (text "method", .str (text "tls")),
    (text "sslProfile", .str (text "DOT1X")), (text "group", .str (text "X25519MLKEM768")),
    (text "controlledPort", .bool true), (text "traffic", .str (text "Protected")),
    (text "keyInUse", .str (text "ab12")),
    (text "participants", .object [(text "ab12", .object [(text "success", .bool true),
      (text "livePeers", .list [.str (text "ceos")])])])]

def exampleLoader : Loader where
  loads shown := if shown = exampleShown then .ok exampleTree else .error .jsonDecodeError
  shown _ := text "Expecting value"

/-- The switches authenticate themselves once in every wait. -/
def exampleAnswers (seen : List Exchange) : Command → Answer
  | .run argv input _ =>
      let printed :=
        if argv.getLast? = some loginCommand then
          natText (seen.countP fun exchange => exchange.1 == .sleep reauthWaitSec)
        else if contains (text "ping") (input.getD []) then text "3 received, 0% packet loss"
        else exampleShown
      ⟨.completed ⟨0, printed, []⟩, 0⟩
  | _ => ⟨.timeoutExpired, 0⟩

/-- A run with the wait for the next authentication. -/
theorem runMacsecChecks_seen_example :
    ∃ targets, labTargetsForSubnet (text "lab") (text "172.20.127.0/24") = .ok targets ∧
      MacsecSeen exampleLoader targets true true
        ((runMacsecChecks (fun _ => true) exampleLoader (text "lab") (text "172.20.127.0/24") true true).run
          exampleAnswers []).2 := by
  have ends := ends_run exampleAnswers
    (runMacsecChecks (fun _ => true) exampleLoader (text "lab") (text "172.20.127.0/24") true true) []
  rw [show ((runMacsecChecks (fun _ => true) exampleLoader (text "lab") (text "172.20.127.0/24") true
    true).run exampleAnswers []).1 = .ok () by decide +kernel] at ends
  exact runMacsecChecks_seen ends

end Run

end QuantumSafe.MacsecSession
