import QuantumSafe.CeosContract
import QuantumSafe.MacsecChecks
import QuantumSafe.StaticSak

set_option autoImplicit false

/- `lab/test_macsec_qkd.py`: `check_static_sak_key_sync`, which compares the profiles of
the two switches or, where a key is encrypted, the live interfaces. -/
namespace QuantumSafe.StaticSak

open PyText PyRegex PyInt PyJson CeosJson MacsecChecks
open CeosContract (quadraMacsecProfileMaster quadraMacsecProfileSlave)

def master : Text := text "ceos1-both"
def slave : Text := text "ceos3-qkd"

/-- The entries of `QUADRA_MACSEC_INTF`. -/
def masterIntf : Text := text "Ethernet2"
def slaveIntf : Text := text "Ethernet1"

/-- `MACSEC_SAK_AN_RE`: `Rx AN:\s*(\d+)\s*Tx AN:\s*(\d+)`. -/
def macsecSakAnRe : Regex :=
  .seq (.literal (text "Rx AN:")) (.seq (.many 0 isSpace) (.seq (.group 1 (.many 1 isDecimal))
    (.seq (.many 0 isSpace) (.seq (.literal (text "Tx AN:")) (.seq (.many 0 isSpace)
      (.group 2 (.many 1 isDecimal)))))))

/-- How `check_static_sak_key_sync` fails: over a profile, over the live state of an
interface (with the values its message quotes), or with the `ValueError` of `int`. -/
inductive SyncFailure where
  | profile (failure : Failure)
  | showFailed (message : Text)
  | portDown (node interface : Text)
  | noActiveSak (node interface : Text)
  | missingKeyMsgId (node interface : Text)
  | notStatic (node interface keyMsgId : Text)
  | liveAnMismatch (node interface : Text) (liveRx liveTx expectedRx expectedTx : Int)
  | valueError
deriving DecidableEq

/-- `check_macsec_interface_sak_state` on the answer of `ceos_show_json`, whose error is
the text of its `PqcConnectionError`. -/
def checkMacsecInterfaceSakState (shown : Except Text Json) (node interface : Text)
    (expectedRxAn expectedTxAn : Int) : Except SyncFailure Unit :=
  match shown with
  | .error message => .error (.showFailed message)
  | .ok payload =>
      if !jsonTruthy payload (text "controlledPort") then .error (.portDown node interface)
      else if !macsecHasActiveKey payload then .error (.noActiveSak node interface)
      else
        match jsonFindValue (text "keyMsgId") payload with
        | some (.str keyMsgId) =>
            match Regex.search macsecSakAnRe keyMsgId with
            | none => .error (.notStatic node interface keyMsgId)
            | some anMatch =>
                match parseInt (anMatch.group 1), parseInt (anMatch.group 2) with
                | some liveRxAn, some liveTxAn =>
                    if liveRxAn ≠ expectedRxAn ∨ liveTxAn ≠ expectedTxAn then
                      .error (.liveAnMismatch node interface liveRxAn liveTxAn expectedRxAn expectedTxAn)
                    else .ok ()
                | _, _ => .error .valueError
        | _ => .error (.missingKeyMsgId node interface)

/-- `uses_encrypted_keys`. -/
def usesEncryptedKeys (masterProfile slaveProfile : StaticSakProfile) : Bool :=
  [masterProfile.rx, masterProfile.tx, slaveProfile.rx, slaveProfile.tx].any SakChannel.encrypted

/-- `check_static_sak_key_sync` on the two configuration sections and the two live answers. -/
def checkStaticSakKeySync (masterCfg slaveCfg : Text) (masterShown slaveShown : Except Text Json) :
    Except SyncFailure Unit := do
  let masterProfile ← (parseStaticSakProfile masterCfg quadraMacsecProfileMaster).mapError .profile
  let slaveProfile ← (parseStaticSakProfile slaveCfg quadraMacsecProfileSlave).mapError .profile
  (assertStaticSakPeerMapping masterProfile slaveProfile).mapError .profile
  if usesEncryptedKeys masterProfile slaveProfile then do
    checkMacsecInterfaceSakState masterShown master masterIntf masterProfile.rx.an masterProfile.tx.an
    checkMacsecInterfaceSakState slaveShown slave slaveIntf slaveProfile.rx.an slaveProfile.tx.an
  else (assertPlainSakKeyExchange masterProfile slaveProfile).mapError .profile

/- What an accepted check has established -/

/-- Each channel has the identifier and the AN of the peer's opposite channel. -/
structure CrossMapped (masterProfile slaveProfile : StaticSakProfile) : Prop where
  rxId : masterProfile.rx.identifier = slaveProfile.tx.identifier
  txId : masterProfile.tx.identifier = slaveProfile.rx.identifier
  rxAn : masterProfile.rx.an = slaveProfile.tx.an
  txAn : masterProfile.tx.an = slaveProfile.rx.an

/-- The live interface is up, has an active key and reports the profile's two ANs. -/
def LiveInSync (shown : Except Text Json) (profile : StaticSakProfile) : Prop :=
  ∃ payload keyMsgId anMatch, shown = .ok payload ∧
    jsonTruthy payload (text "controlledPort") = true ∧ macsecHasActiveKey payload = true ∧
    jsonFindValue (text "keyMsgId") payload = some (.str keyMsgId) ∧
    Regex.search macsecSakAnRe keyMsgId = some anMatch ∧
    parseInt (anMatch.group 1) = some profile.rx.an ∧ parseInt (anMatch.group 2) = some profile.tx.an

/-- The two ends of a direction hold plain keys that differ. -/
def Differs (receiver sender : SakChannel) : Prop :=
  receiver.encrypted = false ∧ sender.encrypted = false ∧ receiver.key ≠ sender.key

def DiffersPlain (masterProfile slaveProfile : StaticSakProfile) : Prop :=
  Differs masterProfile.rx slaveProfile.tx ∨ Differs masterProfile.tx slaveProfile.rx

theorem assertStaticSakPeerMapping_ok {masterProfile slaveProfile : StaticSakProfile} :
    assertStaticSakPeerMapping masterProfile slaveProfile = .ok () ↔
      CrossMapped masterProfile slaveProfile := by
  constructor
  · intro accepted
    unfold assertStaticSakPeerMapping at accepted
    repeat' split at accepted
    all_goals cases accepted
    rename_i rxId txId rxAn txAn
    exact ⟨not_not.mp rxId, not_not.mp txId, not_not.mp rxAn, not_not.mp txAn⟩
  · intro mapped
    exact assertStaticSakPeerMapping_of_eq mapped.rxId mapped.txId mapped.rxAn mapped.txAn

theorem assertPlainSakKeyExchange_ok {masterProfile slaveProfile : StaticSakProfile} :
    assertPlainSakKeyExchange masterProfile slaveProfile = .ok () ↔
      masterProfile.rx.key = slaveProfile.tx.key ∧ masterProfile.tx.key = slaveProfile.rx.key := by
  constructor
  · intro accepted
    unfold assertPlainSakKeyExchange at accepted
    repeat' split at accepted
    all_goals cases accepted
    rename_i rxKey txKey
    exact ⟨not_not.mp rxKey, not_not.mp txKey⟩
  · intro same
    exact assertPlainSakKeyExchange_of_eq same.1 same.2

theorem checkMacsecInterfaceSakState_ok {shown : Except Text Json} {node interface : Text}
    {profile : StaticSakProfile} :
    checkMacsecInterfaceSakState shown node interface profile.rx.an profile.tx.an = .ok () ↔
      LiveInSync shown profile := by
  constructor
  · intro accepted
    unfold checkMacsecInterfaceSakState at accepted
    split at accepted
    · cases accepted
    · rename_i payload
      repeat' split at accepted
      all_goals cases accepted
      rename_i port key _ keyMsgId found _ anMatch matched _ _ liveRx liveTx rx tx same
      rw [not_or, not_not, not_not] at same
      obtain ⟨rfl, rfl⟩ := same
      exact ⟨payload, keyMsgId, anMatch, rfl, by simpa using port, by simpa using key, found, matched,
        rx, tx⟩
  · rintro ⟨payload, keyMsgId, anMatch, rfl, port, key, found, matched, rx, tx⟩
    simp [checkMacsecInterfaceSakState, port, key, found, matched, rx, tx]

/-- The check accepts parsed profiles that map onto each other and whose keys agree, or,
as soon as one of the four keys is encrypted, whose live interfaces are in sync. -/
theorem checkStaticSakKeySync_ok {masterCfg slaveCfg : Text} {masterShown slaveShown : Except Text Json} :
    checkStaticSakKeySync masterCfg slaveCfg masterShown slaveShown = .ok () ↔
      ∃ masterProfile slaveProfile,
        parseStaticSakProfile masterCfg quadraMacsecProfileMaster = .ok masterProfile ∧
        parseStaticSakProfile slaveCfg quadraMacsecProfileSlave = .ok slaveProfile ∧
        CrossMapped masterProfile slaveProfile ∧
        if usesEncryptedKeys masterProfile slaveProfile then
          LiveInSync masterShown masterProfile ∧ LiveInSync slaveShown slaveProfile
        else masterProfile.rx.key = slaveProfile.tx.key ∧ masterProfile.tx.key = slaveProfile.rx.key := by
  have compares (masterProfile slaveProfile : StaticSakProfile) :
      (if usesEncryptedKeys masterProfile slaveProfile then do
        checkMacsecInterfaceSakState masterShown master masterIntf masterProfile.rx.an masterProfile.tx.an
        checkMacsecInterfaceSakState slaveShown slave slaveIntf slaveProfile.rx.an slaveProfile.tx.an
      else (assertPlainSakKeyExchange masterProfile slaveProfile).mapError .profile) = .ok () ↔
        if usesEncryptedKeys masterProfile slaveProfile then
          LiveInSync masterShown masterProfile ∧ LiveInSync slaveShown slaveProfile
        else masterProfile.rx.key = slaveProfile.tx.key ∧ masterProfile.tx.key = slaveProfile.rx.key := by
    split
    · rw [Reports.then_ok_iff, checkMacsecInterfaceSakState_ok, checkMacsecInterfaceSakState_ok]
    · rw [Reports.mapError_ok_iff, assertPlainSakKeyExchange_ok]
  rw [checkStaticSakKeySync, Reports.bind_ok_iff]
  refine exists_congr fun masterProfile => ?_
  rw [Reports.mapError_ok_iff, Reports.bind_ok_iff, ← exists_and_left]
  refine exists_congr fun slaveProfile => ?_
  rw [Reports.mapError_ok_iff, Reports.then_ok_iff, Reports.mapError_ok_iff,
    assertStaticSakPeerMapping_ok, compares]

/-- Profiles with differing plain keys in a direction are refused. -/
def RejectsDiffering (masterCfg slaveCfg : Text) (masterShown slaveShown : Except Text Json) : Prop :=
  ∀ masterProfile slaveProfile,
    parseStaticSakProfile masterCfg quadraMacsecProfileMaster = .ok masterProfile →
    parseStaticSakProfile slaveCfg quadraMacsecProfileSlave = .ok slaveProfile →
    DiffersPlain masterProfile slaveProfile →
    checkStaticSakKeySync masterCfg slaveCfg masterShown slaveShown ≠ .ok ()

/-- One of the four keys is encrypted, so that only the mapping and the live interfaces
are looked at, and these are in order. -/
structure Masked (masterProfile slaveProfile : StaticSakProfile) (masterShown slaveShown : Except Text Json) :
    Prop where
  encrypted : usesEncryptedKeys masterProfile slaveProfile = true
  mapped : CrossMapped masterProfile slaveProfile
  masterLive : LiveInSync masterShown masterProfile
  slaveLive : LiveInSync slaveShown slaveProfile

theorem DiffersPlain.keys {masterProfile slaveProfile : StaticSakProfile}
    (differs : DiffersPlain masterProfile slaveProfile) :
    ¬ (masterProfile.rx.key = slaveProfile.tx.key ∧ masterProfile.tx.key = slaveProfile.rx.key) := by
  intro same
  rcases differs with ⟨-, -, differ⟩ | ⟨-, -, differ⟩
  · exact differ same.1
  · exact differ same.2

/-- Differing plain keys are refused exactly where no encrypted key masks them. -/
theorem rejectsDiffering_iff (masterCfg slaveCfg : Text) (masterShown slaveShown : Except Text Json) :
    RejectsDiffering masterCfg slaveCfg masterShown slaveShown ↔
      ∀ masterProfile slaveProfile,
        parseStaticSakProfile masterCfg quadraMacsecProfileMaster = .ok masterProfile →
        parseStaticSakProfile slaveCfg quadraMacsecProfileSlave = .ok slaveProfile →
        DiffersPlain masterProfile slaveProfile →
        ¬ Masked masterProfile slaveProfile masterShown slaveShown := by
  constructor
  · intro rejects masterProfile slaveProfile masterParsed slaveParsed differs masked
    apply rejects masterProfile slaveProfile masterParsed slaveParsed differs
    rw [checkStaticSakKeySync_ok]
    refine ⟨masterProfile, slaveProfile, masterParsed, slaveParsed, masked.mapped, ?_⟩
    rw [if_pos masked.encrypted]
    exact ⟨masked.masterLive, masked.slaveLive⟩
  · intro unmasked masterProfile slaveProfile masterParsed slaveParsed differs accepted
    obtain ⟨masterProfile', slaveProfile', masterParsed', slaveParsed', mapped, compared⟩ :=
      checkStaticSakKeySync_ok.mp accepted
    rw [masterParsed] at masterParsed'
    rw [slaveParsed] at slaveParsed'
    cases masterParsed'
    cases slaveParsed'
    by_cases encrypted : usesEncryptedKeys masterProfile slaveProfile = true
    · rw [if_pos encrypted] at compared
      exact unmasked masterProfile slaveProfile masterParsed slaveParsed differs
        ⟨encrypted, mapped, compared.1, compared.2⟩
    · rw [if_neg encrypted] at compared
      exact differs.keys compared

private def exampleSection (profile txKey rxKey : Text) : Text :=
  unlines [text "mac security", text "   profile " ++ profile, text "      cipher aes256-gcm-xpn",
    text "      key source sak static", text "      secure channel rx", text "         identifier a1",
    text "         an 1 key " ++ rxKey, text "      secure channel tx", text "         identifier a1",
    text "         an 1 key " ++ txKey]

private def exampleShown : Except Text Json :=
  .ok (.object [(text "controlledPort", .bool true), (text "keyMsgId", .str (text "Rx AN: 1 Tx AN: 1"))])

/-- The keys from master to slave are encrypted, those from slave to master plain and
different. -/
theorem not_rejectsDiffering_mixed :
    ¬ RejectsDiffering (exampleSection (text "quadra-master") (text "7 0dd0") (text "aaaa"))
      (exampleSection (text "quadra-slave") (text "bbbb") (text "7 0dd0")) exampleShown exampleShown := by
  intro rejects
  refine rejects ⟨⟨text "a1", 1, text "aaaa", false⟩, ⟨text "a1", 1, text "0dd0", true⟩⟩
    ⟨⟨text "a1", 1, text "0dd0", true⟩, ⟨text "a1", 1, text "bbbb", false⟩⟩ ?_ ?_ ?_ ?_
  · decide +kernel
  · decide +kernel
  · exact Or.inl ⟨rfl, rfl, by decide⟩
  · decide +kernel

end QuantumSafe.StaticSak
