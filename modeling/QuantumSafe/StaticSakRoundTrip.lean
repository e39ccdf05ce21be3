import QuantumSafe.RenderedCeos
import QuantumSafe.StaticSakSections

set_option autoImplicit false

/- What is rendered from the two QuaDRA MACsec templates is read back by
`parse_static_sak_profile`. -/
namespace QuantumSafe.StaticSak

open PyText PyRegex PyInt SymbolicText RenderTopo
open PyIpAddress (isHexDigit)

/-- The values of a rendered profile, by the channel in which they stand. -/
inductive SakSlot where
  | profile
  | rxId
  | rxKey
  | txId
  | txKey
deriving DecidableEq

def sakAllowed : SakSlot → Char → Bool
  | .rxKey, c => isHexDigit c
  | .txKey, c => isHexDigit c
  | _, c => !isSpace c

def channelSymbols (id key : SakSlot) : Symbols SakSlot :=
  chars (indent ++ text "identifier ") ++ slot id ++ chars (indent ++ text "an 0 key ") ++ slot key

def rxTail : Symbols SakSlot :=
  channelSymbols .rxId .rxKey ++ chars (text "\n      secure channel tx") ++ channelSymbols .txId .txKey

/-- A profile behind its name. -/
def sakBlock : Symbols SakSlot :=
  chars (text "\n      cipher aes256-gcm-xpn\n      key source sak static\n      secure channel rx") ++
    rxTail

def sakConfig (header : Text) : Symbols SakSlot :=
  chars (header ++ text "\nmac security\n   profile ") ++ (slot .profile ++ sakBlock)

/-- The lines of one channel. -/
def channelText (id key : Text) : Text :=
  indent ++ (text "identifier " ++ (id ++ (indent ++ (text "an 0 key " ++ key))))

/-- The values of a profile that can be rendered and read back. -/
structure SakValues where
  value : SakSlot → Text
  profile : IsToken (value .profile)
  rxId : IsToken (value .rxId)
  rxKey : IsHexKey (value .rxKey)
  txId : IsToken (value .txId)
  txKey : IsHexKey (value .txKey)

theorem SakValues.fits (values : SakValues) : Fits sakAllowed values.value := by
  have token {name : Text} (isToken : IsToken name) (c : Char) (member : c ∈ name) :
      (!isSpace c) = true := by
    rw [isToken.visible c member]
    rfl
  intro name c member
  cases name with
  | profile => exact token values.profile c member
  | rxId => exact token values.rxId c member
  | rxKey => exact values.rxKey.digits c member
  | txId => exact token values.txId c member
  | txKey => exact values.txKey.digits c member

theorem fill_channelSymbols (value : SakSlot → Text) (id key : SakSlot) :
    fill value (channelSymbols id key) = channelText (value id) (value key) := by
  simp only [channelSymbols, fill_append, fill_chars, fill_slot_alone, channelText, List.append_assoc]

/-- The stanza of a rendered profile. -/
def SakValues.stanza (values : SakValues) : Stanza where
  name := values.value .profile
  rx := plainLines values.rxId values.rxKey
  tx := plainLines values.txId values.txKey
  profileIndent := 3
  settingIndent := 6
  channelIndent := 6
  lineIndent := 9
  token := values.profile

theorem fill_sakBlock (values : SakValues) :
    fill values.value sakBlock = unlines ([] :: values.stanza.body) := by
  rw [Stanza.unlines_body]
  simp only [sakBlock, rxTail, blockSymbols, frontSymbols, rxSymbols, fill_append, fill_chars,
    fill_slot_alone, fill_channelSymbols, Stanza.fill_writtenSymbols, List.append_assoc]
  rfl

/-- A text in which a profile's name is followed by its block is read back. -/
theorem parseStaticSakProfile_of_cut (values : SakValues) {configText before : Text}
    (marked : cut (text "profile ") configText =
      some (before, values.value .profile ++ fill values.value sakBlock)) :
    parseStaticSakProfile configText (values.value .profile) =
      .ok ⟨⟨values.value .rxId, 0, values.value .rxKey, false⟩,
        ⟨values.value .txId, 0, values.value .txKey, false⟩⟩ := by
  have found := cut_longer (by decide) marked
  rw [fill_sakBlock, ← List.append_nil (unlines _)] at found
  exact Stanza.parseStaticSakProfile_of_mention (by simp) found (by simp [Regex.Stops])

/- The templates -/

def masterHeader : Text :=
  text "! QuaDRA static SAK MACsec — master (ceos1-both). Keys are placeholders until the agent runs."

def slaveHeader : Text :=
  text "! QuaDRA static SAK MACsec — slave (ceos3-qkd). rx/tx keys and SC IDs are reversed vs master."

/-- A dictionary that holds the five values of the MACsec templates. -/
structure Provides (ctx : List (Text × Text)) (profile scRx scTx keyRx keyTx : Text) : Prop where
  keys : ∀ item ∈ ctx, IsKey item.1
  profile : ctx.lookup (text "QUADRA_MACSEC_PROFILE") = some profile
  scRx : ctx.lookup (text "QUADRA_SC_RX_ID") = some scRx
  scTx : ctx.lookup (text "QUADRA_SC_TX_ID") = some scTx
  keyRx : ctx.lookup (text "QUADRA_KEY_RX") = some keyRx
  keyTx : ctx.lookup (text "QUADRA_KEY_TX") = some keyTx

def macsecTable (profile scRx scTx keyRx keyTx : Text) : Table :=
  [ (text "QUADRA_MACSEC_PROFILE", [chars profile]),
    (text "QUADRA_SC_RX_ID", [chars scRx]),
    (text "QUADRA_SC_TX_ID", [chars scTx]),
    (text "QUADRA_KEY_RX", [chars keyRx]),
    (text "QUADRA_KEY_TX", [chars keyTx]) ]

theorem agrees_macsecTable {ctx : List (Text × Text)} {profile scRx scTx keyRx keyTx : Text}
    (provides : Provides ctx profile scRx scTx keyRx keyTx)
    (plain : ∀ value ∈ [profile, scRx, scTx, keyRx, keyTx], '$' ∉ value) :
    Agrees (fun _ => []) ctx (macsecTable profile scRx scTx keyRx keyTx) := by
  intro key value known
  obtain ⟨before, after, split, -⟩ := List.lookup_eq_some_iff.mp known
  have member : (key, value) ∈ macsecTable profile scRx scTx keyRx keyTx := by
    rw [split]
    exact List.mem_append_right before List.mem_cons_self
  simp only [macsecTable, List.mem_cons, List.not_mem_nil, or_false] at member
  rcases member with same | same | same | same | same <;> cases same <;> rw [valueText_chars]
  · exact ⟨provides.profile, plain _ (by simp)⟩
  · exact ⟨provides.scRx, plain _ (by simp)⟩
  · exact ⟨provides.scTx, plain _ (by simp)⟩
  · exact ⟨provides.keyRx, plain _ (by simp)⟩
  · exact ⟨provides.keyTx, plain _ (by simp)⟩

/-- The lines of a rendered template, the channels filled in. -/
def macsecLines (header profile rxId rxKey txId txKey : Text) : List FString :=
  [ chars header,
    chars (text "mac security"),
    chars (text "   profile ") ++ (chars profile ++ []),
    chars (text "      cipher aes256-gcm-xpn"),
    chars (text "      key source sak static"),
    chars (text "      secure channel rx"),
    chars (text "         identifier ") ++ (chars rxId ++ []),
    chars (text "         an 0 key ") ++ (chars rxKey ++ []),
    chars (text "      secure channel tx"),
    chars (text "         identifier ") ++ (chars txId ++ []),
    chars (text "         an 0 key ") ++ (chars txKey ++ []) ]

set_option maxRecDepth 8000 in
theorem expandFile_master (profile scRx scTx keyRx keyTx : Text) :
    expandFile (macsecTable profile scRx scTx keyRx keyTx) quadraMacsecMasterTemplate =
      some (macsecLines masterHeader profile scRx keyRx scTx keyTx) := rfl

set_option maxRecDepth 8000 in
theorem expandFile_slave (profile scRx scTx keyRx keyTx : Text) :
    expandFile (macsecTable profile scRx scTx keyRx keyTx) quadraMacsecSlaveTemplate =
      some (macsecLines slaveHeader profile scTx keyTx scRx keyRx) := rfl

set_option maxRecDepth 8000 in
theorem unlines_macsecLines (header : Text) (values : SakValues) :
    fileText ((macsecLines header (values.value .profile) (values.value .rxId) (values.value .rxKey)
      (values.value .txId) (values.value .txKey)).map (fill fun _ => [])) =
        fill values.value (sakConfig header) ++ ['\n'] := by
  simp only [macsecLines, fileText, List.map_cons, List.map_nil, fill_append, fill_chars,
    List.append_nil, List.cons_append, List.nil_append, unlines_cons _ (List.cons_ne_nil _ _),
    unlines_singleton, sakConfig, sakBlock, rxTail, channelSymbols, fill_slot_alone, List.append_assoc]
  rfl

/-- The text of a profile ends in its last key. -/
theorem fill_sakConfig_ends (header : Text) (values : SakValues) :
    ∃ front, fill values.value (sakConfig header) = front ++ values.value .txKey := by
  refine ⟨fill values.value (chars (header ++ text "\nmac security\n   profile ") ++ (slot .profile ++
    (chars (text "\n      cipher aes256-gcm-xpn\n      key source sak static\n      secure channel rx") ++
    (channelSymbols .rxId .rxKey ++ chars (text "\n      secure channel tx") ++
    (chars (indent ++ text "identifier ") ++ slot .txId ++ chars (indent ++ text "an 0 key ")))))), ?_⟩
  simp only [sakConfig, sakBlock, rxTail, channelSymbols, fill_append, fill_slot_alone, List.append_assoc]

theorem rstripNewlines_key {key : Text} (hexKey : IsHexKey key) (front : Text) :
    rstripNewlines (front ++ key ++ ['\n']) = front ++ key := by
  obtain ⟨body, last, split⟩ := key.eq_nil_or_concat'.resolve_left hexKey.token.filled
  have visible := hexKey.token.visible last (by simp [split])
  have other : ¬ (last == '\n') = true := by
    rw [beq_iff_eq]
    intro feed
    rw [feed] at visible
    cases visible
  rw [rstripNewlines, List.rdropWhile_concat_pos _ _ _ (by simp), split, ← List.append_assoc,
    List.rdropWhile_concat_neg _ _ _ (by simpa using other)]

theorem renderQuadra_of_lines {ctx : List (Text × Text)} {profile scRx scTx keyRx keyTx header : Text}
    {file : List Text} (provides : Provides ctx profile scRx scTx keyRx keyTx)
    (plain : ∀ value ∈ [profile, scRx, scTx, keyRx, keyTx], '$' ∉ value) (values : SakValues)
    (expanded : expandFile (macsecTable profile scRx scTx keyRx keyTx) file =
      some (macsecLines header (values.value .profile) (values.value .rxId) (values.value .rxKey)
        (values.value .txId) (values.value .txKey))) :
    renderQuadra file ctx = .ok (fill values.value (sakConfig header)) := by
  obtain ⟨front, ends⟩ := fill_sakConfig_ends header values
  rw [renderQuadra, renderFile_expandFile provides.keys (agrees_macsecTable provides plain) expanded,
    unlines_macsecLines header values, ends, Except.map, rstripNewlines_key values.txKey]

/-- The profile's name stands behind the first `profile ` of the file. -/
theorem cut_sakConfig {header : Text} (values : SakValues)
    (first : cutSymbols sakAllowed (text "profile ") (sakConfig header) =
      some (chars (header ++ text "\nmac security\n   "), slot .profile ++ sakBlock)) :
    cut (text "profile ") (fill values.value (sakConfig header)) =
      some (header ++ text "\nmac security\n   ",
        values.value .profile ++ fill values.value sakBlock) := by
  rw [cut_fill values.fits (by decide) first, fill_chars, fill_append, fill_slot_alone]

theorem masterHeader_first : cutSymbols sakAllowed (text "profile ") (sakConfig masterHeader) =
    some (chars (masterHeader ++ text "\nmac security\n   "), slot .profile ++ sakBlock) := by
  decide +kernel

theorem slaveHeader_first : cutSymbols sakAllowed (text "profile ") (sakConfig slaveHeader) =
    some (chars (slaveHeader ++ text "\nmac security\n   "), slot .profile ++ sakBlock) := by
  decide +kernel

def sakValues (profile rxId rxKey txId txKey : Text) : SakSlot → Text
  | .profile => profile
  | .rxId => rxId
  | .rxKey => rxKey
  | .txId => txId
  | .txKey => txKey

theorem IsHexKey.plain {key : Text} (hexKey : IsHexKey key) : '$' ∉ key := by
  intro member
  have digit := hexKey.digits '$' member
  cases digit

/-- Rendering the two templates from one set of values and reading the results gives the
values back, and the two profiles match. -/
theorem parse_rendered_profiles {masterCtx slaveCtx : List (Text × Text)}
    {masterProfile slaveProfile scRx scTx keyRx keyTx : Text}
    (master : Provides masterCtx masterProfile scRx scTx keyRx keyTx)
    (slave : Provides slaveCtx slaveProfile scRx scTx keyRx keyTx)
    (tokens : ∀ name ∈ [masterProfile, slaveProfile, scRx, scTx], IsToken name ∧ '$' ∉ name)
    (rxKey : IsHexKey keyRx) (txKey : IsHexKey keyTx) :
    ∃ masterText slaveText masterSak slaveSak,
      renderQuadra quadraMacsecMasterTemplate masterCtx = .ok masterText ∧
      renderQuadra quadraMacsecSlaveTemplate slaveCtx = .ok slaveText ∧
      parseStaticSakProfile masterText masterProfile = .ok masterSak ∧
      parseStaticSakProfile slaveText slaveProfile = .ok slaveSak ∧
      masterSak = ⟨⟨scRx, 0, keyRx, false⟩, ⟨scTx, 0, keyTx, false⟩⟩ ∧
      slaveSak = ⟨⟨scTx, 0, keyTx, false⟩, ⟨scRx, 0, keyRx, false⟩⟩ ∧
      assertStaticSakPeerMapping masterSak slaveSak = .ok () ∧
      assertPlainSakKeyExchange masterSak slaveSak = .ok () := by
  have masterName := tokens masterProfile (by simp)
  have slaveName := tokens slaveProfile (by simp)
  have rxName := tokens scRx (by simp)
  have txName := tokens scTx (by simp)
  let masterValues : SakValues :=
    ⟨sakValues masterProfile scRx keyRx scTx keyTx, masterName.1, rxName.1, rxKey, txName.1, txKey⟩
  let slaveValues : SakValues :=
    ⟨sakValues slaveProfile scTx keyTx scRx keyRx, slaveName.1, txName.1, txKey, rxName.1, rxKey⟩
  have plain {profile : Text} (name : '$' ∉ profile) :
      ∀ value ∈ [profile, scRx, scTx, keyRx, keyTx], '$' ∉ value := by
    simp only [List.forall_mem_cons]
    exact ⟨name, rxName.2, txName.2, rxKey.plain, txKey.plain, fun _ member => by cases member⟩
  have masterText := renderQuadra_of_lines master (plain masterName.2) masterValues
    (expandFile_master masterProfile scRx scTx keyRx keyTx)
  have slaveText := renderQuadra_of_lines slave (plain slaveName.2) slaveValues
    (expandFile_slave slaveProfile scRx scTx keyRx keyTx)
  have masterRead := parseStaticSakProfile_of_cut masterValues
    (cut_sakConfig masterValues masterHeader_first)
  have slaveRead := parseStaticSakProfile_of_cut slaveValues
    (cut_sakConfig slaveValues slaveHeader_first)
  exact ⟨_, _, _, _, masterText, slaveText, masterRead, slaveRead, rfl, rfl,
    assertStaticSakPeerMapping_of_eq rfl rfl rfl rfl, assertPlainSakKeyExchange_of_eq rfl rfl⟩

/-- Keys that start with the digits of a key type, identifiers that end in `an`. -/
theorem parse_rendered_profiles_digits :
    ∃ masterText slaveText masterSak slaveSak,
      renderQuadra quadraMacsecMasterTemplate
        [(text "QUADRA_KEY_RX", text "7007"), (text "QUADRA_KEY_TX", text "7a"),
          (text "QUADRA_SC_RX_ID", text "an"), (text "QUADRA_SC_TX_ID", text "identifier"),
          (text "QUADRA_MACSEC_PROFILE", text "profile")] = .ok masterText ∧
      renderQuadra quadraMacsecSlaveTemplate
        [(text "QUADRA_KEY_RX", text "7007"), (text "QUADRA_KEY_TX", text "7a"),
          (text "QUADRA_SC_RX_ID", text "an"), (text "QUADRA_SC_TX_ID", text "identifier"),
          (text "QUADRA_MACSEC_PROFILE", text "p")] = .ok slaveText ∧
      parseStaticSakProfile masterText (text "profile") = .ok masterSak ∧
      parseStaticSakProfile slaveText (text "p") = .ok slaveSak ∧
      masterSak = ⟨⟨text "an", 0, text "7007", false⟩, ⟨text "identifier", 0, text "7a", false⟩⟩ ∧
      slaveSak = ⟨⟨text "identifier", 0, text "7a", false⟩, ⟨text "an", 0, text "7007", false⟩⟩ ∧
      assertStaticSakPeerMapping masterSak slaveSak = .ok () ∧
      assertPlainSakKeyExchange masterSak slaveSak = .ok () := by
  have token {name : Text} (filled : name ≠ [])
      (plain : name.all (fun c => !isSpace c && c != '$') = true) : IsToken name ∧ '$' ∉ name := by
    have chars : ∀ c ∈ name, isSpace c = false ∧ c ≠ '$' := by
      intro c member
      simpa using List.all_eq_true.mp plain c member
    exact ⟨⟨filled, fun c member => (chars c member).1⟩, fun member => (chars '$' member).2 rfl⟩
  have hexKey {key : Text} (long : 2 ≤ key.length) (digits : key.all isHexDigit = true) : IsHexKey key :=
    ⟨long, List.all_eq_true.mp digits⟩
  have valid : [text "QUADRA_KEY_RX", text "QUADRA_KEY_TX", text "QUADRA_SC_RX_ID",
      text "QUADRA_SC_TX_ID", text "QUADRA_MACSEC_PROFILE"].all (fun key => decide (IsKey key)) = true := by
    decide +kernel
  have keys {profile : Text} : ∀ item ∈ [(text "QUADRA_KEY_RX", text "7007"),
      (text "QUADRA_KEY_TX", text "7a"), (text "QUADRA_SC_RX_ID", text "an"),
      (text "QUADRA_SC_TX_ID", text "identifier"), (text "QUADRA_MACSEC_PROFILE", profile)],
      IsKey item.1 :=
    isKey_of_keys _ rfl valid
  have provides (profile : Text) : Provides [(text "QUADRA_KEY_RX", text "7007"),
      (text "QUADRA_KEY_TX", text "7a"), (text "QUADRA_SC_RX_ID", text "an"),
      (text "QUADRA_SC_TX_ID", text "identifier"), (text "QUADRA_MACSEC_PROFILE", profile)]
      profile (text "an") (text "identifier") (text "7007") (text "7a") :=
    ⟨keys, rfl, rfl, rfl, rfl, rfl⟩
  have tokens : ∀ name ∈ [text "profile", text "p", text "an", text "identifier"],
      IsToken name ∧ '$' ∉ name := by
    simp only [List.forall_mem_cons]
    exact ⟨token (by decide) (by decide), token (by decide) (by decide), token (by decide) (by decide),
      token (by decide) (by decide), fun _ member => by cases member⟩
  exact parse_rendered_profiles (provides (text "profile")) (provides (text "p")) tokens
    (hexKey (by decide) (by decide)) (hexKey (by decide) (by decide))

end QuantumSafe.StaticSak
