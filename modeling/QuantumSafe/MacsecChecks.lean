import QuantumSafe.CeosJson
import QuantumSafe.PyRegex
import QuantumSafe.Reports

set_option autoImplicit false

/- The MACsec and 802.1X states that `lab/ceos_json.py` reads off the output of the
show commands, and the checks of `lab/test_macsec_dot1x.py` on them. -/
namespace QuantumSafe.MacsecChecks

open PyText PyJson CeosJson

def macsecInterface : Text := text "Ethernet1"
def authenticator : Text := text "ceos1-both"
def dot1xEapIdentity : Text := text "ceos2-pqc"

/-- `isinstance(value, (int, float)) and value > 0`. -/
def positiveNumber : Json → Bool
  | .bool value => value
  | .int value => decide (0 < value)
  | .float _ order => order == some .gt
  | _ => false

/-- The tests of `macsec_has_active_key` behind the two `...InUse` fields. -/
def hasKeyMarks (tree : Json) : Bool :=
  let named : Bool := match jsonFindValue (text "keyMsgId") tree with
    | some (.str value) => !value.isEmpty
    | _ => false
  let numbered : Bool := match jsonFindValue (text "keyNum") tree with
    | some value => positiveNumber value
    | none => false
  named || numbered ||
    (jsonTruthy tree (text "oldKeyTransmitting") || jsonTruthy tree (text "oldKeyReceiving")) ||
    (jsonTreeContains tree (text "Key in use:") && !jsonTreeContains tree (text "Key in use: None"))

def macsecHasActiveKey (tree : Json) : Bool :=
  let key := match jsonFindValue (text "keyInUse") tree with
    | some value => some value
    | none => jsonFindValue (text "sakInUse") tree
  match key with
  | some (.str value) => lower value != text "none" && lower value != []
  | some value => value.truthy
  | none => hasKeyMarks tree

def macsecTrafficProtected (tree : Json) : Bool :=
  match jsonFindValue (text "traffic") tree with
  | some (.str value) => lower value == text "protected" || lower value == text "encrypted"
  | _ => jsonTreeContains tree (text "Protected") || jsonTreeContains tree (text "encrypted") false

/-- What a `MacsecCheckError` of these checks reports, with the values its message quotes. -/
inductive MacsecCheckError where
  | json (error : CeosJsonError)
  | unprotected (node interface : Text)
  | noActiveSak (node : Text)
deriving DecidableEq, Repr

/-- `_assert_json_contains` of this module. -/
def assertContains (tree : Json) (needle label : Text) (caseSensitive : Bool := true) :
    Except MacsecCheckError Unit :=
  (assertJsonContains tree needle label caseSensitive).mapError .json

/-- `check_authenticator_dot1x` on the parsed output of its two show commands. -/
def checkAuthenticatorDot1x (hosts detail : Json) : Except MacsecCheckError Unit := do
  assertContains hosts dot1xEapIdentity (authenticator ++ text " dot1x host identity")
  assertContains hosts (text "SUCCESS") (authenticator ++ text " dot1x host state")
  assertContains detail (text "authorized") (authenticator ++ text " dot1x port authorized") false

/-- `check_macsec_interface` on the parsed output. -/
def checkMacsecInterface (output : Json) (node : Text) : Except MacsecCheckError Unit := do
  assertContains output (text "True") (node ++ text " controlled port")
  if !macsecTrafficProtected output then .error (.unprotected node macsecInterface)
  else if !macsecHasActiveKey output then .error (.noActiveSak node)
  else .ok ()

theorem assertContains_ok {tree : Json} {needle label : Text} :
    assertContains tree needle label = .ok () ↔ Mentions tree needle := by
  rw [assertContains, Reports.mapError_ok_iff, assertJsonContains_ok, jsonTreeContains_iff]

theorem assertContains_folded_ok {tree : Json} {needle label : Text} :
    assertContains tree needle label false = .ok () ↔ MentionsFolded tree needle := by
  rw [assertContains, Reports.mapError_ok_iff, assertJsonContains_ok, jsonTreeContains_folded_iff]

section Interface

variable {output : Json} {node : Text}

theorem checkMacsecInterface_ok :
    checkMacsecInterface output node = .ok () ↔
      Mentions output (text "True") ∧ macsecTrafficProtected output = true ∧
        macsecHasActiveKey output = true := by
  rw [checkMacsecInterface, Reports.then_ok_iff, assertContains_ok]
  refine and_congr_right fun _ => ?_
  by_cases traffic : macsecTrafficProtected output = true
  · by_cases key : macsecHasActiveKey output = true <;> simp [traffic, key]
  · simp [traffic]

/-- The interface check accepts an output only with the controlled port up, protected
traffic and an active key, and never with the controlled port down. -/
structure PortChecked (output : Json) : Prop where
  sound : ∀ node, checkMacsecInterface output node = .ok () →
    jsonTruthy output (text "controlledPort") = true ∧ macsecTrafficProtected output = true ∧
      macsecHasActiveKey output = true
  closed : jsonFindValue (text "controlledPort") output = some (.bool false) →
    ∀ node, checkMacsecInterface output node ≠ .ok ()

theorem jsonTruthy_false {tree : Json} {key : Text} (found : jsonFindValue key tree = some (.bool false)) :
    jsonTruthy tree key = false := by
  rw [jsonTruthy, found]

/-- The check is right exactly on the outputs with the controlled port up, and on those
that one of its three tests refuses: no key or scalar with `True` in it, no protected
traffic, or no active key. -/
theorem portChecked_iff (output : Json) :
    PortChecked output ↔
      jsonTruthy output (text "controlledPort") = true ∨ ¬ Mentions output (text "True") ∨
        macsecTrafficProtected output = false ∨ macsecHasActiveKey output = false := by
  constructor
  · intro checked
    by_cases accepted : checkMacsecInterface output [] = .ok ()
    · exact Or.inl (checked.sound [] accepted).1
    · right
      rw [checkMacsecInterface_ok, not_and_or, not_and_or, Bool.not_eq_true, Bool.not_eq_true] at accepted
      exact accepted
  · intro settled
    have port (node : Text) (accepted : checkMacsecInterface output node = .ok ()) :
        jsonTruthy output (text "controlledPort") = true := by
      obtain ⟨shown, traffic, key⟩ := checkMacsecInterface_ok.mp accepted
      rcases settled with up | absent | open_ | none
      · exact up
      · exact absurd shown absent
      · simp [open_] at traffic
      · simp [none] at key
    refine ⟨fun node accepted => ⟨port node accepted, (checkMacsecInterface_ok.mp accepted).2⟩, ?_⟩
    intro down node accepted
    have up := port node accepted
    rw [jsonTruthy_false down] at up
    cases up

/-- The controlled port is down, and another flag is true. -/
theorem not_portChecked_otherFlag :
    ¬ PortChecked (.object [(text "controlledPort", .bool false), (text "sci", .bool true),
      (text "traffic", .str (text "Protected")), (text "keyInUse", .str (text "deadbeef:1"))]) := by
  intro checked
  exact checked.closed rfl (text "ceos1-both") (by decide)

end Interface

section Authenticator

/-- A string scalar of the tree is the given status, up to case. -/
def HasStatus (tree : Json) (status : Text) : Prop := ∃ value, .str value ∈ tree.subtrees ∧ lower value = status

/-- The 802.1X check accepts an interface only with the status `authorized`, and
never with `Unauthorized` alone. -/
structure PortAuthorized (hosts detail : Json) : Prop where
  sound : checkAuthenticatorDot1x hosts detail = .ok () → HasStatus detail (text "authorized")
  closed : HasStatus detail (text "unauthorized") → ¬ HasStatus detail (text "authorized") →
    checkAuthenticatorDot1x hosts detail ≠ .ok ()

theorem checkAuthenticatorDot1x_ok {hosts detail : Json} :
    checkAuthenticatorDot1x hosts detail = .ok () ↔
      Mentions hosts dot1xEapIdentity ∧ Mentions hosts (text "SUCCESS") ∧
        MentionsFolded detail (text "authorized") := by
  rw [checkAuthenticatorDot1x, Reports.then_ok_iff, Reports.then_ok_iff, assertContains_ok,
    assertContains_ok, assertContains_folded_ok]

/-- The check is right exactly when the status is there, or one of its three searches
finds nothing. -/
theorem portAuthorized_iff (hosts detail : Json) :
    PortAuthorized hosts detail ↔
      HasStatus detail (text "authorized") ∨ ¬ MentionsFolded detail (text "authorized") ∨
        ¬ Mentions hosts dot1xEapIdentity ∨ ¬ Mentions hosts (text "SUCCESS") := by
  constructor
  · intro authorized
    by_cases accepted : checkAuthenticatorDot1x hosts detail = .ok ()
    · exact Or.inl (authorized.sound accepted)
    · right
      rw [checkAuthenticatorDot1x_ok, not_and_or, not_and_or] at accepted
      rcases accepted with identity | state | word
      · exact Or.inr (Or.inl identity)
      · exact Or.inr (Or.inr state)
      · exact Or.inl word
  · intro settled
    have sound (accepted : checkAuthenticatorDot1x hosts detail = .ok ()) :
        HasStatus detail (text "authorized") := by
      obtain ⟨identity, state, word⟩ := checkAuthenticatorDot1x_ok.mp accepted
      rcases settled with status | absent | absent | absent
      · exact status
      · exact absurd word absent
      · exact absurd identity absent
      · exact absurd state absent
    exact ⟨sound, fun _ other accepted => other (sound accepted)⟩

theorem not_portAuthorized_unauthorized :
    ¬ PortAuthorized (.object [(text "hosts", .list [.object [(text "identity", .str (text "ceos2-pqc")),
        (text "state", .str (text "SUCCESS"))]])])
      (.object [(text "interfaces", .object [(text "Ethernet1",
        .object [(text "portStatus", .str (text "Unauthorized"))])])]) := by
  intro authorized
  obtain ⟨value, inside, same⟩ := authorized.sound (by decide)
  have known : value = text "Unauthorized" := by simpa [Json.subtrees, itemSubtrees, entrySubtrees] using inside
  rw [known] at same
  exact absurd same (by decide)

end Authenticator

section Traffic

variable (inWord : Char → Bool)

/-- A word stands in a text, in any case, and no character of a word is next to it. -/
def HasWord (word s : Text) : Prop :=
  ∃ before written after, s = before ++ written ++ after ∧ lower written = word ∧
    (∀ c, before.getLast? = some c → inWord c = false) ∧ (∀ c, after.head? = some c → inWord c = false)

/-- Some string scalar of the tree has the word `protected` or `encrypted`. -/
def ReportsProtected (tree : Json) : Prop :=
  ∃ value, .str value ∈ tree.subtrees ∧
    (HasWord inWord (text "protected") value ∨ HasWord inWord (text "encrypted") value)

/-- Traffic counts as protected only where a string scalar reports it. -/
def OnlyReported (tree : Json) : Prop := macsecTrafficProtected tree = true → ReportsProtected inWord tree

theorem hasWord_self {word s : Text} (same : lower s = word) : HasWord inWord word s :=
  ⟨[], s, [], by simp, same, by simp, by simp⟩

theorem macsecTrafficProtected_str {tree : Json} {value : Text}
    (found : jsonFindValue (text "traffic") tree = some (.str value)) :
    macsecTrafficProtected tree = true ↔ lower value = text "protected" ∨ lower value = text "encrypted" := by
  simp [macsecTrafficProtected, found]

theorem macsecTrafficProtected_other {tree : Json}
    (other : ∀ value, jsonFindValue (text "traffic") tree ≠ some (.str value)) :
    macsecTrafficProtected tree = true ↔
      Mentions tree (text "Protected") ∨ MentionsFolded tree (text "encrypted") := by
  rw [macsecTrafficProtected]
  split
  · next value found => exact absurd found (other value)
  · rw [Bool.or_eq_true, jsonTreeContains_iff, jsonTreeContains_folded_iff]

/-- The verdict is right exactly when the first `traffic` field is a string, or no key
or scalar mentions the words, or a string scalar has one of them as a whole word. -/
theorem onlyReported_iff (tree : Json) :
    OnlyReported inWord tree ↔
      (∃ value, jsonFindValue (text "traffic") tree = some (.str value)) ∨
        (¬ Mentions tree (text "Protected") ∧ ¬ MentionsFolded tree (text "encrypted")) ∨
          ReportsProtected inWord tree := by
  by_cases named : ∃ value, jsonFindValue (text "traffic") tree = some (.str value)
  · refine iff_of_true (fun verdict => ?_) (Or.inl named)
    obtain ⟨value, found⟩ := named
    have inside := jsonFindValue_mem found
    rcases (macsecTrafficProtected_str found).mp verdict with same | same
    · exact ⟨value, inside, Or.inl (hasWord_self inWord same)⟩
    · exact ⟨value, inside, Or.inr (hasWord_self inWord same)⟩
  · have verdict := macsecTrafficProtected_other (not_exists.mp named)
    rw [OnlyReported, verdict, or_iff_right named, imp_iff_not_or, not_or]

/-- A zero counter whose name mentions the word. -/
theorem not_onlyReported_counter :
    ¬ OnlyReported PyRegex.asciiWords.isWord (.object [(text "outPktsUnencrypted", .int 12),
      (text "outPktsEncrypted", .int 0)]) := by
  intro only
  obtain ⟨value, inside, -⟩ := only (by decide)
  simp [Json.subtrees, entrySubtrees] at inside

end Traffic

end QuantumSafe.MacsecChecks
