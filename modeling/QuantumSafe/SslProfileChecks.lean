import QuantumSafe.CeosJson
import QuantumSafe.LabConstants
import QuantumSafe.PyRegex
import QuantumSafe.Reports

set_option autoImplicit false

/- The two checks on `show management security ssl profile ... detail | json`:
`check_switch_ssl_profile` of `lab/test_pqc_connections.py` and
`check_switch_syslog_ssl_profile_detail` of `lab/syslog_checks.py`. -/
namespace QuantumSafe.SslProfileChecks

open PyText PyRegex PyJson CeosJson

/-- `PQC_GROUP` of both modules. -/
def pqcGroup : Text := LabContract.tlsPqcGroup

/-- `check_switch_ssl_profile` on the parsed output. The `PqcConnectionError` that it
raises has the text of the error here. -/
def checkSwitchSslProfile (node profile : Text) (detail : Json) : Except CeosJsonError Unit := do
  assertJsonContains detail (text "valid") (node ++ text " " ++ profile ++ text " profile")
  assertJsonContains detail pqcGroup (node ++ text " " ++ profile ++ text " KEX groups")

/-- The `SyslogCheckError`s about the SYSLOG ssl profile. -/
inductive SyslogProfileError where
  | mustBeValid (node : Text)
  | mustAdvertise (node group : Text)
deriving DecidableEq, Repr

/-- `str(detail)`, of a value that is neither a dictionary nor a list. -/
def scalarText : Json → Option Text
  | .null => some (text "None")
  | .bool value => some (boolText value)
  | .int value => some (intText value)
  | .float shown _ => some shown
  | .str value => some value
  | .list _ | .object _ => none

def quote : Regex := .char fun c => c == '\'' || c == '"'

/-- `['"]key['"]\s*:\s*['"]valid['"]`. -/
def validFieldPattern (key : Text) : Regex :=
  .seq quote (.seq (.literal key) (.seq quote (.seq (.many 0 isSpace) (.seq (.char (· == ':'))
    (.seq (.many 0 isSpace) (.seq quote (.seq (.literal (text "valid")) quote)))))))

def syslogSslProfileValid (detail : Json) : Bool :=
  match scalarText detail with
  | none => jsonTruthy detail (text "profileState") || jsonTruthy detail (text "state")
  | some shown =>
      if contains (text "State: valid") shown then true
      else Regex.found (validFieldPattern (text "profileState")) shown ||
        Regex.found (validFieldPattern (text "state")) shown

def checkSwitchSyslogSslProfileDetail (detail : Json) (node : Text) : Except SyslogProfileError Unit :=
  if !syslogSslProfileValid detail then .error (.mustBeValid node)
  else
    match scalarText detail with
    | none =>
        if !jsonTreeContains detail pqcGroup then .error (.mustAdvertise node pqcGroup) else .ok ()
    | some shown => if !contains pqcGroup shown then .error (.mustAdvertise node pqcGroup) else .ok ()

/-- The generic check accepts no output that the check of the SYSLOG profile refuses,
and none with a profile that is not valid. -/
structure AcceptsOnlyValid (detail : Json) : Prop where
  refines : ∀ node profile, checkSwitchSslProfile node profile detail = .ok () →
    ∀ node', checkSwitchSyslogSslProfileDetail detail node' = .ok ()
  valid : ∀ node profile, checkSwitchSslProfile node profile detail = .ok () →
    syslogSslProfileValid detail = true

/-- Some field or line of the output gives the state as valid. -/
inductive StatesValid (detail : Json) : Prop
  | profileState (nested : scalarText detail = none) (truthy : jsonTruthy detail (text "profileState") = true)
  | state (nested : scalarText detail = none) (truthy : jsonTruthy detail (text "state") = true)
  | line (shown : Text) (scalar : scalarText detail = some shown)
      (has : contains (text "State: valid") shown = true)
  | written (shown : Text) (scalar : scalarText detail = some shown) (key : Text)
      (known : key = text "profileState" ∨ key = text "state")
      (has : Regex.found (validFieldPattern key) shown = true)

theorem syslogSslProfileValid_iff (detail : Json) :
    syslogSslProfileValid detail = true ↔ StatesValid detail := by
  unfold syslogSslProfileValid
  split
  · next nested =>
      rw [Bool.or_eq_true]
      constructor
      · rintro (truthy | truthy)
        · exact .profileState nested truthy
        · exact .state nested truthy
      · intro states
        cases states with
        | profileState _ truthy => exact Or.inl truthy
        | state _ truthy => exact Or.inr truthy
        | line shown scalar => simp [nested] at scalar
        | written shown scalar => simp [nested] at scalar
  · next shown scalar =>
      constructor
      · intro valid
        by_cases line : contains (text "State: valid") shown = true
        · exact .line shown scalar line
        · simp only [line, Bool.false_eq_true, ↓reduceIte, Bool.or_eq_true] at valid
          rcases valid with has | has
          · exact .written shown scalar _ (Or.inl rfl) has
          · exact .written shown scalar _ (Or.inr rfl) has
      · intro states
        cases states with
        | profileState nested => simp [scalar] at nested
        | state nested => simp [scalar] at nested
        | line other same has =>
            have same : shown = other := Option.some.inj (scalar.symm.trans same)
            rw [same, if_pos has]
        | written other same key known has =>
            have same : shown = other := Option.some.inj (scalar.symm.trans same)
            subst same
            rcases known with rfl | rfl <;> simp [has]

theorem checkSwitchSslProfile_ok {node profile : Text} {detail : Json} :
    checkSwitchSslProfile node profile detail = .ok () ↔
      Mentions detail (text "valid") ∧ Mentions detail pqcGroup := by
  unfold checkSwitchSslProfile
  rw [Reports.then_ok_iff, assertJsonContains_ok, assertJsonContains_ok, jsonTreeContains_iff,
    jsonTreeContains_iff]

/-- The text of a scalar is the only text of its tree. -/
theorem mentions_of_scalar {detail : Json} {shown needle : Text} (scalar : scalarText detail = some shown)
    (mentions : Mentions detail needle) : contains needle shown = true := by
  obtain ⟨found, member, has⟩ := mentions
  cases detail with
  | null => cases member
  | bool | int | float | str =>
      have same : found = shown := (List.mem_singleton.mp member).trans (Option.some.inj scalar)
      exact same ▸ has
  | list | object => cases scalar

theorem checkSwitchSyslogSslProfileDetail_ok {detail : Json} {node : Text}
    (valid : syslogSslProfileValid detail = true) (group : Mentions detail pqcGroup) :
    checkSwitchSyslogSslProfileDetail detail node = .ok () := by
  unfold checkSwitchSyslogSslProfileDetail
  split
  · simp_all
  · split
    · have known : jsonTreeContains detail pqcGroup = true := jsonTreeContains_iff.mpr group
      simp [known]
    · next shown scalar => simp [mentions_of_scalar scalar group]

/-- The generic check is right exactly on the outputs that do not mention the word
`valid`, do not mention the group, or do give a state as valid. -/
theorem acceptsOnlyValid_iff (detail : Json) :
    AcceptsOnlyValid detail ↔
      ¬ Mentions detail (text "valid") ∨ ¬ Mentions detail pqcGroup ∨ StatesValid detail := by
  constructor
  · intro right
    by_cases accepted : checkSwitchSslProfile [] [] detail = .ok ()
    · have valid := right.valid [] [] accepted
      exact Or.inr (Or.inr ((syslogSslProfileValid_iff detail).mp valid))
    · rw [checkSwitchSslProfile_ok, not_and_or] at accepted
      exact accepted.imp_right Or.inl
  · intro settled
    have valid (node profile : Text) (accepted : checkSwitchSslProfile node profile detail = .ok ()) :
        syslogSslProfileValid detail = true := by
      obtain ⟨word, group⟩ := checkSwitchSslProfile_ok.mp accepted
      rcases settled with absent | absent | states
      · exact absurd word absent
      · exact absurd group absent
      · exact (syslogSslProfileValid_iff detail).mpr states
    refine ⟨fun node profile accepted node' => ?_, valid⟩
    have group := (checkSwitchSslProfile_ok.mp accepted).2
    exact checkSwitchSyslogSslProfileDetail_ok (valid node profile accepted) group

/-- A profile whose state is `invalid`. -/
theorem not_acceptsOnlyValid_invalid :
    ¬ AcceptsOnlyValid (.object [(text "profileStatus", .object [(text "SYSLOG", .object
      [(text "profileState", .str (text "invalid")),
        (text "groups", .list [.str (text "X25519MLKEM768")])])])]) := by
  intro right
  have accepted := right.valid (text "ceos1-both") (text "SYSLOG") (by decide)
  exact absurd accepted (by decide)

end QuantumSafe.SslProfileChecks
