import QuantumSafe.LabConstants
import QuantumSafe.LabelledWords

set_option autoImplicit false

/- `lab/tls_wire.py`: what an openssl s_client transcript says about the handshake. -/
namespace QuantumSafe.TlsWire

open PyText PyRegex

def classicalProbeGroup : Text := text "secp256r1"

inductive TlsWirePolicy where
  | strict
  | warn
deriving DecidableEq, Repr

/-- `CheckStatus` of `lab/report.py`. -/
inductive CheckStatus where
  | ok
  | warn
  | fail
  | skip
deriving DecidableEq, Repr

structure TlsWireResult where
  pqcConfirmed : Bool
  tls13 : Bool
  kexGroup : Option Text
  cipher : Option Text
deriving DecidableEq, Repr

def tls13Handshake (output : Text) : Bool := contains (text "TLSv1.3") output

def groupLabel : Text := text "Negotiated TLS1.3 group:"

/-- `Negotiated TLS1\.3 group:.*MLKEM`. -/
def mlkemLinePattern : Regex :=
  .seq (.literal groupLabel) (.seq (.many 0 (· != '\n')) (.literal (text "MLKEM")))

def negotiatedPqcGroup (output : Text) : Bool :=
  if contains LabContract.tlsPqcGroup output then true else Regex.found mlkemLinePattern output

/-- The words that stand for no group. -/
def noGroups : List Text := [text "<NULL>", text "(NONE)"]

/-- `Peer Temp Key: ECDH, X25519\b`. -/
def x25519Pattern [WordClass] : Regex := .seq (.literal (text "Peer Temp Key: ECDH, X25519")) .wordEdge

/-- The branches of `extract_negotiated_tls_group` for the temporary key. -/
def temporaryGroup [WordClass] (output : Text) : Option Text :=
  if contains (text "Peer Temp Key: ECDH, prime256v1") output then some classicalProbeGroup
  else if Regex.found x25519Pattern output then some (text "x25519")
  else none

def extractNegotiatedTlsGroup [WordClass] (output : Text) : Option Text :=
  match firstWord groupLabel output with
  | some group => if !noGroups.contains group then some group else temporaryGroup output
  | none => temporaryGroup output

/-- The patterns of `extract_negotiated_cipher`: a label, one blank and a word. -/
def cipherPattern (label : Text) : Regex := .seq (.literal label) (.group 1 (.many 1 nonSpace))

def cipherLabels : List Text :=
  [text "Cipher is ", text "New, TLSv1.3, Cipher is ", text "Ciphersuite: "]

def extractNegotiatedCipher (output : Text) : Option Text :=
  cipherLabels.findSome? fun label =>
    (Regex.search (cipherPattern label) output).map fun finish => finish.group 1

def parseTlsWireOutput [WordClass] (output : Text) : TlsWireResult :=
  let tls13 := tls13Handshake output
  { pqcConfirmed := tls13 && negotiatedPqcGroup output
    tls13 := tls13
    kexGroup := if tls13 then extractNegotiatedTlsGroup output else none
    cipher := if tls13 then extractNegotiatedCipher output else none }

def tlsWireStatus (result : TlsWireResult) (policy : TlsWirePolicy) : CheckStatus :=
  if result.pqcConfirmed then .ok
  else if policy = .warn then .warn
  else .fail

/-- `s[-count:]`. -/
def lastChars (count : Nat) (s : Text) : Text := s.drop (s.length - count)

/-- The `PqcConnectionError`s of `assert_pqc_hybrid_tls`, with the values that their
messages quote. -/
inductive HybridTlsError where
  | handshakeFailed (label shown : Text)
  | notHybrid (label expected group : Text) (cipher : Option Text)
deriving DecidableEq, Repr

def assertPqcHybridTls [WordClass] (output label : Text) : Except HybridTlsError TlsWireResult :=
  let result := parseTlsWireOutput output
  if result.pqcConfirmed then .ok result
  else if !result.tls13 then .error (.handshakeFailed label (lastChars 800 output))
  else .error (.notHybrid label LabContract.tlsPqcGroup (result.kexGroup.getD (text "unknown")) result.cipher)

/-- A group of the MLKEM family. -/
def NamesMlkem (group : Text) : Prop := contains (text "MLKEM") group = true

instance (group : Text) : Decidable (NamesMlkem group) :=
  inferInstanceAs (Decidable (contains (text "MLKEM") group = true))

/-- The transcript has a group line, and the group on it is another one. -/
def NegotiatesClassical (output group : Text) : Prop :=
  FirstWord groupLabel output group ∧ group ∉ noGroups ∧ ¬ NamesMlkem group

/-- A confirmed result carries no classical group, nor does one that is required to be
hybrid, and a transcript with a classical group on its group line is not reported as OK. -/
structure Coherent [WordClass] (output : Text) : Prop where
  group : (parseTlsWireOutput output).pqcConfirmed = true →
    ∀ group, (parseTlsWireOutput output).kexGroup = some group → NamesMlkem group
  hybrid : ∀ label result, assertPqcHybridTls output label = .ok result →
    ∀ group, result.kexGroup = some group → NamesMlkem group
  status : ∀ policy group, NegotiatesClassical output group →
    tlsWireStatus (parseTlsWireOutput output) policy ≠ .ok

/-- What confirms a PQC group, anywhere in the transcript. -/
inductive Confirms (output : Text) : Prop
  | mention (tls13 : contains (text "TLSv1.3") output = true)
      (group : contains LabContract.tlsPqcGroup output = true)
  | line (tls13 : contains (text "TLSv1.3") output = true) (before middle after : Text)
      (split : output = before ++ (groupLabel ++ (middle ++ (text "MLKEM" ++ after))))
      (oneLine : '\n' ∉ middle)

/-- What makes a group classical: the first group line, or the key without one. -/
inductive ShowsClassical [WordClass] (output : Text) : Prop
  | named (group : Text) (negotiates : NegotiatesClassical output group)
  | primeKey (unnamed : ∀ group, FirstWord groupLabel output group → group ∈ noGroups)
      (key : contains (text "Peer Temp Key: ECDH, prime256v1") output = true)
  | x25519Key (unnamed : ∀ group, FirstWord groupLabel output group → group ∈ noGroups)
      (key : Regex.found x25519Pattern output = true)

theorem negotiatedPqcGroup_iff {output : Text} (tls13 : contains (text "TLSv1.3") output = true) :
    negotiatedPqcGroup output = true ↔ Confirms output := by
  unfold negotiatedPqcGroup
  split
  · next mention => exact iff_of_true rfl (.mention tls13 mention)
  · next absent =>
      rw [mlkemLinePattern, found_marker_iff]
      constructor
      · rintro ⟨before, middle, after, split, all⟩
        refine .line tls13 before middle after split fun inside => ?_
        exact absurd (all '\n' inside) (by decide)
      · intro confirms
        cases confirms with
        | mention _ mention => exact absurd mention absent
        | line _ before middle after split oneLine =>
            refine ⟨before, middle, after, split, fun c inside => ?_⟩
            rw [bne_iff_ne]
            rintro rfl
            exact oneLine inside

theorem pqcConfirmed_iff [WordClass] {output : Text} :
    (parseTlsWireOutput output).pqcConfirmed = true ↔ Confirms output := by
  show (tls13Handshake output && negotiatedPqcGroup output) = true ↔ Confirms output
  rw [Bool.and_eq_true, tls13Handshake]
  constructor
  · rintro ⟨tls13, group⟩
    exact (negotiatedPqcGroup_iff tls13).mp group
  · intro confirms
    have tls13 : contains (text "TLSv1.3") output = true := by
      cases confirms with
      | mention tls13 => exact tls13
      | line tls13 => exact tls13
    exact ⟨tls13, (negotiatedPqcGroup_iff tls13).mpr confirms⟩

/-- A confirmed result carries the group that is read from the transcript. -/
theorem kexGroup_of_confirms [WordClass] {output : Text} (confirms : Confirms output) :
    (parseTlsWireOutput output).kexGroup = extractNegotiatedTlsGroup output := by
  have confirmed := pqcConfirmed_iff.mpr confirms
  have tls13 : tls13Handshake output = true := (Bool.and_eq_true _ _ ▸ confirmed).1
  show (if tls13Handshake output then extractNegotiatedTlsGroup output else none) = _
  rw [if_pos tls13]

/-- The first group line decides, unless its word stands for no group. -/
theorem extractNegotiatedTlsGroup_named [WordClass] {output group : Text}
    (first : FirstWord groupLabel output group)
    (real : group ∉ noGroups) : extractNegotiatedTlsGroup output = some group := by
  rw [extractNegotiatedTlsGroup, firstWord_iff.mpr first]
  simp [real]

theorem extractNegotiatedTlsGroup_unnamed [WordClass] {output : Text}
    (unnamed : ∀ group, FirstWord groupLabel output group → group ∈ noGroups) :
    extractNegotiatedTlsGroup output = temporaryGroup output := by
  unfold extractNegotiatedTlsGroup
  split
  · next group found =>
      simp [unnamed group (firstWord_iff.mp found)]
  · rfl

theorem temporaryGroup_classical [WordClass] {output group : Text}
    (found : temporaryGroup output = some group) :
    ¬ NamesMlkem group := by
  unfold temporaryGroup at found
  split at found
  · rw [← Option.some.inj found]
    decide
  · split at found
    · rw [← Option.some.inj found]
      decide
    · cases found

theorem assertPqcHybridTls_ok [WordClass] {output label : Text} {result : TlsWireResult} :
    assertPqcHybridTls output label = .ok result ↔
      (parseTlsWireOutput output).pqcConfirmed = true ∧ parseTlsWireOutput output = result := by
  unfold assertPqcHybridTls
  by_cases confirmed : (parseTlsWireOutput output).pqcConfirmed = true
  · simp [confirmed]
  · by_cases tls13 : (parseTlsWireOutput output).tls13 = true <;> simp [confirmed, tls13]

/-- A group without the family's name is read exactly from what shows a classical one. -/
theorem showsClassical_iff [WordClass] {output : Text} :
    ShowsClassical output ↔ ∃ group, extractNegotiatedTlsGroup output = some group ∧ ¬ NamesMlkem group := by
  by_cases named : ∃ group, FirstWord groupLabel output group ∧ group ∉ noGroups
  · obtain ⟨group, first, real⟩ := named
    have read := extractNegotiatedTlsGroup_named first real
    constructor
    · intro shows
      cases shows with
      | named other negotiates =>
          exact ⟨other, extractNegotiatedTlsGroup_named negotiates.1 negotiates.2.1, negotiates.2.2⟩
      | primeKey unnamed => exact absurd (unnamed group first) real
      | x25519Key unnamed => exact absurd (unnamed group first) real
    · rintro ⟨other, found, classical⟩
      have same : group = other := Option.some.inj (read.symm.trans found)
      exact .named group ⟨first, real, same ▸ classical⟩
  · have unnamed : ∀ group, FirstWord groupLabel output group → group ∈ noGroups := by
      intro group first
      by_contra real
      exact named ⟨group, first, real⟩
    rw [extractNegotiatedTlsGroup_unnamed unnamed]
    constructor
    · intro shows
      cases shows with
      | named group negotiates => exact absurd (unnamed group negotiates.1) negotiates.2.1
      | primeKey _ key => exact ⟨classicalProbeGroup, by rw [temporaryGroup, if_pos key], by decide⟩
      | x25519Key _ key =>
          have found : ∃ group, temporaryGroup output = some group := by
            rw [temporaryGroup, if_pos key]
            split <;> exact ⟨_, rfl⟩
          obtain ⟨group, found⟩ := found
          exact ⟨group, found, temporaryGroup_classical found⟩
    · rintro ⟨group, found, -⟩
      unfold temporaryGroup at found
      split at found
      · next key => exact .primeKey unnamed key
      · split at found
        · next key => exact .x25519Key unnamed key
        · cases found

/-- A transcript is judged coherently exactly when it does not both confirm a PQC group
somewhere and show a classical one. -/
theorem coherent_iff [WordClass] (output : Text) :
    Coherent output ↔ ¬ (Confirms output ∧ ShowsClassical output) := by
  constructor
  · rintro coherent ⟨confirms, shows⟩
    obtain ⟨group, found, classical⟩ := showsClassical_iff.mp shows
    have carried := (kexGroup_of_confirms confirms).trans found
    exact classical (coherent.group (pqcConfirmed_iff.mpr confirms) group carried)
  · intro apart
    have group (confirms : Confirms output) (group : Text)
        (carried : (parseTlsWireOutput output).kexGroup = some group) : NamesMlkem group := by
      by_contra classical
      rw [kexGroup_of_confirms confirms] at carried
      exact apart ⟨confirms, showsClassical_iff.mpr ⟨group, carried, classical⟩⟩
    refine ⟨fun confirmed => group (pqcConfirmed_iff.mp confirmed), fun label result accepted => ?_,
      fun policy named negotiates ok => ?_⟩
    · obtain ⟨confirmed, rfl⟩ := assertPqcHybridTls_ok.mp accepted
      exact group (pqcConfirmed_iff.mp confirmed)
    have confirmed : (parseTlsWireOutput output).pqcConfirmed = true := by
      by_contra refused
      rw [tlsWireStatus, if_neg refused] at ok
      split at ok <;> cases ok
    exact apart ⟨pqcConfirmed_iff.mp confirmed, .named named negotiates⟩

attribute [local instance] asciiWords

/-- The offered groups mention the hybrid one, and a classical group is negotiated. -/
theorem not_coherent_offered :
    ¬ Coherent (text "Protocol version: TLSv1.3\nGroups: X25519MLKEM768:secp256r1\nNegotiated TLS1.3 group: secp256r1\n") := by
  intro coherent
  have named := coherent.group (by decide +kernel) (text "secp256r1") (by decide +kernel)
  exact absurd named (by decide)

end QuantumSafe.TlsWire
