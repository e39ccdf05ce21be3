import QuantumSafe.CeosChecks
import QuantumSafe.CeosStanzas
import QuantumSafe.RegexStanzas

set_option autoImplicit false

/- The key-establishment groups of the ssl profiles: what the loop over the parts that its
pattern finds accepts, and what the stanzas of the configuration list. -/
namespace QuantumSafe.CeosContract

open PyText PyRegex

def profileHeader : Text := text "   ssl profile "

/-- The parts that the loop visits: behind the first `management security` of the text up to
`"\n!"`, from each line that starts with the pattern's own header to the next one. -/
def profiles (config : Text) : List Stanza :=
  stanzas profileHeader ((security config).splitOn '\n')

def groupKeyword : Text := text "key-establishment-group"

/-- The value of a `key-establishment-group` line. -/
def groupValue (line : Text) : Option Text :=
  let words := strip line
  let rest := words.drop groupKeyword.length
  if startswith words groupKeyword && rest.head?.all isSpace then some (strip rest) else none

/-- The values of the `key-establishment-group` lines of a stanza. -/
def listedGroups (lines : List Text) : List Text := lines.filterMap groupValue

/-- Without an error about groups, every ssl profile of the configuration but SYSLOG lists
X25519MLKEM768, on one line, and nothing else. -/
def EnforcesPqcOnly (ceos : Ceos) (config : Text) : Prop :=
  keyGroupErrors ceos config = [] → ∀ profile ∈ configuredProfiles config,
    profile.name ≠ syslogSslProfile → listedGroups profile.lines = [tlsPqcEosGroups]

/-- The tests of the loop refuse a part. -/
def Refused (stanza : Stanza) : Prop :=
  if stanza.name = syslogSslProfile then
    contains (text "key-establishment-group " ++ syslogTlsPqcSafeEosGroups) (unlines stanza.body) = false
  else
    contains (text "key-establishment-group " ++ tlsPqcEosGroups) (unlines stanza.body) = false ∨
      Regex.found classicalGroupPattern (unlines stanza.body) = true

/-- The ways in which a stanza lists something else. -/
inductive Loose (lines : List Text) : Prop where
  /-- A value goes on after X25519MLKEM768. -/
  | continued (value : Text) (listed : value ∈ listedGroups lines)
      (starts : tlsPqcEosGroups <+: value) (longer : value ≠ tlsPqcEosGroups)
  /-- There is more than one group line. -/
  | repeated (more : 2 ≤ (listedGroups lines).length)
  /-- No group line starts its value with X25519MLKEM768: the words that the tests look for
  stand in another line, or the loop does not visit these lines at all. -/
  | elsewhere (none : ∀ value ∈ listedGroups lines, ¬ tlsPqcEosGroups <+: value)

theorem notMem_security (config : Text) : ∀ line ∈ (security config).splitOn '\n', '\n' ∉ line :=
  notMem_splitOn '\n' (security config)

/-- The scan of the section visits its stanzas. -/
theorem keyGroupErrors_eq (ceos : Ceos) (config : Text) :
    keyGroupErrors ceos config =
      (profiles config).flatMap fun stanza => profileErrors ceos stanza.name (unlines stanza.body) := by
  have oneLine : '\n' ∉ profileHeader := by decide
  have filled : profileHeader ≠ [] := by decide
  have scanned := findall_stanzas oneLine filled (notMem_security config)
  rw [unlines_splitOn] at scanned
  have visited := congrArg (List.flatMap fun entry => profileErrors ceos entry.1 entry.2) scanned
  rw [List.flatMap_map, List.flatMap_map] at visited
  exact visited

theorem profileErrors_eq_nil (ceos : Ceos) (stanza : Stanza) :
    profileErrors ceos stanza.name (unlines stanza.body) = [] ↔ ¬ Refused stanza := by
  unfold profileErrors Refused
  split
  · simp
  · simp

theorem keyGroupErrors_eq_nil (ceos : Ceos) (config : Text) :
    keyGroupErrors ceos config = [] ↔ ∀ stanza ∈ profiles config, ¬ Refused stanza := by
  simp only [keyGroupErrors_eq, List.flatMap_eq_nil_iff, profileErrors_eq_nil]

theorem listedGroups_eq_iff (lines : List Text) :
    listedGroups lines = [tlsPqcEosGroups] ↔ ¬ Loose lines := by
  constructor
  · intro exact_ loose
    cases loose with
    | continued value listed starts longer =>
        rw [exact_] at listed
        exact longer (List.mem_singleton.mp listed)
    | repeated more =>
        rw [exact_] at more
        exact absurd more (by decide)
    | elsewhere none =>
        rw [exact_] at none
        exact none _ (by simp) (List.prefix_refl _)
  · intro strict
    have starting : ∃ value ∈ listedGroups lines, tlsPqcEosGroups <+: value := by
      by_contra none
      exact strict (.elsewhere fun value listed starts => none ⟨value, listed, starts⟩)
    obtain ⟨value, listed, starts⟩ := starting
    have same : value = tlsPqcEosGroups := by
      by_contra longer
      exact strict (.continued value listed starts longer)
    have single : ¬ 2 ≤ (listedGroups lines).length := fun more => strict (.repeated more)
    obtain ⟨first, rest, split⟩ := List.exists_cons_of_ne_nil (List.ne_nil_of_mem listed)
    have alone : rest = [] := by
      cases rest with
      | nil => rfl
      | cons second rest => simp [split] at single
    rw [split, alone, List.mem_singleton] at listed
    rw [split, alone, ← listed, same]

/-- The loop enforces what its message says exactly when it refuses some part of the text, or
no ssl profile of the configuration but SYSLOG is loose. -/
theorem enforcesPqcOnly_iff (ceos : Ceos) (config : Text) :
    EnforcesPqcOnly ceos config ↔
      (∃ stanza ∈ profiles config, Refused stanza) ∨
        ∀ profile ∈ configuredProfiles config, profile.name ≠ syslogSslProfile → ¬ Loose profile.lines := by
  unfold EnforcesPqcOnly
  simp only [keyGroupErrors_eq_nil, listedGroups_eq_iff]
  by_cases refused : ∃ stanza ∈ profiles config, Refused stanza
  · constructor
    · intro _
      exact Or.inl refused
    · intro _ accepted
      obtain ⟨stanza, member, refuses⟩ := refused
      exact absurd refuses (accepted stanza member)
  · constructor
    · intro enforced
      exact Or.inr (enforced fun stanza member refuses => refused ⟨stanza, member, refuses⟩)
    · intro strict _
      exact strict.resolve_left refused

def secondGroup : Text :=
  text "management security\n   ssl profile EAPI\n      key-establishment-group X25519MLKEM768:MLKEM1024\n!\n"

/-- A second group after the first one is not noticed. -/
theorem not_enforcesPqcOnly_secondGroup : ¬ EnforcesPqcOnly .ceos1Both secondGroup := by
  intro enforced
  have accepted : keyGroupErrors .ceos1Both secondGroup = [] := by decide +kernel
  have listed := enforced accepted
    ⟨text "EAPI", [text "      key-establishment-group X25519MLKEM768:MLKEM1024"]⟩
    (by decide +kernel) (by decide)
  exact absurd listed (by decide +kernel)

/-- A comment that names the section hides it from the loop. -/
example : keyGroupErrors .ceos1Both (text "! management security\n!\nmanagement security\n" ++
    text "   ssl profile EAPI\n      key-establishment-group secp256r1\n!\n") = [] := by decide +kernel

end QuantumSafe.CeosContract
