import QuantumSafe.KeyGroups
import QuantumSafe.SshPolicy

set_option autoImplicit false

/- The TLS versions of the ssl profiles: the test on the whole configuration, and what
the stanzas permit. -/
namespace QuantumSafe.CeosContract

open PyText PyRegex SymbolicText

def tlsVersionMessage : FString := lit "must restrict ssl profile to TLS 1.3"

def tlsVersionCheck : Check := wants (lit "tls versions 1.3") tlsVersionMessage

/-- The versions that a `tls versions` line permits. -/
def permittedVersions (line : Text) : List Text :=
  match lineWords line with
  | first :: second :: versions => if first = text "tls" ∧ second = text "versions" then versions else []
  | _ => []

def isTls13Line (line : Text) : Bool := strip line == text "tls versions 1.3"

/-- The stanza has the line `tls versions 1.3`, and no line of it permits another version. -/
structure RestrictedToTls13 (lines : List Text) : Prop where
  stated : ∃ line ∈ lines, isTls13Line line = true
  only : ∀ line ∈ lines, ∀ version ∈ permittedVersions line, version = text "1.3"

/-- Without the error about the TLS version, every ssl profile is restricted to TLS 1.3. -/
def EnforcesTls13 (values : MgmtValues) (ceos : Ceos) (config : Text) : Prop :=
  .broken ceos (fill values tlsVersionMessage) ∉ configErrors values ceos config →
    ∀ profile ∈ configuredProfiles config, RestrictedToTls13 profile.lines

/-- How a stanza escapes the test on the whole configuration. -/
inductive Unrestricted (lines : List Text) : Prop where
  /-- The words that the test finds stand in another stanza or in a longer line. -/
  | borrowed (none : ∀ line ∈ lines, isTls13Line line = false)
  /-- A line permits an older version, besides or behind TLS 1.3. -/
  | widened (line version : Text) (inside : line ∈ lines)
      (permitted : version ∈ permittedVersions line) (other : version ≠ text "1.3")

theorem tlsVersionCheck_only (ceos : Ceos) :
    (checks ceos).filter (Check.mayRaise tlsVersionMessage) = [tlsVersionCheck] := by
  cases ceos <;> rfl

/-- The error is missing exactly where the words stand somewhere in the configuration. -/
theorem notMem_tlsVersion_iff (values : MgmtValues) (ceos : Ceos) (config : Text) :
    .broken ceos (fill values tlsVersionMessage) ∉ configErrors values ceos config ↔
      contains (text "tls versions 1.3") config = true := by
  have appended : .broken ceos (fill values tlsVersionMessage) ∈ configErrors values ceos config ↔
      tlsVersionCheck.errors values ceos config ≠ [] := mem_configErrors_iff rfl (tlsVersionCheck_only ceos)
  rw [appended, not_not]
  exact @wants_errors_eq_nil values ceos config (text "tls versions 1.3") tlsVersionMessage

theorem restrictedToTls13_iff (lines : List Text) : RestrictedToTls13 lines ↔ ¬ Unrestricted lines := by
  constructor
  · intro restricted unrestricted
    cases unrestricted with
    | borrowed none =>
        obtain ⟨line, inside, stated⟩ := restricted.stated
        rw [none line inside] at stated
        cases stated
    | widened line version inside permitted other =>
        exact other (restricted.only line inside version permitted)
  · intro kept
    constructor
    · by_contra none
      refine kept (.borrowed fun line inside => ?_)
      by_contra stated
      exact none ⟨line, inside, by simpa using stated⟩
    · intro line inside version permitted
      by_contra other
      exact kept (.widened line version inside permitted other)

/-- One line anywhere satisfies the test for all profiles: the test enforces what its message
says exactly where it fails, or where no stanza relies on another one. -/
theorem enforcesTls13_iff (values : MgmtValues) (ceos : Ceos) (config : Text) :
    EnforcesTls13 values ceos config ↔
      contains (text "tls versions 1.3") config = false ∨
        ∀ profile ∈ configuredProfiles config, ¬ Unrestricted profile.lines := by
  simp only [EnforcesTls13, notMem_tlsVersion_iff, restrictedToTls13_iff]
  rw [← Bool.not_eq_true, or_iff_not_imp_left, not_not]

def borrowedVersion : Text :=
  text "management security\n   ssl profile EAPI\n      tls versions 1.3\n   !\n" ++
    text "   ssl profile GNMI\n      tls versions 1.0 1.1 1.2\n!\n"

/-- The second profile permits only versions before TLS 1.3. -/
theorem not_enforcesTls13_borrowed : ¬ EnforcesTls13 (fun _ => []) .ceos1Both borrowedVersion := by
  intro enforced
  have accepted : .broken .ceos1Both (fill (fun _ => []) tlsVersionMessage) ∉
      configErrors (fun _ => []) .ceos1Both borrowedVersion := by
    rw [notMem_tlsVersion_iff]
    decide +kernel
  have restricted := enforced accepted ⟨text "GNMI", [text "      tls versions 1.0 1.1 1.2"]⟩
    (by decide +kernel)
  obtain ⟨line, inside, stated⟩ := restricted.stated
  rw [List.mem_singleton.mp inside] at stated
  exact absurd stated (by decide +kernel)

end QuantumSafe.CeosContract
