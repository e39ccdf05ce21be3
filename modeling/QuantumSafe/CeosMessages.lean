import QuantumSafe.CeosChecks

set_option autoImplicit false

/- Which check of `validate_ceos_configs` an error comes from. -/
namespace QuantumSafe.CeosContract

open PyText PyRegex SymbolicText

/-- The f-strings differ, whatever the values are. -/
def differs : FString → FString → Bool
  | .char c :: first, .char d :: second => c != d || differs first second
  | .char _ :: _, [] => true
  | [], .char _ :: _ => true
  | .slot name :: first, .slot other :: second => name == other && differs first second
  | _, _ => false

theorem differs_sound {first second : FString} (values : MgmtValues) (differ : differs first second = true) :
    fill values first ≠ fill values second := by
  fun_induction differs first second with
  | case1 c first d second ih =>
      intro same
      rw [fill_char, fill_char] at same
      have ⟨head, tail⟩ := List.cons.inj same
      rw [head, bne_self_eq_false, Bool.false_or] at differ
      exact ih differ tail
  | case2 c first => exact List.cons_ne_nil _ _
  | case3 d second => exact (List.cons_ne_nil _ _).symm
  | case4 name first other second ih =>
      rw [Bool.and_eq_true, beq_iff_eq] at differ
      rw [differ.1, fill_slot, fill_slot]
      exact fun same => ih differ.2 (List.append_cancel_left same)
  | case5 => cases differ

/-- The message of a check with one error. -/
def Check.message : Check → Option FString
  | .rule needed => some needed.message
  | .found _ message => some message
  | .keyGroups => none
  | .cleartext => none

/-- The check may append an error with this message. The messages of the key groups
start with `ssl profile` or `SYSLOG ssl profile`. -/
def Check.mayRaise (message : FString) : Check → Bool
  | .rule needed => !differs needed.message message
  | .found _ other => !differs other message
  | .keyGroups =>
      match message with
      | .char c :: _ => c == 's' || c == 'S'
      | _ => true
  | .cleartext => false

section

variable {values : MgmtValues} {ceos : Ceos} {config : Text} {check : Check} {message : FString}

theorem Rule.mem_errors {needed : Rule} {violation : Violation}
    (member : violation ∈ needed.errors values ceos config) :
    violation = .broken ceos (fill values needed.message) := by
  rw [Rule.errors] at member
  split at member
  · cases member
  · exact List.mem_singleton.mp member

theorem mem_profileErrors {profileName block : Text} {violation : Violation}
    (member : violation ∈ profileErrors ceos profileName block) :
    ∃ rest, violation = .broken ceos ('s' :: rest) ∨ violation = .broken ceos ('S' :: rest) := by
  rw [profileErrors] at member
  split at member
  · split at member
    · cases member
    · exact ⟨_, Or.inr (List.mem_singleton.mp member)⟩
  · rcases List.mem_append.mp member with missing | classical
    · split at missing
      · cases missing
      · exact ⟨_, Or.inl (List.mem_singleton.mp missing)⟩
    · split at classical
      · exact ⟨_, Or.inl (List.mem_singleton.mp classical)⟩
      · cases classical

theorem mayRaise_of_mem
    (member : .broken ceos (fill values message) ∈ check.errors values ceos config) :
    check.mayRaise message = true := by
  have undecided {other : FString} (same : fill values message = fill values other) :
      (!differs other message) = true := by
    by_contra differ
    rw [Bool.not_eq_true, Bool.not_eq_false'] at differ
    exact differs_sound values differ same.symm
  cases check with
  | rule needed =>
      have same := Rule.mem_errors member
      exact undecided (Violation.broken.inj same).2
  | found pattern other =>
      rw [Check.errors] at member
      split at member
      · cases member
      · exact undecided (Violation.broken.inj (List.mem_singleton.mp member)).2
  | keyGroups =>
      obtain ⟨profile, -, inProfile⟩ := List.mem_flatMap.mp member
      obtain ⟨rest, starts⟩ := mem_profileErrors inProfile
      cases message with
      | nil => rfl
      | cons symbol message =>
          cases symbol with
          | char c =>
              have first : c = 's' ∨ c = 'S' := starts.imp
                (fun same => (List.cons.inj (Violation.broken.inj same).2).1)
                (fun same => (List.cons.inj (Violation.broken.inj same).2).1)
              rcases first with rfl | rfl <;> rfl
          | slot name => rfl
  | cleartext =>
      rw [Check.errors, cleartextErrors] at member
      split at member
      · cases List.mem_singleton.mp member
      · cases member

theorem mem_errors_iff (named : check.message = some message) :
    .broken ceos (fill values message) ∈ check.errors values ceos config ↔
      check.errors values ceos config ≠ [] := by
  have alone : check.errors values ceos config ≠ [] →
      .broken ceos (fill values message) ∈ check.errors values ceos config := by
    intro some
    cases check with
    | rule needed =>
        cases named
        rw [Check.errors, Rule.errors] at some ⊢
        split at some
        · exact absurd rfl some
        · rename_i refused
          rw [if_neg refused]
          exact List.mem_singleton.mpr rfl
    | found pattern message =>
        cases named
        rw [Check.errors] at some ⊢
        split at some
        · exact absurd rfl some
        · rename_i refused
          rw [if_neg refused]
          exact List.mem_singleton.mpr rfl
    | keyGroups => cases named
    | cleartext => cases named
  exact ⟨List.ne_nil_of_mem, alone⟩

/-- An error whose message belongs to one check is appended exactly when that check
finds something. -/
theorem mem_configErrors_iff (named : check.message = some message)
    (only : (checks ceos).filter (Check.mayRaise message) = [check]) :
    .broken ceos (fill values message) ∈ configErrors values ceos config ↔
      check.errors values ceos config ≠ [] := by
  have own : check ∈ checks ceos := by
    have kept : check ∈ (checks ceos).filter (Check.mayRaise message) := by
      rw [only]
      exact List.mem_singleton.mpr rfl
    exact List.mem_of_mem_filter kept
  rw [← mem_errors_iff named, configErrors, List.mem_flatMap]
  constructor
  · rintro ⟨other, member, appended⟩
    have kept := List.mem_filter.mpr ⟨member, mayRaise_of_mem appended⟩
    rw [only, List.mem_singleton] at kept
    exact kept ▸ appended
  · exact fun appended => ⟨check, own, appended⟩

end

end QuantumSafe.CeosContract
