import Mathlib.Data.List.TakeWhile
import Mathlib.Tactic.Push

set_option autoImplicit false

/- Stanzas of a configuration: the lines behind one that opens a stanza, up to the
first line that ends it. -/
namespace ConfigStanzas

variable {α : Type} (opens ends wanted : α → Bool)

def stanzas : List α → List (List α)
  | [] => []
  | line :: rest =>
      if opens line then (rest.takeWhile fun next => !ends next) :: stanzas rest else stanzas rest

/-- A stanza has such a line. -/
def Within (lines : List α) : Prop := ∃ stanza ∈ stanzas opens ends lines, ∃ line ∈ stanza, wanted line = true

/-- No such line follows one that opens a stanza without a line that ends it on the way. -/
def CutOff (lines : List α) : Prop :=
  ∀ before header between line after, lines = before ++ header :: (between ++ line :: after) →
    opens header = true → wanted line = true → ∃ stop ∈ between ++ [line], ends stop = true

variable {opens ends wanted}

theorem mem_stanzas_iff {lines stanza : List α} :
    stanza ∈ stanzas opens ends lines ↔ ∃ before header rest, lines = before ++ header :: rest ∧
      opens header = true ∧ stanza = rest.takeWhile fun next => !ends next := by
  induction lines with
  | nil =>
      constructor
      · intro member
        cases member
      · rintro ⟨before, header, rest, split, -⟩
        exact absurd split.symm (List.append_ne_nil_of_right_ne_nil before (List.cons_ne_nil header rest))
  | cons line lines ih =>
      have step : stanza ∈ stanzas opens ends (line :: lines) ↔
          (opens line = true ∧ stanza = lines.takeWhile fun next => !ends next) ∨
            stanza ∈ stanzas opens ends lines := by
        rw [stanzas]
        split
        · rename_i opened
          rw [List.mem_cons, and_iff_right opened]
        · rename_i closed
          rw [or_iff_right fun both => closed both.1]
      rw [step, ih]
      constructor
      · rintro (⟨opened, rfl⟩ | ⟨before, header, rest, rfl, opened, rfl⟩)
        · exact ⟨[], line, lines, rfl, opened, rfl⟩
        · exact ⟨line :: before, header, rest, rfl, opened, rfl⟩
      · rintro ⟨before, header, rest, split, opened, rfl⟩
        cases before with
        | nil =>
            have ⟨same, later⟩ := List.cons.inj split
            rw [same, later]
            exact Or.inl ⟨opened, rfl⟩
        | cons first before =>
            exact Or.inr ⟨before, header, rest, (List.cons.inj split).2, opened, rfl⟩

theorem exists_mem_takeWhile_iff {lines : List α} :
    (∃ line ∈ lines.takeWhile (fun next => !ends next), wanted line = true) ↔
      ∃ between line after, lines = between ++ line :: after ∧ wanted line = true ∧
        ∀ stop ∈ between ++ [line], ends stop = false := by
  constructor
  · rintro ⟨line, member, found⟩
    have ⟨between, kept, split⟩ := List.append_of_mem member
    have whole := List.takeWhile_append_dropWhile (p := fun next => !ends next) (l := lines)
    refine ⟨between, line, kept ++ lines.dropWhile fun next => !ends next, ?_, found, ?_⟩
    · rw [← List.cons_append, ← List.append_assoc, ← split, whole]
    · intro stop inside
      have taken : stop ∈ lines.takeWhile fun next => !ends next := by
        rw [split, ← List.singleton_append, ← List.append_assoc]
        exact List.mem_append_left kept inside
      have passes := List.mem_takeWhile_imp taken
      simpa using passes
  · rintro ⟨between, line, after, rfl, found, goesOn⟩
    refine ⟨line, ?_, found⟩
    have unended (next : α) (inside : next ∈ between ++ [line]) : (!ends next) = true := by
      rw [goesOn next inside]
      rfl
    rw [← List.singleton_append, ← List.append_assoc, List.takeWhile_append_of_pos unended]
    exact List.mem_append_left _ (List.mem_append_right between List.mem_cons_self)

theorem within_iff {lines : List α} : Within opens ends wanted lines ↔ ¬ CutOff opens ends wanted lines := by
  constructor
  · rintro ⟨stanza, member, found⟩ cutOff
    have ⟨before, header, rest, split, opened, body⟩ := mem_stanzas_iff.mp member
    rw [body] at found
    have ⟨between, line, after, restSplit, isWanted, goesOn⟩ := exists_mem_takeWhile_iff.mp found
    rw [restSplit] at split
    have ⟨stop, inside, stops⟩ := cutOff before header between line after split opened isWanted
    rw [goesOn stop inside] at stops
    cases stops
  · intro reached
    rw [CutOff] at reached
    push Not at reached
    have ⟨before, header, between, line, after, split, opened, isWanted, goesOn⟩ := reached
    refine ⟨_, mem_stanzas_iff.mpr ⟨before, header, _, split, opened, rfl⟩, ?_⟩
    refine exists_mem_takeWhile_iff.mpr ⟨between, line, after, rfl, isWanted, fun stop inside => ?_⟩
    exact Bool.eq_false_iff.mpr (goesOn stop inside)

end ConfigStanzas
