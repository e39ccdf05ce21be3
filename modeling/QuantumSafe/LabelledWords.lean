import Mathlib.Data.Nat.Find
import QuantumSafe.PyRegex

set_option autoImplicit false

/- Patterns of the form `label\s*(\S+)`: the word behind the first label that has one. -/
namespace PyRegex

open PyText Regex

def labelled (label : Text) : Regex :=
  .seq (.literal label) (.seq (.many 0 isSpace) (.group 1 (.many 1 nonSpace)))

/-- The group of the first match. -/
def firstWord (label s : Text) : Option Text :=
  (search (labelled label) s).map fun finish => finish.group 1

/-- A text starts with the label, white space and a whole word. -/
def Names (label ahead word : Text) : Prop :=
  ∃ blank after, ahead = label ++ (blank ++ (word ++ after)) ∧ (∀ c ∈ blank, isSpace c = true) ∧
    word ≠ [] ∧ (∀ c ∈ word, nonSpace c = true) ∧ Stops nonSpace after

/-- Behind a given text stands the label with a word. -/
def WordAt (label s before word : Text) : Prop := ∃ ahead, s = before ++ ahead ∧ Names label ahead word

/-- The word behind the first label that has one. -/
def FirstWord (label s word : Text) : Prop :=
  ∃ before, WordAt label s before word ∧
    ∀ earlier other, WordAt label s earlier other → before.length ≤ earlier.length

theorem nonSpace_iff (c : Char) : nonSpace c = true ↔ isSpace c = false := by simp [nonSpace]

theorem runs_many_stops {accepts : Char → Bool} {ahead : Text} (stops : Stops accepts ahead)
    (passed : Text) (groups : List (Nat × Text)) : runs (.many 1 accepts) ⟨passed, ahead, groups⟩ = [] := by
  rw [runs, spans_stops stops]
  rfl

theorem runs_labelled {label ahead word : Text} (names : Names label ahead word) (passed : Text) :
    ∃ finish others, runs (labelled label) ⟨passed, ahead, []⟩ = finish :: others ∧
      finish.group 1 = word := by
  obtain ⟨blank, after, rfl, space, filled, visible, stops⟩ := names
  have enough : 1 ≤ word.length := List.length_pos_iff.mpr filled
  have begins : Stops isSpace (word ++ after) := by
    intro c head
    obtain ⟨d, rest, rfl⟩ := List.exists_cons_of_ne_nil filled
    cases head
    exact (nonSpace_iff c).mp (visible c List.mem_cons_self)
  obtain ⟨shorter, one, -⟩ := runs_many_head (blank.reverse ++ (label.reverse ++ passed)) word after []
    visible stops enough
  obtain ⟨shorter', gap, -⟩ := runs_many_head (label.reverse ++ passed) blank (word ++ after) [] space
    begins (Nat.zero_le _)
  have front := runs_literal_append label passed (blank ++ (word ++ after)) []
  have grouped := runs_group 1 (.many 1 nonSpace) ⟨blank.reverse ++ (label.reverse ++ passed), word ++ after, []⟩
  rw [one, List.map_cons, between_append] at grouped
  obtain ⟨rest, inner⟩ := runs_seq_first gap grouped
  obtain ⟨rest', whole⟩ := runs_seq_first front inner
  exact ⟨_, rest', whole, rfl⟩

/-- Where nothing is named the pattern does not run. -/
theorem runs_labelled_nil {label ahead : Text} (none : ∀ word, ¬ Names label ahead word) (passed : Text) :
    runs (labelled label) ⟨passed, ahead, []⟩ = [] := by
  rw [labelled, runs_seq]
  by_cases starts : label <+: ahead
  · obtain ⟨rest, rfl⟩ := starts
    have space : ∀ c ∈ rest.takeWhile isSpace, isSpace c = true := fun c => List.mem_takeWhile_imp
    have split : rest.takeWhile isSpace ++ rest.dropWhile isSpace = rest := List.takeWhile_append_dropWhile
    have nothing : rest.dropWhile isSpace = [] := by
      by_contra filled
      obtain ⟨c, tail, more⟩ := List.exists_cons_of_ne_nil filled
      have visible : nonSpace c = true := by
        have head := List.head?_dropWhile_not isSpace rest
        rw [more] at head
        simpa [nonSpace] using head
      refine none ((c :: tail).takeWhile nonSpace)
        ⟨rest.takeWhile isSpace, (c :: tail).dropWhile nonSpace, ?_, space, ?_, ?_, ?_⟩
      · rw [List.takeWhile_append_dropWhile, ← more, split]
      · simp [visible]
      · exact fun d => List.mem_takeWhile_imp
      · intro d head
        have outside := List.head?_dropWhile_not nonSpace (c :: tail)
        rw [head] at outside
        simpa using outside
    rw [nothing] at split
    rw [runs_literal_append, List.flatMap_singleton, ← split]
    refine runs_many_then_nil _ _ [] [] space (by simp [Stops]) fun before after whole => ?_
    have stops : Stops nonSpace (after ++ []) := by
      intro c head
      rw [List.append_nil] at head
      have member : c ∈ rest.takeWhile isSpace := by
        rw [whole]
        exact List.mem_append_right before (List.mem_of_head? head)
      simp [nonSpace, space c member]
    rw [runs_group, runs_many_stops stops]
    rfl
  · rw [runs_literal, if_neg (by rwa [List.isPrefixOf_iff_prefix])]
    rfl

theorem search_labelled_first {label s before word : Text} (here : WordAt label s before word)
    (first : ∀ earlier other, WordAt label s earlier other → before.length ≤ earlier.length) :
    firstWord label s = some word := by
  obtain ⟨ahead, rfl, names⟩ := here
  obtain ⟨finish, others, run, group⟩ := runs_labelled names (before.reverse ++ [])
  have passed := searchFrom_passed (labelled label) [] before ahead fun front back split filled => by
    refine runs_labelled_nil (fun other names' => ?_) _
    have sooner := first front other ⟨back ++ ahead, by rw [split, List.append_assoc], names'⟩
    rw [split, List.length_append] at sooner
    have longer := List.length_pos_iff.mpr filled
    omega
  rw [firstWord, search, passed, searchFrom_here run, Option.map_some, group]

theorem exists_firstWord {label s : Text} (some : ∃ before word, WordAt label s before word) :
    ∃ word, FirstWord label s word := by
  classical
  have lengths : ∃ n, ∃ before word, before.length = n ∧ WordAt label s before word := by
    obtain ⟨before, word, here⟩ := some
    exact ⟨before.length, before, word, rfl, here⟩
  obtain ⟨before, word, length, here⟩ := Nat.find_spec lengths
  refine ⟨word, before, here, fun earlier other there => ?_⟩
  rw [length]
  exact Nat.find_min' lengths ⟨earlier, other, rfl, there⟩

theorem firstWord_none {label s : Text} (none : ∀ before word, ¬ WordAt label s before word) :
    firstWord label s = Option.none := by
  rw [firstWord, Option.map_eq_none_iff, ← Option.not_isSome_iff_eq_none]
  intro found
  obtain ⟨before, after, rfl, run⟩ := (found_iff (labelled label) s).mp found
  exact run (runs_labelled_nil (fun word names => none before word ⟨after, rfl, names⟩) _)

theorem firstWord_iff {label s word : Text} : firstWord label s = some word ↔ FirstWord label s word := by
  constructor
  · intro found
    have some : ∃ before word, WordAt label s before word := by
      by_contra none
      have nothing := firstWord_none fun before word here => none ⟨before, word, here⟩
      rw [nothing] at found
      cases found
    obtain ⟨other, before, here, first⟩ := exists_firstWord some
    have same : word = other := Option.some.inj (found.symm.trans (search_labelled_first here first))
    exact same ▸ ⟨before, here, first⟩
  · rintro ⟨before, here, first⟩
    exact search_labelled_first here first

theorem firstWord_unique {label s first second : Text} (one : FirstWord label s first)
    (other : FirstWord label s second) : first = second :=
  Option.some.inj ((firstWord_iff.mpr one).symm.trans (firstWord_iff.mpr other))

section Marker

theorem of_mem_spans {accepts : Char → Bool} {groups : List (Nat × Text)} {passed ahead : Text}
    {cursor : Cursor} (member : cursor ∈ spans accepts groups passed ahead) :
    ∃ inside rest, ahead = inside ++ rest ∧ (∀ c ∈ inside, accepts c = true) ∧
      cursor = ⟨inside.reverse ++ passed, rest, groups⟩ := by
  induction ahead generalizing passed with
  | nil => exact ⟨[], [], rfl, by simp, List.mem_singleton.mp member⟩
  | cons c rest ih =>
      rcases List.mem_cons.mp member with here | later
      · exact ⟨[], c :: rest, rfl, by simp, here⟩
      · by_cases accepted : accepts c = true
        · rw [if_pos accepted] at later
          obtain ⟨inside, behind, split, all, same⟩ := ih later
          refine ⟨c :: inside, behind, by rw [split, List.cons_append], ?_, by simpa using same⟩
          exact List.forall_mem_cons.mpr ⟨accepted, all⟩
        · rw [if_neg accepted] at later
          cases later

/-- A marker behind a label, with only characters of a class in between. -/
theorem found_marker_iff {label marker s : Text} {accepts : Char → Bool} :
    found (.seq (.literal label) (.seq (.many 0 accepts) (.literal marker))) s = true ↔
      ∃ before middle after, s = before ++ (label ++ (middle ++ (marker ++ after))) ∧
        ∀ c ∈ middle, accepts c = true := by
  constructor
  · intro finds
    obtain ⟨before, ahead, rfl, run⟩ := (found_iff _ s).mp finds
    obtain ⟨finish, member⟩ := List.exists_mem_of_ne_nil _ run
    obtain ⟨first, atLabel, behind⟩ := List.mem_flatMap.mp member
    obtain ⟨second, atGap, atMarker⟩ := List.mem_flatMap.mp behind
    rw [runs_literal] at atLabel
    split at atLabel
    · next starts =>
        obtain ⟨rest, rfl⟩ := List.isPrefixOf_iff_prefix.mp starts
        rw [List.drop_left] at atLabel
        rw [List.mem_singleton.mp atLabel] at atGap
        obtain ⟨middle, tail, rfl, all, rfl⟩ := of_mem_spans (List.mem_of_mem_drop (List.mem_reverse.mp atGap))
        rw [runs_literal] at atMarker
        split at atMarker
        · next marked =>
            obtain ⟨after, rfl⟩ := List.isPrefixOf_iff_prefix.mp marked
            exact ⟨before, middle, after, rfl, all⟩
        · cases atMarker
    · cases atLabel
  · rintro ⟨before, middle, after, rfl, all⟩
    have gap := mem_runs_many (label.reverse ++ before.reverse) middle (marker ++ after) [] all (Nat.zero_le _)
    have last := mem_runs_literal marker (middle.reverse ++ (label.reverse ++ before.reverse)) after []
    have first := mem_runs_literal label before.reverse (middle ++ (marker ++ after)) []
    exact found_of_mem (mem_runs_seq first (mem_runs_seq gap last))

end Marker

end PyRegex
