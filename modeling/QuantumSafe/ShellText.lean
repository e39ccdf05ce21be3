import QuantumSafe.TextLines

set_option autoImplicit false

/- Texts as a POSIX shell reads them: command substitution, field splitting with the
default `IFS`, and the filters that a script pipes them through. -/
namespace ShellText

open PyText

/-- The characters of the default `IFS`. -/
def isBlank (c : Char) : Bool := c == ' ' || c == '\t' || c == '\n'

/-- What `echo "$argument"` prints, without the final line feed. An argument that is an
option of `echo` is not printed. -/
def echo (argument : Text) : Text :=
  match argument with
  | '-' :: first :: rest => if (first :: rest).all (fun c => c == 'n' || c == 'e' || c == 'E') then [] else argument
  | _ => argument

/-- `tr from to` with one character each. -/
def tr (source target : Char) (s : Text) : Text := s.map fun c => if c = source then target else c

/-- `tr -d c`. -/
def trDelete (deleted : Char) (s : Text) : Text := s.filter (· != deleted)

/-- The words of an unquoted `$(...)`. -/
def fields (s : Text) : List Text := (s.splitOnP isBlank).filter fun field => !field.isEmpty

/-- A text without the blanks around it. -/
def trim (s : Text) : Text := (s.dropWhile isBlank).rdropWhile isBlank

/-- The entries of a list that is separated by commas. -/
def listed (s : Text) : List Text := ((s.splitOn ',').map trim).filter fun entry => !entry.isEmpty

/-- No blank stands in the text. -/
def Solid (s : Text) : Prop := ∀ c ∈ s, isBlank c = false

theorem solid_of_all {s : Text} (all : (s.all fun c => !isBlank c) = true) : Solid s := by
  intro c inside
  simpa using List.all_eq_true.mp all c inside

@[simp] theorem fields_nil : fields [] = [] := rfl

theorem fields_append_cons {blank : Char} (isSep : isBlank blank = true) (before after : Text) :
    fields (before ++ blank :: after) = fields before ++ fields after := by
  rw [fields, List.splitOnP_append_cons _ _ isSep, List.filter_append, fields, fields]

theorem fields_cons {blank : Char} (isSep : isBlank blank = true) (s : Text) :
    fields (blank :: s) = fields s := fields_append_cons isSep [] s

theorem fields_concat {blank : Char} (isSep : isBlank blank = true) (s : Text) :
    fields (s ++ [blank]) = fields s := by
  rw [fields_append_cons isSep, fields_nil, List.append_nil]

theorem fields_solid {s : Text} (solid : Solid s) (filled : s ≠ []) : fields s = [s] := by
  have shown : (!s.isEmpty) = true := by simpa using filled
  rw [fields, List.splitOnP_eq_singleton solid]
  exact List.filter_cons_of_pos (p := fun field : Text => !field.isEmpty) shown

/-- The first word of a text goes on to the first blank. -/
theorem fields_front {front : Text} (solid : Solid front) (filled : front ≠ []) (rest : Text) :
    ∃ others, fields (front ++ rest) = (front ++ rest.takeWhile fun c => !isBlank c) :: others := by
  have ahead : Solid (front ++ rest.takeWhile fun c => !isBlank c) := by
    intro c member
    rcases List.mem_append.mp member with inFront | inRest
    · exact solid c inFront
    · simpa using List.mem_takeWhile_imp inRest
  have shown : (front ++ rest.takeWhile fun c => !isBlank c) ≠ [] := by simp [filled]
  have whole : rest = rest.takeWhile (fun c => !isBlank c) ++ rest.dropWhile fun c => !isBlank c :=
    List.takeWhile_append_dropWhile.symm
  cases later : rest.dropWhile fun c => !isBlank c with
  | nil =>
      refine ⟨[], ?_⟩
      rw [← fields_solid ahead shown]
      rw [later, List.append_nil] at whole
      rw [← whole]
  | cons blank after =>
      have isSep : isBlank blank = true := by
        have stopped := List.head?_dropWhile_not (fun c => !isBlank c) rest
        rw [later] at stopped
        simpa using stopped
      refine ⟨fields after, ?_⟩
      conv => lhs; rw [whole, later, ← List.append_assoc]
      rw [fields_append_cons isSep, fields_solid ahead shown, List.singleton_append]

theorem fields_dropWhile (s : Text) : fields (s.dropWhile isBlank) = fields s := by
  induction s with
  | nil => rfl
  | cons c s ih =>
      by_cases blank : isBlank c = true
      · rw [List.dropWhile_cons_of_pos blank, ih, fields_cons blank]
      · rw [List.dropWhile_cons_of_neg blank]

theorem fields_rdropWhile (s : Text) : fields (s.rdropWhile isBlank) = fields s := by
  induction s using List.reverseRecOn with
  | nil => rfl
  | append_singleton s c ih =>
      by_cases blank : isBlank c = true
      · rw [List.rdropWhile_concat_pos _ _ _ blank, ih, fields_concat blank]
      · rw [List.rdropWhile_concat_neg _ _ _ blank]

theorem fields_trim (s : Text) : fields (trim s) = fields s := by
  rw [trim, fields_rdropWhile, fields_dropWhile]

theorem tr_append (source target : Char) (first second : Text) :
    tr source target (first ++ second) = tr source target first ++ tr source target second :=
  List.map_append

theorem tr_of_notMem {source target : Char} {s : Text} (absent : source ∉ s) : tr source target s = s := by
  have same : ∀ c ∈ s, (if c = source then target else c) = c := by
    intro c member
    exact if_neg fun here : c = source => absent (here ▸ member)
  rw [tr, List.map_congr_left same, List.map_id']

/-- With its commas as line feeds, a list has the words of its pieces. -/
theorem fields_tr (s : Text) : fields (tr ',' '\n' s) = (s.splitOn ',').flatMap fields := by
  by_cases more : ',' ∈ s
  · have ⟨before, after, split, first⟩ := List.eq_append_cons_of_mem more
    have shorter : after.length < s.length := by
      rw [split, List.length_append, List.length_cons]
      omega
    have pieces : s.splitOn ',' = before :: after.splitOn ',' := by
      rw [split, splitOn_append_cons first]
    have words : tr ',' '\n' s = before ++ '\n' :: tr ',' '\n' after := by
      rw [split, tr_append, tr_of_notMem first]
      rfl
    rw [words, pieces, fields_append_cons (by decide), fields_tr after, List.flatMap_cons]
  · rw [splitOn_of_notMem more, tr_of_notMem more, List.flatMap_singleton]
termination_by s.length

/-- The words of a list are its entries where no entry has a blank in it. -/
theorem fields_tr_eq_listed {s : Text} (solid : ∀ entry ∈ listed s, Solid entry) :
    fields (tr ',' '\n' s) = listed s := by
  have piece (part : Text) (member : part ∈ s.splitOn ',') :
      fields part = [trim part].filter fun entry => !entry.isEmpty := by
    by_cases filled : trim part = []
    · rw [← fields_trim, filled]
      rfl
    · have shown : (!(trim part).isEmpty) = true := by simpa using filled
      have kept : trim part ∈ listed s := List.mem_filter.mpr ⟨List.mem_map_of_mem member, shown⟩
      rw [← fields_trim, fields_solid (solid _ kept) filled]
      have one := List.filter_cons_of_pos (p := fun entry : Text => !entry.isEmpty) (l := []) shown
      exact one.symm
  rw [fields_tr, listed]
  generalize s.splitOn ',' = parts at piece
  induction parts with
  | nil => rfl
  | cons part rest ih =>
      have ⟨here, later⟩ := List.forall_mem_cons.mp piece
      rw [List.flatMap_cons, here, ih later, List.map_cons, ← List.filter_append,
        List.singleton_append]

theorem echo_of_head {s : Text} (plain : s.head? ≠ some '-') : echo s = s := by
  unfold echo
  split
  · exact absurd rfl plain
  · rfl

/-- An option of `echo` is a list with itself as the only entry. -/
theorem listed_of_echo {s : Text} (swallowed : echo s ≠ s) : listed s = [s] := by
  unfold echo at swallowed
  split at swallowed
  · rename_i first rest
    split at swallowed
    · rename_i letters
      have plain : ∀ c ∈ '-' :: first :: rest, c = '-' ∨ c = 'n' ∨ c = 'e' ∨ c = 'E' := by
        intro c member
        rcases List.mem_cons.mp member with dash | later
        · exact Or.inl dash
        · have letter := List.all_eq_true.mp letters c later
          simpa [or_assoc] using Or.inr letter
      have solid : ∀ c ∈ '-' :: first :: rest, isBlank c = false := by
        intro c member
        rcases plain c member with rfl | rfl | rfl | rfl <;> rfl
      have noComma : ',' ∉ '-' :: first :: rest := by
        intro member
        exact absurd (plain ',' member) (by decide)
      have trimmed : trim ('-' :: first :: rest) = '-' :: first :: rest := by
        have first := List.dropWhile_cons_of_neg (p := isBlank) (l := first :: rest)
          (show ¬ isBlank '-' = true by decide)
        rw [trim, first, List.rdropWhile_eq_self_iff]
        exact fun filled => Bool.eq_false_iff.mp (solid _ (List.getLast_mem filled))
      rw [listed, splitOn_of_notMem noComma, List.map_singleton, trimmed]
      rfl
    · exact absurd rfl swallowed
  · exact absurd rfl swallowed

theorem echo_of_listed {s : Text} (plain : ∀ entry ∈ listed s, entry.head? ≠ some '-') : echo s = s := by
  by_contra swallowed
  have alone := listed_of_echo swallowed
  rw [alone] at plain
  exact swallowed (echo_of_head (plain s (List.mem_singleton.mpr rfl)))

end ShellText
