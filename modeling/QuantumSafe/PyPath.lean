import QuantumSafe.TextLines

set_option autoImplicit false

/- `pathlib.PurePosixPath`: paths as a root and the names below it. -/
namespace PyPath

open PyText

/-- Two leading slashes are a root of their own; three or more are one slash. -/
inductive Root where
  | relative
  | slash
  | doubleSlash
deriving DecidableEq, Repr

def Root.str : Root → Text
  | .relative => []
  | .slash => ['/']
  | .doubleSlash => ['/', '/']

/-- A part of a parsed path. -/
def IsName (part : Text) : Prop := part ≠ [] ∧ part ≠ ['.'] ∧ '/' ∉ part

instance (part : Text) : Decidable (IsName part) :=
  inferInstanceAs (Decidable (part ≠ [] ∧ part ≠ ['.'] ∧ '/' ∉ part))

structure PosixPath where
  root : Root
  parts : List Text
  plain : ∀ part ∈ parts, IsName part
deriving DecidableEq

/-- `splitroot` of the Posix flavour. -/
def splitroot (s : Text) : Root × Text :=
  let stripped := s.dropWhile (· = '/')
  if s.head? = some '/' then
    if s.length - stripped.length = 2 then (.doubleSlash, stripped) else (.slash, stripped)
  else (.relative, s)

/-- The names of a text below its root; empty and `.` parts are left out. -/
def names (rel : Text) : List Text :=
  (rel.splitOn '/').filter fun part => !part.isEmpty && part != ['.']

theorem isName_of_mem_names {rel part : Text} (member : part ∈ names rel) : IsName part := by
  obtain ⟨piece, kept⟩ := List.mem_filter.mp member
  rw [Bool.and_eq_true, Bool.not_eq_true', List.isEmpty_eq_false_iff, bne_iff_ne] at kept
  exact ⟨kept.1, kept.2, notMem_splitOn '/' rel part piece⟩

/-- `PurePosixPath(s)`. -/
def PosixPath.ofText (s : Text) : PosixPath where
  root := (splitroot s).1
  parts := names (splitroot s).2
  plain := fun _ => isName_of_mem_names

/-- `str(path)`. -/
def PosixPath.str (path : PosixPath) : Text :=
  let s := path.root.str ++ join ['/'] path.parts
  if s.isEmpty then ['.'] else s

/-- `path / s`: an absolute text replaces the path. -/
def PosixPath.div (path : PosixPath) (s : Text) : PosixPath :=
  let child := PosixPath.ofText s
  if child.root = .relative then
    ⟨path.root, path.parts ++ child.parts, fun part member =>
      (List.mem_append.mp member).elim (path.plain part) (child.plain part)⟩
  else child

def PosixPath.IsAbsolute (path : PosixPath) : Prop := path.root ≠ .relative

theorem PosixPath.ext {first second : PosixPath} (root : first.root = second.root)
    (parts : first.parts = second.parts) : first = second := by
  cases first
  cases second
  cases root
  cases parts
  rfl

theorem names_join {parts : List Text} (plain : ∀ part ∈ parts, IsName part) :
    names (join ['/'] parts) = parts := by
  cases parts with
  | nil => rfl
  | cons first rest =>
      have absent : ∀ part ∈ first :: rest, '/' ∉ part := fun part member => (plain part member).2.2
      rw [names, join, List.splitOn_intercalate '/' absent (List.cons_ne_nil first rest),
        List.filter_eq_self]
      intro part member
      obtain ⟨filled, notDot, -⟩ := plain part member
      simp [filled, notDot]

/-- The names below a root do not start with a slash. -/
theorem head?_join_ne {parts : List Text} (plain : ∀ part ∈ parts, IsName part) :
    (join ['/'] parts).head? ≠ some '/' := by
  cases parts with
  | nil => exact (Option.some_ne_none _).symm
  | cons first rest =>
      obtain ⟨filled, -, absent⟩ := plain first List.mem_cons_self
      intro head
      cases first with
      | nil => exact filled rfl
      | cons c first =>
          cases rest with
          | nil =>
              rw [join, List.intercalate_singleton] at head
              exact absent (Option.some.inj head ▸ List.mem_cons_self)
          | cons second rest =>
              rw [join, List.intercalate_cons_cons] at head
              exact absent (Option.some.inj head ▸ List.mem_cons_self)

theorem dropWhile_slash {rel : Text} (visible : rel.head? ≠ some '/') :
    rel.dropWhile (· = '/') = rel := by
  cases rel with
  | nil => rfl
  | cons c rel =>
      have other : ¬ (decide (c = '/')) = true := by
        rw [decide_eq_true_iff]
        intro same
        exact visible (by rw [same]; rfl)
      exact List.dropWhile_cons_of_neg other

theorem splitroot_append (root : Root) {rel : Text} (visible : rel.head? ≠ some '/') :
    splitroot (root.str ++ rel) = (root, rel) := by
  have kept := dropWhile_slash visible
  cases root with
  | relative =>
      rw [Root.str, List.nil_append, splitroot]
      exact if_neg visible
  | slash =>
      have stripped : ('/' :: rel).dropWhile (· = '/') = rel := by
        rw [List.dropWhile_cons_of_pos (by decide), kept]
      have one : ¬ ('/' :: rel).length - rel.length = 2 := by
        rw [List.length_cons]
        omega
      rw [Root.str, List.singleton_append, splitroot, stripped]
      exact (if_pos rfl).trans (if_neg one)
  | doubleSlash =>
      have stripped : ('/' :: '/' :: rel).dropWhile (· = '/') = rel := by
        rw [List.dropWhile_cons_of_pos (by decide), List.dropWhile_cons_of_pos (by decide), kept]
      have two : ('/' :: '/' :: rel).length - rel.length = 2 := by
        rw [List.length_cons, List.length_cons]
        omega
      rw [Root.str, List.cons_append, List.singleton_append, splitroot, stripped]
      exact (if_pos rfl).trans (if_pos two)

theorem join_eq_nil {parts : List Text} (plain : ∀ part ∈ parts, IsName part)
    (empty : join ['/'] parts = []) : parts = [] := by
  rw [← names_join plain, empty]
  rfl

/-- A path is read back from its text. -/
theorem PosixPath.ofText_str (path : PosixPath) : PosixPath.ofText path.str = path := by
  have visible := head?_join_ne path.plain
  rw [PosixPath.str]
  split
  · rename_i empty
    have both := List.append_eq_nil_iff.mp (List.isEmpty_iff.mp empty)
    have root : path.root = .relative := by
      cases known : path.root <;> rw [known] at both <;> simp_all [Root.str]
    apply PosixPath.ext
    · rw [root]
      rfl
    · rw [join_eq_nil path.plain both.2]
      rfl
  · have whole := splitroot_append path.root visible
    apply PosixPath.ext
    · exact congrArg Prod.fst whole
    · rw [PosixPath.ofText]
      dsimp only
      rw [whole]
      exact names_join path.plain

/- Names below an absolute path -/

theorem ofText_name {name : Text} (plain : IsName name) :
    (PosixPath.ofText name).root = .relative ∧ (PosixPath.ofText name).parts = [name] := by
  have visible : name.head? ≠ some '/' := fun head => plain.2.2 (List.mem_of_head? head)
  have whole := splitroot_append .relative visible
  rw [Root.str, List.nil_append] at whole
  rw [PosixPath.ofText]
  dsimp only
  rw [whole]
  have alone : names (join ['/'] [name]) = [name] :=
    names_join fun part member => List.mem_singleton.mp member ▸ plain
  rw [join, List.intercalate_singleton] at alone
  exact ⟨rfl, alone⟩

theorem PosixPath.root_div (path : PosixPath) {name : Text} (plain : IsName name) :
    (path.div name).root = path.root := by
  rw [PosixPath.div, if_pos (ofText_name plain).1]

theorem PosixPath.parts_div (path : PosixPath) {name : Text} (plain : IsName name) :
    (path.div name).parts = path.parts ++ [name] := by
  rw [PosixPath.div, if_pos (ofText_name plain).1]
  exact congrArg (path.parts ++ ·) (ofText_name plain).2

theorem PosixPath.str_of_absolute {path : PosixPath} (absolute : path.IsAbsolute) :
    path.str = path.root.str ++ join ['/'] path.parts := by
  have filled : ¬ (path.root.str ++ join ['/'] path.parts).isEmpty = true := by
    rw [List.isEmpty_iff, List.append_eq_nil_iff]
    intro empty
    cases known : path.root with
    | relative => exact absolute known
    | slash =>
        rw [known] at empty
        cases empty.1
    | doubleSlash =>
        rw [known] at empty
        cases empty.1
  rw [PosixPath.str]
  exact if_neg filled

theorem PosixPath.head?_str {path : PosixPath} (absolute : path.IsAbsolute) :
    path.str.head? = some '/' := by
  rw [PosixPath.str_of_absolute absolute]
  cases known : path.root with
  | relative => exact absurd known absolute
  | slash => rfl
  | doubleSlash => rfl

theorem PosixPath.absolute_div {path : PosixPath} (absolute : path.IsAbsolute) {name : Text}
    (plain : IsName name) : (path.div name).IsAbsolute := by
  rw [PosixPath.IsAbsolute, path.root_div plain]
  exact absolute

/-- The text of a path ends as its last name does. -/
theorem PosixPath.getLast?_str_div {path : PosixPath} (absolute : path.IsAbsolute) {name : Text}
    (plain : IsName name) : (path.div name).str.getLast? = name.getLast? := by
  rw [PosixPath.str_of_absolute (PosixPath.absolute_div absolute plain), path.parts_div plain]
  obtain ⟨front, last, whole⟩ := name.eq_nil_or_concat'.resolve_left plain.1
  rw [whole, ← join_append_last, ← List.append_assoc, List.getLast?_concat, List.getLast?_concat]

theorem PosixPath.mem_str_div {path : PosixPath} (absolute : path.IsAbsolute) {name : Text}
    (plain : IsName name) {c : Char} (member : c ∈ (path.div name).str) :
    c ∈ path.str ∨ c ∈ name := by
  rw [PosixPath.str_of_absolute (PosixPath.absolute_div absolute plain), path.parts_div plain,
    path.root_div plain] at member
  rw [PosixPath.str_of_absolute absolute]
  have slash : '/' ∈ path.root.str := by
    cases known : path.root with
    | relative => exact absurd known absolute
    | slash => exact List.mem_cons_self
    | doubleSlash => exact List.mem_cons_self
  rcases List.mem_append.mp member with inRoot | inNames
  · exact Or.inl (List.mem_append_left _ inRoot)
  · rcases mem_join inNames with separator | ⟨part, inside, member⟩
    · rw [List.mem_singleton.mp separator]
      exact Or.inl (List.mem_append_left _ slash)
    · rcases List.mem_append.mp inside with earlier | last
      · exact Or.inl (List.mem_append_right _ (mem_join_of_mem earlier member))
      · exact Or.inr (List.mem_singleton.mp last ▸ member)

end PyPath
