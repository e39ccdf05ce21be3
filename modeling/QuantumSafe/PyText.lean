import Mathlib.Algebra.Group.Nat.Defs
import Mathlib.Data.List.DropRight
import Mathlib.Data.List.Infix

set_option autoImplicit false

/- Python `str` values as lists of characters, with the string methods whose
exact behaviour the verified programs rely on. -/
namespace PyText

abbrev Text := List Char

/-- A string literal. Its characters are fixed when the literal is elaborated,
so that evaluating a text never decodes UTF-8. -/
def text (literal : String) {chars : Text} (_ : literal = String.ofList chars := by rfl) : Text :=
  chars

/-- `str.isspace` on one character; `\s` of a `str` pattern is the same class. -/
def isSpace (c : Char) : Bool :=
  let n := c.toNat
  (9 ≤ n && n ≤ 13) || (28 ≤ n && n ≤ 32) || n == 0x85 || n == 0xa0 || n == 0x1680 ||
    (0x2000 ≤ n && n ≤ 0x200a) || n == 0x2028 || n == 0x2029 || n == 0x202f || n == 0x205f ||
    n == 0x3000

/-- The characters at which `str.splitlines` ends a line. -/
def isLineBreak (c : Char) : Bool :=
  let n := c.toNat
  (10 ≤ n && n ≤ 13) || (28 ≤ n && n ≤ 30) || n == 0x85 || n == 0x2028 || n == 0x2029

theorem isSpace_of_isLineBreak (c : Char) (breaks : isLineBreak c = true) : isSpace c = true := by
  simp only [isLineBreak, Bool.or_eq_true, Bool.and_eq_true, decide_eq_true_eq, beq_iff_eq] at breaks
  simp only [isSpace, Bool.or_eq_true, Bool.and_eq_true, decide_eq_true_eq, beq_iff_eq]
  omega

/-- Lower case of one character. Outside ASCII only U+0130 and U+212A have a
lower-case form with an ASCII letter in it; every other character is left as it
is, which no search for ASCII words can tell from its own lower-case form. -/
def lowerChar (c : Char) : Text :=
  if c = Char.ofNat 0x130 then ['i', Char.ofNat 0x307]
  else if c = Char.ofNat 0x212a then ['k']
  else [c.toLower]

/-- `str.lower`, as far as a comparison with an ASCII text can tell. -/
def lower (s : Text) : Text := s.flatMap lowerChar

/-- `str.startswith`. -/
def startswith (s start : Text) : Bool := start.isPrefixOf s

/-- `needle in s`. -/
def contains (needle : Text) : Text → Bool
  | [] => needle.isEmpty
  | c :: rest => needle.isPrefixOf (c :: rest) || contains needle rest

/-- `str.lstrip`, `str.rstrip` and `str.strip` without arguments. -/
def lstrip (s : Text) : Text := s.dropWhile isSpace

def rstrip (s : Text) : Text := s.rdropWhile isSpace

def strip (s : Text) : Text := rstrip (lstrip s)

/-- The parts of a text before and after the first occurrence of `sep`. -/
def cut (sep : Text) : Text → Option (Text × Text)
  | [] => if sep.isEmpty then some ([], []) else none
  | c :: rest =>
      if sep.isPrefixOf (c :: rest) then some ([], (c :: rest).drop sep.length)
      else (cut sep rest).map fun parts => (c :: parts.1, parts.2)

/-- `s.split(sep, 1)[0]` for a non-empty `sep`. -/
def splitHead (sep s : Text) : Text := ((cut sep s).map Prod.fst).getD s

/-- `s.split(sep, 1)[-1]` for a non-empty `sep`. -/
def splitTail (sep s : Text) : Text := ((cut sep s).map Prod.snd).getD s

/-- Left-to-right replacement, with `skip` characters of the occurrence in
front still to be dropped. -/
def replaceFrom (old new : Text) : Nat → Text → Text
  | _, [] => []
  | skip + 1, _ :: rest => replaceFrom old new skip rest
  | 0, c :: rest =>
      if old.isPrefixOf (c :: rest) then new ++ replaceFrom old new (old.length - 1) rest
      else c :: replaceFrom old new 0 rest

/-- `str.replace` for a non-empty `old`. -/
def replace (old new s : Text) : Text := replaceFrom old new 0 s

/-- `splitlines` with the characters of the current line, last one first. -/
def splitlinesFrom (current : Text) : Text → List Text
  | [] => if current.isEmpty then [] else [current.reverse]
  | '\r' :: '\n' :: rest => current.reverse :: splitlinesFrom [] rest
  | c :: rest =>
      if isLineBreak c then current.reverse :: splitlinesFrom [] rest
      else splitlinesFrom (c :: current) rest

/-- `str.splitlines`. -/
def splitlines (s : Text) : List Text := splitlinesFrom [] s

/-- What reading a file in text mode makes of its line ends. -/
def universalNewlines : Text → Text
  | [] => []
  | '\r' :: '\n' :: rest => '\n' :: universalNewlines rest
  | c :: rest => (if c = '\r' then '\n' else c) :: universalNewlines rest

/-- `sep.join(parts)`. -/
def join (sep : Text) (parts : List Text) : Text := sep.intercalate parts

theorem startswith_iff (s start : Text) : startswith s start = true ↔ start <+: s :=
  List.isPrefixOf_iff_prefix

theorem contains_iff (needle s : Text) : contains needle s = true ↔ needle <:+: s := by
  induction s with
  | nil => simp [contains]
  | cons c rest ih =>
      rw [contains, Bool.or_eq_true, ih, List.isPrefixOf_iff_prefix, List.infix_cons_iff]

theorem contains_of_append (before needle after : Text) :
    contains needle (before ++ needle ++ after) = true :=
  (contains_iff needle _).mpr ⟨before, after, rfl⟩

theorem contains_append_left {needle s : Text} (before : Text) (found : contains needle s = true) :
    contains needle (before ++ s) = true := by
  rw [contains_iff] at found ⊢
  exact found.trans (List.suffix_append before s).isInfix

theorem contains_append_right {needle s : Text} (after : Text) (found : contains needle s = true) :
    contains needle (s ++ after) = true := by
  rw [contains_iff] at found ⊢
  exact found.trans (List.prefix_append s after).isInfix

theorem replaceFrom_skip (old new skipped rest : Text) :
    replaceFrom old new skipped.length (skipped ++ rest) = replaceFrom old new 0 rest := by
  induction skipped with
  | nil => rfl
  | cons c skipped ih => exact ih

/-- An occurrence at the front is replaced. -/
theorem replace_occurrence (old new rest : Text) (filled : old ≠ []) :
    replace old new (old ++ rest) = new ++ replace old new rest := by
  cases old with
  | nil => exact absurd rfl filled
  | cons c tail =>
      have here : (c :: tail).isPrefixOf (c :: (tail ++ rest)) = true :=
        List.isPrefixOf_iff_prefix.mpr (List.prefix_append (c :: tail) rest)
      rw [replace, List.cons_append, replaceFrom, if_pos here]
      exact congrArg (new ++ ·) (replaceFrom_skip (c :: tail) new tail rest)

/-- Characters at which no occurrence starts are kept. -/
theorem replace_passed (old new kept rest : Text)
    (absent : ∀ after, after ≠ [] → after <:+ kept → ¬ old <+: after ++ rest) :
    replace old new (kept ++ rest) = kept ++ replace old new rest := by
  induction kept with
  | nil => rfl
  | cons c kept ih =>
      have notHere : old.isPrefixOf (c :: (kept ++ rest)) = false := by
        rw [Bool.eq_false_iff, ne_eq, List.isPrefixOf_iff_prefix]
        exact absent (c :: kept) (by simp) (List.suffix_refl _)
      have later := ih fun after filled suffix =>
        absent after filled (suffix.trans (List.suffix_cons c kept))
      rw [List.cons_append, replace, replaceFrom, notHere, if_neg (by simp)]
      exact congrArg (c :: ·) later

/-- What replaces an occurrence is in the result. -/
theorem contains_replace (old new : Text) {s : Text} (filled : old ≠ []) (here : contains old s = true) :
    contains new (replace old new s) = true := by
  induction s with
  | nil =>
      rw [contains, List.isEmpty_iff] at here
      exact absurd here filled
  | cons c rest ih =>
      by_cases starts : old <+: c :: rest
      · obtain ⟨later, split⟩ := starts
        rw [← split, replace_occurrence old new later filled]
        exact contains_of_append [] new _
      · have kept : replace old new ([c] ++ rest) = [c] ++ replace old new rest := by
          refine replace_passed old new [c] rest fun after some suffix => ?_
          rcases List.suffix_cons_iff.mp suffix with rfl | none
          · exact starts
          · exact absurd (List.suffix_nil.mp none) some
        have later : contains old rest = true := by
          rw [contains_iff] at here ⊢
          exact (List.infix_cons_iff.mp here).resolve_left starts
        exact kept ▸ contains_append_left [c] (ih later)

theorem mem_join {sep : Text} {parts : List Text} {c : Char} (member : c ∈ join sep parts) :
    c ∈ sep ∨ ∃ part ∈ parts, c ∈ part := by
  induction parts with
  | nil => cases member
  | cons part rest ih =>
      cases rest with
      | nil =>
          rw [join, List.intercalate_singleton] at member
          exact Or.inr ⟨part, by simp, member⟩
      | cons next rest =>
          rw [join, List.intercalate_cons_cons, List.mem_append, List.mem_append] at member
          rcases member with (here | separator) | later
          · exact Or.inr ⟨part, by simp, here⟩
          · exact Or.inl separator
          · rcases ih later with separator | ⟨found, inside, member⟩
            · exact Or.inl separator
            · exact Or.inr ⟨found, List.mem_cons_of_mem part inside, member⟩

theorem isSpace_ascii {c : Char} (least : 33 ≤ c.toNat) (most : c.toNat ≤ 126) : isSpace c = false := by
  simp only [isSpace, Bool.or_eq_false_iff, Bool.and_eq_false_iff, decide_eq_false_iff_not,
    beq_eq_false_iff_ne]
  omega

theorem isSpace_letter {c : Char} (least : 97 ≤ c.toNat) (most : c.toNat ≤ 122) : isSpace c = false :=
  isSpace_ascii (by omega) (by omega)

theorem isSpace_of_isDigit {c : Char} (digit : c.isDigit = true) : isSpace c = false := by
  have range : 48 ≤ c.toNat ∧ c.toNat ≤ 57 := by
    simp only [Char.isDigit, Bool.and_eq_true, decide_eq_true_eq, ge_iff_le, UInt32.le_iff_toNat_le] at digit
    exact digit
  exact isSpace_ascii (by omega) (by omega)

theorem visible_of_all {s : Text} (all : s.all (fun c => !isSpace c) = true) :
    ∀ c ∈ s, isSpace c = false := by
  intro c member
  simpa using List.all_eq_true.mp all c member

theorem isLower_eq (c : Char) : c.isLower = (decide (c.val ≥ 'a'.val) && decide (c.val ≤ 'z'.val)) := rfl

theorem isAlpha_eq (c : Char) : c.isAlpha = (c.isUpper || c.isLower) := rfl

theorem isUpper_eq (c : Char) : c.isUpper = decide (c.val ≥ 'A'.val ∧ c.val ≤ 'Z'.val) := rfl

theorem toLower_of_not_upper {c : Char} (other : ¬ (c.val ≥ 'A'.val ∧ c.val ≤ 'Z'.val)) : c.toLower = c :=
  dif_neg other

theorem toNat_toLower_of_upper {c : Char} (upper : c.val ≥ 'A'.val ∧ c.val ≤ 'Z'.val) :
    c.toLower.toNat = c.toNat + 32 := by
  have most : c.val.toNat ≤ 90 := UInt32.le_iff_toNat_le.mp upper.2
  have shifted : c.toLower.val = c.val + ('a'.val - 'A'.val) := congrArg Char.val (dif_pos upper)
  have distance : ('a'.val - 'A'.val).toNat = 32 := rfl
  calc c.toLower.toNat
      = (c.val + ('a'.val - 'A'.val)).toNat := congrArg UInt32.toNat shifted
    _ = (c.val.toNat + ('a'.val - 'A'.val).toNat) % 2 ^ 32 := UInt32.toNat_add _ _
    _ = c.val.toNat + 32 := Nat.mod_eq_of_lt (by omega)

/-- A lower-case form is the character itself, or 32 places behind it. -/
theorem toNat_of_toLower {c d : Char} (same : c.toLower = d) : c = d ∨ c.toNat + 32 = d.toNat := by
  by_cases upper : c.val ≥ 'A'.val ∧ c.val ≤ 'Z'.val
  · exact Or.inr (same ▸ (toNat_toLower_of_upper upper).symm)
  · exact Or.inl ((toLower_of_not_upper upper).symm.trans same)

theorem isSpace_toLower {c : Char} (visible : isSpace c = false) : isSpace c.toLower = false := by
  by_cases upper : c.val ≥ 'A'.val ∧ c.val ≤ 'Z'.val
  · have least : 65 ≤ c.toNat := UInt32.le_iff_toNat_le.mp upper.1
    have most : c.toNat ≤ 90 := UInt32.le_iff_toNat_le.mp upper.2
    have moved := toNat_toLower_of_upper upper
    apply isSpace_letter
    · omega
    · omega
  · rw [toLower_of_not_upper upper]
    exact visible

theorem isSpace_lowerChar {c d : Char} (visible : isSpace c = false) (member : d ∈ lowerChar c) :
    isSpace d = false := by
  rw [lowerChar] at member
  split at member
  · rcases List.mem_cons.mp member with rfl | later
    · decide
    · rw [List.mem_singleton.mp later]
      decide
  · split at member
    · rw [List.mem_singleton.mp member]
      decide
    · rw [List.mem_singleton.mp member]
      exact isSpace_toLower visible

theorem strip_eq_self {s : Text} (front : ∀ c, s.head? = some c → isSpace c = false)
    (back : ∀ c, s.getLast? = some c → isSpace c = false) : strip s = s := by
  have kept : lstrip s = s := by
    cases s with
    | nil => rfl
    | cons c rest => simp [lstrip, front c rfl]
  rw [strip, kept, rstrip, List.rdropWhile_eq_self_iff]
  intro filled
  simp [back _ (List.getLast?_eq_some_getLast filled)]

/-- A first character that is kept stays in front. -/
theorem rdropWhile_cons {drops : Char → Bool} {s : Text} {c : Char} (kept : drops c = false) :
    ∃ rest, (c :: s).rdropWhile drops = c :: rest := by
  induction s using List.reverseRecOn with
  | nil => exact ⟨[], by simp [kept]⟩
  | append_singleton s d ih =>
      by_cases last : drops d = true
      · rw [← List.cons_append, List.rdropWhile_concat_pos _ _ _ last]
        exact ih
      · exact ⟨s ++ [d], by rw [← List.cons_append, List.rdropWhile_concat_neg _ _ _ last]⟩

/-- A text whose first visible character is known keeps it in front. -/
theorem strip_front {blank s : Text} {c : Char} (space : ∀ d ∈ blank, isSpace d = true)
    (visible : isSpace c = false) : ∃ rest, strip (blank ++ c :: s) = c :: rest := by
  have front : lstrip (blank ++ c :: s) = c :: s := by
    rw [lstrip, List.dropWhile_append_of_pos space, List.dropWhile_cons_of_neg (by simp [visible])]
  rw [strip, front]
  exact rdropWhile_cons visible

/-- A text is determined up to the first occurrence of a character. -/
theorem upTo_unique {stop : Char} {first second after after' : Text} (absent : stop ∉ first)
    (absent' : stop ∉ second) (same : first ++ stop :: after = second ++ stop :: after') :
    first = second ∧ after = after' := by
  induction first generalizing second with
  | nil =>
      cases second with
      | nil => exact ⟨rfl, (List.cons.inj same).2⟩
      | cons c second =>
          rw [(List.cons.inj same).1] at absent'
          exact absurd List.mem_cons_self absent'
  | cons c first ih =>
      cases second with
      | nil =>
          rw [← (List.cons.inj same).1] at absent
          exact absurd List.mem_cons_self absent
      | cons d second =>
          obtain ⟨rfl, rest⟩ := List.cons.inj same
          obtain ⟨heads, tails⟩ := ih (fun inside => absent (List.mem_cons_of_mem c inside))
            (fun inside => absent' (List.mem_cons_of_mem c inside)) rest
          exact ⟨congrArg (c :: ·) heads, tails⟩

theorem universalNewlines_of_notMem {s : Text} (absent : '\r' ∉ s) : universalNewlines s = s := by
  fun_induction universalNewlines s with
  | case1 => rfl
  | case2 rest ih => exact absurd List.mem_cons_self absent
  | case3 c rest notReturn ih =>
      have other : c ≠ '\r' := fun same => absent (same ▸ List.mem_cons_self)
      rw [if_neg other, ih fun inside => absent (List.mem_cons_of_mem c inside)]

/-- A line that `splitlines` cannot cut. -/
def Unbroken (line : Text) : Prop := ∀ c ∈ line, isLineBreak c = false

theorem unbroken_of_visible {s : Text} (visible : ∀ c ∈ s, isSpace c = false) : Unbroken s := by
  intro c member
  rw [Bool.eq_false_iff]
  intro breaks
  have space := isSpace_of_isLineBreak c breaks
  rw [visible c member] at space
  cases space

theorem unbroken_append {first second : Text} (left : Unbroken first) (right : Unbroken second) :
    Unbroken (first ++ second) := by
  intro c member
  rcases List.mem_append.mp member with here | there
  · exact left c here
  · exact right c there

theorem unbroken_replicate (count : Nat) {c : Char} (plain : isLineBreak c = false) :
    Unbroken (List.replicate count c) := by
  intro d member
  rw [List.eq_of_mem_replicate member]
  exact plain

theorem splitlinesFrom_append (current line rest : Text) (unbroken : Unbroken line) :
    splitlinesFrom current (line ++ rest) = splitlinesFrom (line.reverse ++ current) rest := by
  induction line generalizing current with
  | nil => rfl
  | cons c line ih =>
      have plain : isLineBreak c = false := unbroken c (by simp)
      have notReturn : c ≠ '\r' := by
        rintro rfl
        exact absurd plain (by decide)
      have step : splitlinesFrom current (c :: (line ++ rest)) =
          splitlinesFrom (c :: current) (line ++ rest) := by
        rw [splitlinesFrom]
        · simp only [plain, Bool.false_eq_true, ↓reduceIte]
        · intro tail same
          exact absurd same notReturn
      rw [List.cons_append, step, ih (c :: current) fun d inside => unbroken d (by simp [inside])]
      simp only [List.reverse_cons, List.append_assoc, List.singleton_append]

/-- A line feed closes the line in front of it. -/
theorem splitlines_line (line rest : Text) (unbroken : Unbroken line) :
    splitlines (line ++ '\n' :: rest) = line :: splitlines rest := by
  rw [splitlines, splitlinesFrom_append [] line _ unbroken, splitlinesFrom]
  · simp [splitlines, isLineBreak]
  · intro tail same
    exact absurd same (by decide)

theorem splitlines_last (line : Text) (unbroken : Unbroken line) (filled : line ≠ []) :
    splitlines line = [line] := by
  have whole := splitlinesFrom_append [] line [] unbroken
  rw [List.append_nil, List.append_nil] at whole
  rw [splitlines, whole, splitlinesFrom]
  simp [filled]

theorem splitlinesFrom_unbroken (current s : Text) (unbroken : Unbroken current) :
    ∀ line ∈ splitlinesFrom current s, Unbroken line := by
  fun_induction splitlinesFrom current s with
  | case1 current empty => simp
  | case2 current filled =>
      intro line member c inside
      rw [List.mem_singleton.mp member] at inside
      exact unbroken c (List.mem_reverse.mp inside)
  | case3 current rest ih =>
      intro line member
      rcases List.mem_cons.mp member with rfl | member
      · exact fun c inside => unbroken c (List.mem_reverse.mp inside)
      · exact ih (by simp [Unbroken]) line member
  | case4 current c rest notReturn breaks ih =>
      intro line member
      rcases List.mem_cons.mp member with rfl | member
      · exact fun c inside => unbroken c (List.mem_reverse.mp inside)
      · exact ih (by simp [Unbroken]) line member
  | case5 current c rest notReturn plain ih =>
      refine ih fun d inside => ?_
      rcases List.mem_cons.mp inside with rfl | inside
      · simpa using plain
      · exact unbroken d inside

theorem splitlines_unbroken (s : Text) : ∀ line ∈ splitlines s, Unbroken line :=
  splitlinesFrom_unbroken [] s (by simp [Unbroken])

/-- Joining non-empty lines with line feeds and splitting again is the identity. -/
theorem splitlines_join (lines : List Text) (unbroken : ∀ line ∈ lines, Unbroken line)
    (filled : ∀ line ∈ lines, line ≠ []) : splitlines (join ['\n'] lines) = lines := by
  induction lines with
  | nil => rfl
  | cons line rest ih =>
      have headUnbroken := unbroken line (by simp)
      have tail := ih (fun l member => unbroken l (by simp [member]))
        (fun l member => filled l (by simp [member]))
      cases rest with
      | nil =>
          rw [join, List.intercalate_singleton]
          exact splitlines_last line headUnbroken (filled line (by simp))
      | cons next rest =>
          rw [join, List.intercalate_cons_cons, List.append_assoc]
          exact (splitlines_line line _ headUnbroken).trans (congrArg (line :: ·) tail)

end PyText
