import QuantumSafe.PyText

set_option autoImplicit false

/- A backtracking matcher with the priorities of Python's `re`: alternatives and
repetitions yield their ways to match in the order in which `re` tries them, and
the first complete way is the match. -/
namespace PyRegex

open PyText

/-- A position in the subject, with the characters already passed (last one
first) and the groups captured so far (latest first). -/
structure Cursor where
  passed : Text
  ahead : Text
  groups : List (Nat × Text)
deriving DecidableEq, Repr

/-- `\w` of a `str` pattern. Beyond ASCII the Unicode tables of the interpreter decide. -/
class WordClass where
  isWord : Char → Bool
  ascii : ∀ c, c.toNat < 128 → isWord c = (c.isAlphanum || c == '_')

/-- Nothing beyond ASCII. -/
@[reducible] def asciiWords : WordClass := ⟨fun c => c.isAlphanum || c == '_', fun _ _ => rfl⟩

/-- Patterns. Repetition is over one character class, which is all that the
patterns embedded with this library use. -/
inductive Regex where
  | empty
  | char (accepts : Char → Bool)
  | many (least : Nat) (accepts : Char → Bool)
  | manyLazy (least : Nat) (accepts : Char → Bool)
  | seq (first second : Regex)
  | either (first second : Regex)
  | group (index : Nat) (body : Regex)
  | lookahead (body : Regex)
  | lineStart
  | lineEnd
  | textEnd
  | wordBoundary (inWord : Char → Bool)

def nonSpace (c : Char) : Bool := !isSpace c

def anyChar (_ : Char) : Bool := true

/-- `re.IGNORECASE` for an ASCII pattern character. -/
def sameIgnoringCase (pattern c : Char) : Bool :=
  pattern.toLower == c.toLower ||
    (pattern.toLower == 'i' && (c.toNat == 0x130 || c.toNat == 0x131)) ||
    (pattern.toLower == 's' && c.toNat == 0x17f) ||
    (pattern.toLower == 'k' && c.toNat == 0x212a)

namespace Regex

/-- The pattern that matches exactly the given characters. -/
def literal (s : Text) : Regex := s.foldr (fun c rest => .seq (.char (· == c)) rest) .empty

/-- `\b` of a `str` pattern. -/
def wordEdge [WordClass] : Regex := .wordBoundary WordClass.isWord

def literalIgnoringCase (s : Text) : Regex :=
  s.foldr (fun c rest => .seq (.char (sameIgnoringCase c)) rest) .empty

/-- The cursors after 0, 1, 2, ... characters of the class, shortest first. -/
def spans (accepts : Char → Bool) (groups : List (Nat × Text)) : Text → Text → List Cursor
  | passed, [] => [⟨passed, [], groups⟩]
  | passed, c :: rest =>
      ⟨passed, c :: rest, groups⟩ ::
        if accepts c then spans accepts groups (c :: passed) rest else []

def atLineStart (passed : Text) : Bool := passed.isEmpty || passed.head? == some '\n'

def atLineEnd (ahead : Text) : Bool := ahead.isEmpty || ahead.head? == some '\n'

def atWordEdge (inWord : Char → Bool) (passed ahead : Text) : Bool :=
  (passed.head?.any inWord) != (ahead.head?.any inWord)

/-- The characters between two positions of one subject. -/
def between (start finish : Cursor) : Text :=
  (finish.passed.take (finish.passed.length - start.passed.length)).reverse

/-- All ways to match at a cursor, in the order in which `re` tries them. -/
def runs : Regex → Cursor → List Cursor
  | .empty, at_ => [at_]
  | .char accepts, at_ =>
      match at_.ahead with
      | [] => []
      | c :: rest => if accepts c then [⟨c :: at_.passed, rest, at_.groups⟩] else []
  | .many least accepts, at_ =>
      ((spans accepts at_.groups at_.passed at_.ahead).drop least).reverse
  | .manyLazy least accepts, at_ =>
      (spans accepts at_.groups at_.passed at_.ahead).drop least
  | .seq first second, at_ => (runs first at_).flatMap (runs second)
  | .either first second, at_ => runs first at_ ++ runs second at_
  | .group index body, at_ =>
      (runs body at_).map fun finish =>
        { finish with groups := (index, between at_ finish) :: finish.groups }
  | .lookahead body, at_ => if (runs body at_).isEmpty then [] else [at_]
  | .lineStart, at_ => if atLineStart at_.passed then [at_] else []
  | .lineEnd, at_ => if atLineEnd at_.ahead then [at_] else []
  | .textEnd, at_ => if at_.ahead.isEmpty then [at_] else []
  | .wordBoundary inWord, at_ => if atWordEdge inWord at_.passed at_.ahead then [at_] else []

/-- Leftmost match at or after a position. -/
def searchFrom (pattern : Regex) : Text → Text → Option Cursor
  | passed, [] => (runs pattern ⟨passed, [], []⟩).head?
  | passed, c :: rest =>
      match runs pattern ⟨passed, c :: rest, []⟩ with
      | finish :: _ => some finish
      | [] => searchFrom pattern (c :: passed) rest

/-- `re.search`. -/
def search (pattern : Regex) (s : Text) : Option Cursor := searchFrom pattern [] s

/-- `re.match`. -/
def matchStart (pattern : Regex) (s : Text) : Option Cursor := (runs pattern ⟨[], s, []⟩).head?

/-- One character of each class in turn. -/
def classes (each : List (Char → Bool)) (next : Regex) : Regex :=
  each.foldr (fun accepts rest => .seq (.char accepts) rest) next

/-- `$` without `re.MULTILINE`: the end, or right before a line feed at the end. -/
def dollar : Regex := .either .textEnd (.lookahead (.seq (.char (· == '\n')) .textEnd))

/-- The characters are of these classes, one of each. -/
def fits : List (Char → Bool) → Text → Bool
  | [], [] => true
  | accepts :: each, c :: s => accepts c && fits each s
  | _, _ => false

/-- `bool(re.search(...))`. -/
def found (pattern : Regex) (s : Text) : Bool := (search pattern s).isSome

/-- The matches recorded at one position and the length of the last one. After
an empty match, `re` still looks for a non-empty one at the same position. -/
def hits (pattern : Regex) (passed ahead : Text) : List Cursor × Nat :=
  let length (finish : Cursor) := finish.passed.length - passed.length
  match runs pattern ⟨passed, ahead, []⟩ with
  | [] => ([], 0)
  | first :: others =>
      if length first = 0 then
        match others.find? fun finish => length finish != 0 with
        | some second => ([first, second], length second)
        | none => ([first], 0)
      else ([first], length first)

/-- All matches from a position on, with `skip` characters of the last match
still to be passed. -/
def findallFrom (pattern : Regex) : Nat → Text → Text → List Cursor
  | 0, passed, [] => (hits pattern passed []).1
  | _ + 1, _, [] => []
  | 0, passed, c :: rest =>
      let here := hits pattern passed (c :: rest)
      here.1 ++ findallFrom pattern (here.2 - 1) (c :: passed) rest
  | skip + 1, passed, c :: rest => findallFrom pattern skip (c :: passed) rest

/-- `re.findall`, as the final cursors of the matches. -/
def findall (pattern : Regex) (s : Text) : List Cursor := findallFrom pattern 0 [] s

end Regex

/-- The text of a group, empty when the group took no part in the match. -/
def Cursor.group (finish : Cursor) (index : Nat) : Text :=
  ((finish.groups.find? fun entry => entry.1 == index).map Prod.snd).getD []

namespace Regex

@[simp] theorem runs_char_nil (accepts : Char → Bool) (passed : Text) (groups : List (Nat × Text)) :
    runs (.char accepts) ⟨passed, [], groups⟩ = [] := rfl

@[simp] theorem runs_char_cons (accepts : Char → Bool) (passed rest : Text) (c : Char)
    (groups : List (Nat × Text)) :
    runs (.char accepts) ⟨passed, c :: rest, groups⟩ =
      if accepts c then [⟨c :: passed, rest, groups⟩] else [] := rfl

@[simp] theorem runs_seq (first second : Regex) (start : Cursor) :
    runs (.seq first second) start = (runs first start).flatMap (runs second) := rfl

@[simp] theorem runs_group (index : Nat) (body : Regex) (start : Cursor) :
    runs (.group index body) start = (runs body start).map fun finish =>
      { finish with groups := (index, between start finish) :: finish.groups } := rfl

/-- A literal matches in at most one way: by being a prefix of what is ahead. -/
theorem runs_literal (s passed ahead : Text) (groups : List (Nat × Text)) :
    runs (literal s) ⟨passed, ahead, groups⟩ =
      if s.isPrefixOf ahead then [⟨s.reverse ++ passed, ahead.drop s.length, groups⟩] else [] := by
  induction s generalizing passed ahead with
  | nil => simp [literal, runs]
  | cons c s ih =>
      rw [show literal (c :: s) = .seq (.char (· == c)) (literal s) from rfl, runs_seq]
      cases ahead with
      | nil => simp
      | cons d rest =>
          rw [runs_char_cons]
          by_cases same : d = c
          · subst same
            simp [ih]
          · simp [same, Ne.symm same]

/-- Spans over characters of the class come before the spans from their end on. -/
theorem spans_class (accepts : Char → Bool) (groups : List (Nat × Text)) (passed inside rest : Text)
    (all : ∀ c ∈ inside, accepts c = true) :
    ∃ earlier, earlier.length = inside.length ∧
      spans accepts groups passed (inside ++ rest) =
        earlier ++ spans accepts groups (inside.reverse ++ passed) rest ∧
      ∀ cursor ∈ earlier, ∃ before after, inside = before ++ after ∧ after ≠ [] ∧
        cursor = ⟨before.reverse ++ passed, after ++ rest, groups⟩ := by
  induction inside generalizing passed with
  | nil => exact ⟨[], rfl, rfl, by simp⟩
  | cons c inside ih =>
      obtain ⟨earlier, length, split, parts⟩ := ih (c :: passed) fun d member => all d (by simp [member])
      refine ⟨⟨passed, c :: (inside ++ rest), groups⟩ :: earlier, by simp [length], ?_, ?_⟩
      · rw [List.cons_append, spans, if_pos (all c (by simp)), split]
        simp
      · intro cursor member
        rcases List.mem_cons.mp member with rfl | member
        · exact ⟨[], c :: inside, rfl, by simp, rfl⟩
        · obtain ⟨before, after, rfl, filled, same⟩ := parts cursor member
          exact ⟨c :: before, after, rfl, filled, by simpa using same⟩

/-- No span of a class goes past a character outside it. -/
def Stops (accepts : Char → Bool) (ahead : Text) : Prop :=
  ∀ c, ahead.head? = some c → accepts c = false

theorem spans_stops {accepts : Char → Bool} {ahead : Text} (stops : Stops accepts ahead)
    (groups : List (Nat × Text)) (passed : Text) :
    spans accepts groups passed ahead = [⟨passed, ahead, groups⟩] := by
  cases ahead with
  | nil => rfl
  | cons c rest => rw [spans, stops c rfl, if_neg (by simp)]

/-- A greedy repetition first tries the longest span. -/
theorem runs_many_head {accepts : Char → Bool} {least : Nat} (passed inside rest : Text)
    (groups : List (Nat × Text)) (all : ∀ c ∈ inside, accepts c = true) (stops : Stops accepts rest)
    (enough : least ≤ inside.length) :
    ∃ shorter, runs (.many least accepts) ⟨passed, inside ++ rest, groups⟩ =
      ⟨inside.reverse ++ passed, rest, groups⟩ :: shorter ∧
      ∀ cursor ∈ shorter, ∃ before after, inside = before ++ after ∧ after ≠ [] ∧
        cursor = ⟨before.reverse ++ passed, after ++ rest, groups⟩ := by
  obtain ⟨earlier, length, split, parts⟩ := spans_class accepts groups passed inside rest all
  refine ⟨(earlier.drop least).reverse, ?_, ?_⟩
  · simp only [runs, split, spans_stops stops]
    rw [List.drop_append_of_le_length (by omega), List.reverse_append]
    rfl
  · intro cursor member
    exact parts cursor (List.mem_of_mem_drop (List.mem_reverse.mp member))

@[simp] theorem between_append (passed inside rest rest' : Text) (groups groups' : List (Nat × Text)) :
    between ⟨passed, rest, groups⟩ ⟨inside.reverse ++ passed, rest', groups'⟩ = inside := by
  simp [between]

/-- When the rest of the pattern matches after the longest span, that is the match. -/
theorem runs_greedy_then {accepts : Char → Bool} {least index : Nat} {next : Regex}
    (passed inside rest : Text) (groups : List (Nat × Text)) {first : Cursor} {others : List Cursor}
    (all : ∀ c ∈ inside, accepts c = true) (stops : Stops accepts rest) (enough : least ≤ inside.length)
    (later : runs next ⟨inside.reverse ++ passed, rest, (index, inside) :: groups⟩ = first :: others) :
    ∃ others', runs (.seq (.group index (.many least accepts)) next) ⟨passed, inside ++ rest, groups⟩ =
      first :: others' := by
  obtain ⟨shorter, split, -⟩ := runs_many_head passed inside rest groups all stops enough
  rw [runs_seq, runs_group, split]
  simp only [List.map_cons, List.flatMap_cons, between_append, later, List.cons_append]
  exact ⟨_, rfl⟩

/-- A lazy repetition first tries the shorter spans, from the least one on. -/
theorem runs_manyLazy {accepts : Char → Bool} {least : Nat} (passed inside rest : Text)
    (groups : List (Nat × Text)) (all : ∀ c ∈ inside, accepts c = true) (enough : least ≤ inside.length) :
    ∃ sooner others, runs (.manyLazy least accepts) ⟨passed, inside ++ rest, groups⟩ =
      sooner ++ ⟨inside.reverse ++ passed, rest, groups⟩ :: others ∧
      ∀ cursor ∈ sooner, ∃ before after, inside = before ++ after ∧ after ≠ [] ∧ least ≤ before.length ∧
        cursor = ⟨before.reverse ++ passed, after ++ rest, groups⟩ := by
  induction least generalizing passed inside with
  | zero =>
      obtain ⟨earlier, -, split, parts⟩ := spans_class accepts groups passed inside rest all
      obtain ⟨others, tail⟩ : ∃ others, spans accepts groups (inside.reverse ++ passed) rest =
          ⟨inside.reverse ++ passed, rest, groups⟩ :: others := by
        cases rest with
        | nil => exact ⟨[], rfl⟩
        | cons c rest => exact ⟨_, rfl⟩
      refine ⟨earlier, others, by simp only [runs, List.drop_zero, split, tail], ?_⟩
      intro cursor member
      obtain ⟨before, after, whole, filled, same⟩ := parts cursor member
      exact ⟨before, after, whole, filled, Nat.zero_le _, same⟩
  | succ least ih =>
      cases inside with
      | nil => cases enough
      | cons c inside =>
          obtain ⟨sooner, others, split, parts⟩ := ih (c :: passed) inside
            (fun d member => all d (List.mem_cons_of_mem c member)) (Nat.le_of_succ_le_succ enough)
          refine ⟨sooner, others, ?_, ?_⟩
          · have step : runs (.manyLazy (least + 1) accepts) ⟨passed, c :: (inside ++ rest), groups⟩ =
                runs (.manyLazy least accepts) ⟨c :: passed, inside ++ rest, groups⟩ := by
              simp only [runs, spans, all c List.mem_cons_self, ↓reduceIte, List.drop_succ_cons]
            rw [List.cons_append, step, split, List.reverse_cons, List.append_assoc, List.singleton_append]
          · intro cursor member
            obtain ⟨before, after, rfl, filled, long, rfl⟩ := parts cursor member
            refine ⟨c :: before, after, rfl, filled, Nat.succ_le_succ long, ?_⟩
            rw [List.reverse_cons, List.append_assoc, List.singleton_append]

/-- The first way through a captured part is the first one after which the rest of the
pattern matches. -/
theorem runs_group_then {index : Nat} {body next : Regex} {start middle finish : Cursor}
    {sooner later others : List Cursor} (ways : runs body start = sooner ++ middle :: later)
    (none : ∀ cursor ∈ sooner,
      runs next { cursor with groups := (index, between start cursor) :: cursor.groups } = [])
    (here : runs next { middle with groups := (index, between start middle) :: middle.groups } =
      finish :: others) :
    ∃ others', runs (.seq (.group index body) next) start = finish :: others' := by
  have passed : (sooner.map fun cursor => { cursor with groups :=
      (index, between start cursor) :: cursor.groups }).flatMap (runs next) = [] := by
    rw [List.flatMap_map, List.flatMap_eq_nil_iff]
    exact none
  rw [runs_seq, runs_group, ways, List.map_append, List.flatMap_append, passed, List.nil_append,
    List.map_cons, List.flatMap_cons, here]
  exact ⟨_, rfl⟩

/-- A lazy repetition takes the first span after which the rest of the pattern matches. -/
theorem runs_lazy_then (index : Nat) (accepts : Char → Bool) (least : Nat) {next : Regex}
    (passed inside rest : Text) (groups : List (Nat × Text)) {first : Cursor} {others : List Cursor}
    (all : ∀ c ∈ inside, accepts c = true) (enough : least ≤ inside.length)
    (sooner : ∀ before after, inside = before ++ after → after ≠ [] → least ≤ before.length →
      runs next ⟨before.reverse ++ passed, after ++ rest, (index, before) :: groups⟩ = [])
    (later : runs next ⟨inside.reverse ++ passed, rest, (index, inside) :: groups⟩ = first :: others) :
    ∃ others', runs (.seq (.group index (.manyLazy least accepts)) next) ⟨passed, inside ++ rest, groups⟩ =
      first :: others' := by
  obtain ⟨shorter, longer, ways, parts⟩ := runs_manyLazy passed inside rest groups all enough
  apply runs_group_then ways
  · intro cursor member
    obtain ⟨before, after, whole, filled, long, rfl⟩ := parts cursor member
    rw [between_append]
    exact sooner before after whole filled long
  · rw [between_append]
    exact later

/-- A repeated class followed by a character outside it matches in at most one
way: up to that character. -/
theorem runs_class_then (accepts : Char → Bool) (stop : Char) (passed inside rest : Text)
    (groups : List (Nat × Text)) (all : ∀ c ∈ inside, accepts c = true)
    (outside : accepts stop = false) (index : Nat) (filled : inside ≠ []) :
    runs (.seq (.group index (.many 1 accepts)) (.char (· == stop)))
        ⟨passed, inside ++ stop :: rest, groups⟩ =
      [⟨stop :: (inside.reverse ++ passed), rest, (index, inside) :: groups⟩] := by
  have stops : Stops accepts (stop :: rest) := by
    intro c head
    cases head
    exact outside
  have enough : 1 ≤ inside.length := List.length_pos_iff.mpr filled
  obtain ⟨shorter, split, parts⟩ := runs_many_head passed inside (stop :: rest) groups all stops enough
  rw [runs_seq, runs_group, split]
  simp only [List.map_cons, List.flatMap_cons, between_append, runs_char_cons, BEq.rfl, ↓reduceIte]
  refine List.append_right_eq_self.mpr (List.flatMap_eq_nil_iff.mpr fun cursor member => ?_)
  obtain ⟨inner, inside', rfl⟩ := List.mem_map.mp member
  obtain ⟨before, after, whole, some, rfl⟩ := parts inner inside'
  obtain ⟨c, after, rfl⟩ := List.exists_cons_of_ne_nil some
  have other : (c == stop) = false := by
    rw [beq_eq_false_iff_ne]
    rintro rfl
    rw [all c (by simp [whole])] at outside
    cases outside
  simp [runs, other]

theorem mem_spans (accepts : Char → Bool) (passed inside rest : Text) (groups : List (Nat × Text))
    (least : Nat) (all : ∀ c ∈ inside, accepts c = true) (enough : least ≤ inside.length) :
    ⟨inside.reverse ++ passed, rest, groups⟩ ∈
      (spans accepts groups passed (inside ++ rest)).drop least := by
  obtain ⟨earlier, length, split, -⟩ := spans_class accepts groups passed inside rest all
  have here : ⟨inside.reverse ++ passed, rest, groups⟩ ∈
      spans accepts groups (inside.reverse ++ passed) rest := by
    cases rest <;> simp [spans]
  rw [split, List.drop_append_of_le_length (by omega)]
  exact List.mem_append_right _ here

theorem mem_runs_many {accepts : Char → Bool} {least : Nat} (passed inside rest : Text)
    (groups : List (Nat × Text)) (all : ∀ c ∈ inside, accepts c = true)
    (enough : least ≤ inside.length) :
    ⟨inside.reverse ++ passed, rest, groups⟩ ∈
      runs (.many least accepts) ⟨passed, inside ++ rest, groups⟩ :=
  List.mem_reverse.mpr (mem_spans accepts passed inside rest groups least all enough)

theorem mem_runs_any (passed inside rest : Text) (groups : List (Nat × Text)) :
    ⟨inside.reverse ++ passed, rest, groups⟩ ∈
      runs (.manyLazy 0 anyChar) ⟨passed, inside ++ rest, groups⟩ :=
  mem_spans anyChar passed inside rest groups 0 (fun _ _ => rfl) (Nat.zero_le _)

theorem mem_runs_literal (s passed rest : Text) (groups : List (Nat × Text)) :
    ⟨s.reverse ++ passed, rest, groups⟩ ∈ runs (literal s) ⟨passed, s ++ rest, groups⟩ := by
  rw [runs_literal, if_pos (List.isPrefixOf_iff_prefix.mpr (List.prefix_append s rest)), List.drop_left]
  exact List.mem_singleton_self _

theorem mem_runs_seq {first second : Regex} {start middle finish : Cursor}
    (here : middle ∈ runs first start) (later : finish ∈ runs second middle) :
    finish ∈ runs (.seq first second) start :=
  List.mem_flatMap.mpr ⟨middle, here, later⟩

/-- Of the positions at which the pattern does not run, the first one and those behind it. -/
theorem runs_absent_cons {pattern : Regex} {passed kept rest : Text} {c : Char}
    (absent : ∀ before after, c :: kept = before ++ after → after ≠ [] →
      runs pattern ⟨before.reverse ++ passed, after ++ rest, []⟩ = []) :
    runs pattern ⟨passed, c :: (kept ++ rest), []⟩ = [] ∧
      ∀ before after, kept = before ++ after → after ≠ [] →
        runs pattern ⟨before.reverse ++ c :: passed, after ++ rest, []⟩ = [] := by
  refine ⟨absent [] (c :: kept) rfl (List.cons_ne_nil _ _), ?_⟩
  intro before after split filled
  have moved := absent (c :: before) after (by rw [split, List.cons_append]) filled
  simpa using moved

/-- Positions at which the pattern does not run are passed. -/
theorem findallFrom_passed (pattern : Regex) (passed kept rest : Text)
    (absent : ∀ before after, kept = before ++ after → after ≠ [] →
      runs pattern ⟨before.reverse ++ passed, after ++ rest, []⟩ = []) :
    findallFrom pattern 0 passed (kept ++ rest) =
      findallFrom pattern 0 (kept.reverse ++ passed) rest := by
  induction kept generalizing passed with
  | nil => rfl
  | cons c kept ih =>
      obtain ⟨here, behind⟩ := runs_absent_cons absent
      have later := ih (c :: passed) behind
      rw [List.cons_append, findallFrom]
      simp only [hits, here, List.nil_append, Nat.zero_sub]
      rw [later]
      simp

theorem findallFrom_skip (pattern : Regex) (passed skipped rest : Text) :
    findallFrom pattern skipped.length passed (skipped ++ rest) =
      findallFrom pattern 0 (skipped.reverse ++ passed) rest := by
  induction skipped generalizing passed with
  | nil => rfl
  | cons c skipped ih =>
      rw [List.cons_append, List.length_cons, findallFrom, ih]
      simp

/-- A position at which the pattern first runs over `matched` gives one match. -/
theorem findallFrom_match (pattern : Regex) (passed matched rest : Text)
    (groups : List (Nat × Text)) (others : List Cursor) (filled : matched ≠ [])
    (run : runs pattern ⟨passed, matched ++ rest, []⟩ =
      ⟨matched.reverse ++ passed, rest, groups⟩ :: others) :
    findallFrom pattern 0 passed (matched ++ rest) =
      ⟨matched.reverse ++ passed, rest, groups⟩ ::
        findallFrom pattern 0 (matched.reverse ++ passed) rest := by
  cases matched with
  | nil => exact absurd rfl filled
  | cons c tail =>
      have length : ((c :: tail).reverse ++ passed).length - passed.length = tail.length + 1 := by
        simp only [List.length_append, List.length_reverse, List.length_cons]
        omega
      rw [List.cons_append, findallFrom]
      rw [List.cons_append] at run
      simp only [hits, run, length, Nat.add_one_ne_zero, ↓reduceIte,
        List.singleton_append, Nat.add_sub_cancel]
      rw [findallFrom_skip]
      simp

/-- A search succeeds exactly when the pattern runs from some position. -/
theorem found_iff (pattern : Regex) (s : Text) :
    found pattern s = true ↔
      ∃ before after, s = before ++ after ∧ runs pattern ⟨before.reverse, after, []⟩ ≠ [] := by
  suffices general : ∀ passed, (searchFrom pattern passed s).isSome = true ↔
      ∃ before after, s = before ++ after ∧
        runs pattern ⟨before.reverse ++ passed, after, []⟩ ≠ [] by
    simpa [found, search] using general []
  induction s with
  | nil =>
      intro passed
      rw [searchFrom]
      constructor
      · intro some
        refine ⟨[], [], rfl, fun none => ?_⟩
        rw [List.reverse_nil, List.nil_append] at none
        simp [none] at some
      · rintro ⟨before, after, split, run⟩
        obtain ⟨rfl, rfl⟩ := List.append_eq_nil_iff.mp split.symm
        simpa [Option.isSome_iff_ne_none] using run
  | cons c rest ih =>
      intro passed
      rw [searchFrom]
      split
      · rename_i finish others here
        refine ⟨fun _ => ⟨[], c :: rest, rfl, ?_⟩, fun _ => rfl⟩
        rw [List.reverse_nil, List.nil_append, here]
        exact List.cons_ne_nil _ _
      · rename_i nothing
        rw [ih (c :: passed)]
        constructor
        · rintro ⟨before, after, split, run⟩
          refine ⟨c :: before, after, by rw [split, List.cons_append], ?_⟩
          simpa using run
        · rintro ⟨before, after, split, run⟩
          cases before with
          | nil =>
              rw [List.nil_append] at split
              subst split
              exact absurd nothing run
          | cons d before =>
              rw [List.cons_append] at split
              obtain ⟨rfl, tail⟩ := List.cons.inj split
              exact ⟨before, after, tail, by simpa using run⟩

/-- One way to match somewhere makes a search succeed. -/
theorem found_of_mem {pattern : Regex} {before after : Text} {finish : Cursor}
    (run : finish ∈ runs pattern ⟨before.reverse, after, []⟩) : found pattern (before ++ after) = true :=
  (found_iff pattern _).mpr ⟨before, after, rfl, List.ne_nil_of_mem run⟩

theorem hits_fst_eq_nil (pattern : Regex) (passed ahead : Text) :
    (hits pattern passed ahead).1 = [] ↔ runs pattern ⟨passed, ahead, []⟩ = [] := by
  unfold hits
  dsimp only
  split
  · rename_i none
    simp [none]
  · rename_i first others some
    rw [some]
    split
    · split <;> simp
    · simp

/-- There is a match exactly when a search succeeds. -/
theorem findall_ne_nil (pattern : Regex) (s : Text) :
    findall pattern s ≠ [] ↔ found pattern s = true := by
  suffices general : ∀ passed, findallFrom pattern 0 passed s ≠ [] ↔
      (searchFrom pattern passed s).isSome = true by
    exact general []
  induction s with
  | nil =>
      intro passed
      rw [findallFrom, searchFrom, ne_eq, hits_fst_eq_nil, List.isSome_head?]
  | cons c rest ih =>
      intro passed
      rw [findallFrom, searchFrom]
      split
      · rename_i finish others here
        have match_ : (hits pattern passed (c :: rest)).1 ≠ [] := by
          rw [ne_eq, hits_fst_eq_nil, here]
          simp
        simp [match_]
      · rename_i here
        have nothing := (hits_fst_eq_nil pattern passed (c :: rest)).mpr here
        have skip : (hits pattern passed (c :: rest)).2 = 0 := by
          simp [hits, here]
        rw [nothing, skip, List.nil_append]
        exact ih (c :: passed)

/-- Capturing a part does not change whether what follows it matches. -/
theorem runs_group_char_eq_nil (index : Nat) (body : Regex) (accepts : Char → Bool)
    (start : Cursor) :
    runs (.seq (.group index body) (.char accepts)) start = [] ↔
      runs (.seq body (.char accepts)) start = [] := by
  have same (finish : Cursor) (groups : List (Nat × Text)) :
      runs (.char accepts) { finish with groups := groups } = [] ↔
        runs (.char accepts) finish = [] := by
    obtain ⟨passed, ahead, captured⟩ := finish
    cases ahead with
    | nil => simp
    | cons c rest => simp only [runs_char_cons, ite_eq_right_iff]; simp
  simp only [runs_seq, runs_group, List.flatMap_map, List.flatMap_eq_nil_iff, same]

/-- Positions at which the pattern does not run are passed. -/
theorem searchFrom_passed (pattern : Regex) (passed kept rest : Text)
    (absent : ∀ before after, kept = before ++ after → after ≠ [] →
      runs pattern ⟨before.reverse ++ passed, after ++ rest, []⟩ = []) :
    searchFrom pattern passed (kept ++ rest) = searchFrom pattern (kept.reverse ++ passed) rest := by
  induction kept generalizing passed with
  | nil => rfl
  | cons c kept ih =>
      obtain ⟨here, behind⟩ := runs_absent_cons absent
      have later := ih (c :: passed) behind
      rw [List.cons_append, searchFrom, here]
      dsimp only
      rw [later]
      simp

theorem searchFrom_here {pattern : Regex} {passed ahead : Text} {finish : Cursor} {others : List Cursor}
    (run : runs pattern ⟨passed, ahead, []⟩ = finish :: others) :
    searchFrom pattern passed ahead = some finish := by
  cases ahead with
  | nil => rw [searchFrom, run, List.head?_cons]
  | cons c rest => rw [searchFrom, run]

/-- The first way through a sequence goes through the first way of its first part. -/
theorem runs_seq_first {first second : Regex} {start middle finish : Cursor}
    {others others' : List Cursor} (here : runs first start = middle :: others)
    (later : runs second middle = finish :: others') :
    ∃ rest, runs (.seq first second) start = finish :: rest := by
  rw [runs_seq, here, List.flatMap_cons, later]
  exact ⟨_, rfl⟩

theorem runs_literal_append (s passed rest : Text) (groups : List (Nat × Text)) :
    runs (literal s) ⟨passed, s ++ rest, groups⟩ = [⟨s.reverse ++ passed, rest, groups⟩] := by
  rw [runs_literal, if_pos (List.isPrefixOf_iff_prefix.mpr (List.prefix_append s rest)), List.drop_left]

/-- After a run of a class that must be used, the rest of the pattern starts inside
the run or right after it. -/
theorem runs_many_then_nil {accepts : Char → Bool} {least : Nat} {next : Regex}
    (passed inside rest : Text) (groups : List (Nat × Text)) (all : ∀ c ∈ inside, accepts c = true)
    (stops : Stops accepts rest)
    (none : ∀ before after, inside = before ++ after →
      runs next ⟨before.reverse ++ passed, after ++ rest, groups⟩ = []) :
    runs (.seq (.many least accepts) next) ⟨passed, inside ++ rest, groups⟩ = [] := by
  obtain ⟨earlier, -, split, parts⟩ := spans_class accepts groups passed inside rest all
  rw [runs_seq, List.flatMap_eq_nil_iff]
  intro cursor member
  have listed : cursor ∈ earlier ++ [⟨inside.reverse ++ passed, rest, groups⟩] := by
    rw [← spans_stops stops, ← split]
    exact List.mem_of_mem_drop (List.mem_reverse.mp member)
  rcases List.mem_append.mp listed with inner | last
  · obtain ⟨before, after, whole, -, same⟩ := parts cursor inner
    rw [same]
    exact none before after whole
  · rw [List.mem_singleton.mp last]
    exact none inside [] (List.append_nil inside).symm

theorem runs_classes {each : List (Char → Bool)} {next : Regex} {passed ahead : Text}
    {groups : List (Nat × Text)} :
    runs (classes each next) ⟨passed, ahead, groups⟩ ≠ [] ↔
      ∃ front rest, ahead = front ++ rest ∧ fits each front = true ∧
        runs next ⟨front.reverse ++ passed, rest, groups⟩ ≠ [] := by
  induction each generalizing passed ahead with
  | nil =>
      constructor
      · intro some
        exact ⟨[], ahead, rfl, rfl, some⟩
      · rintro ⟨front, rest, rfl, fit, some⟩
        cases front with
        | nil => exact some
        | cons c front => cases fit
  | cons accepts each ih =>
      change runs (.seq (.char accepts) (classes each next)) _ ≠ [] ↔ _
      cases ahead with
      | nil =>
          rw [runs_seq, runs_char_nil]
          constructor
          · intro some
            exact absurd rfl some
          · rintro ⟨front, rest, split, fit, -⟩
            rw [(List.append_eq_nil_iff.mp split.symm).1] at fit
            cases fit
      | cons c ahead =>
          rw [runs_seq, runs_char_cons]
          by_cases here : accepts c = true
          · rw [if_pos here, List.flatMap_cons, List.flatMap_nil, List.append_nil, ih]
            constructor
            · rintro ⟨front, rest, rfl, fit, some⟩
              refine ⟨c :: front, rest, rfl, ?_, by simpa using some⟩
              rw [fits, here, fit]
              rfl
            · rintro ⟨front, rest, split, fit, some⟩
              cases front with
              | nil => cases fit
              | cons d front =>
                  rw [List.cons_append, List.cons.injEq] at split
                  rw [fits, Bool.and_eq_true] at fit
                  exact ⟨front, rest, split.2, fit.2, by simpa [split.1] using some⟩
          · rw [if_neg here, List.flatMap_nil]
            constructor
            · intro some
              exact absurd rfl some
            · rintro ⟨front, rest, split, fit, -⟩
              cases front with
              | nil => cases fit
              | cons d front =>
                  rw [List.cons_append, List.cons.injEq] at split
                  rw [fits, Bool.and_eq_true, ← split.1] at fit
                  exact absurd fit.1 here

theorem length_of_fits {each : List (Char → Bool)} {s : Text} (fit : fits each s = true) :
    s.length = each.length := by
  fun_induction fits each s with
  | case1 => rfl
  | case2 accepts each c s ih =>
      rw [Bool.and_eq_true] at fit
      rw [List.length_cons, List.length_cons, ih fit.2]
  | case3 => cases fit

/-- A span is a run of the class. -/
theorem mem_spans_iff {accepts : Char → Bool} {groups : List (Nat × Text)} {passed ahead : Text}
    {cursor : Cursor} :
    cursor ∈ spans accepts groups passed ahead ↔
      ∃ front rest, ahead = front ++ rest ∧ (∀ c ∈ front, accepts c = true) ∧
        cursor = ⟨front.reverse ++ passed, rest, groups⟩ := by
  constructor
  · intro member
    induction ahead generalizing passed with
    | nil =>
        rw [spans, List.mem_singleton] at member
        exact ⟨[], [], rfl, by simp, member⟩
    | cons c ahead ih =>
        rw [spans, List.mem_cons] at member
        rcases member with rfl | later
        · exact ⟨[], c :: ahead, rfl, by simp, rfl⟩
        · split at later
          · rename_i here
            obtain ⟨front, rest, rfl, all, rfl⟩ := ih later
            refine ⟨c :: front, rest, rfl, List.forall_mem_cons.mpr ⟨here, all⟩, ?_⟩
            rw [List.reverse_cons, List.append_assoc, List.singleton_append]
          · cases later
  · rintro ⟨front, rest, rfl, all, rfl⟩
    exact mem_spans accepts passed front rest groups 0 all (Nat.zero_le _)

theorem runs_dollar {passed ahead : Text} {groups : List (Nat × Text)} :
    runs dollar ⟨passed, ahead, groups⟩ ≠ [] ↔ ahead = [] ∨ ahead = ['\n'] := by
  match ahead with
  | [] => simp [dollar, runs]
  | [c] => by_cases feed : c = '\n' <;> simp [dollar, runs, feed]
  | c :: d :: rest => by_cases feed : c = '\n' <;> simp [dollar, runs, feed]

end Regex

end PyRegex
