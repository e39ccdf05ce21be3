import Mathlib.Data.List.Chain
import QuantumSafe.StaticSak

set_option autoImplicit false

/- `parse_daemon_quadra_status` of `lab/test_macsec_qkd.py`, on the tables that
`show daemon quadra` prints. -/
namespace QuantumSafe.DaemonStatus

open PyText PyRegex
open QuantumSafe.StaticSak (notNewline)

/-- `[a-z]` with `re.IGNORECASE`: the ASCII letters and four others. -/
def letterIgnoringCase (c : Char) : Bool :=
  c.isAlpha || c.toNat == 0x130 || c.toNat == 0x131 || c.toNat == 0x17f || c.toNat == 0x212a

/-- `[a-z0-9 ]` with `re.IGNORECASE`. -/
def fieldChar (c : Char) : Bool := letterIgnoringCase c || c.isDigit || c == ' '

/-- `(.+?)\s*$`. -/
def fieldValueRe : Regex :=
  .seq (.group 2 (.manyLazy 1 notNewline)) (.seq (.many 0 isSpace) Regex.dollar)

/-- `STATUS_FIELD_RE`: `^([a-z][a-z0-9 ]+?)\s{2,}(.+?)\s*$`. -/
def statusFieldRe : Regex :=
  .seq .lineStart (.seq (.group 1 (.seq (.char letterIgnoringCase) (.manyLazy 1 fieldChar)))
    (.seq (.many 2 isSpace) fieldValueRe))

/-- `status[key] = value`: a new key goes to the end. -/
def setItem (status : List (Text × Text)) (key value : Text) : List (Text × Text) :=
  if status.any fun item => item.1 == key then
    status.map fun item => if item.1 == key then (key, value) else item
  else status ++ [(key, value)]

/-- The local variables of the loop. -/
structure Reading where
  status : List (Text × Text)
  currentKey : Option Text
deriving DecidableEq

/-- One line of the table. -/
def Reading.next (reading : Reading) (line : Text) : Reading :=
  let stripped := rstrip line
  if stripped.isEmpty then { reading with currentKey := none }
  else if startswith stripped (text "----") then reading
  else if startswith stripped (text "Data ") && contains (text "Value") stripped then reading
  else
    match Regex.matchStart statusFieldRe stripped with
    | some finish =>
        let key := lower (strip (finish.group 1))
        ⟨setItem reading.status key (strip (finish.group 2)), some key⟩
    | none =>
        match reading.currentKey with
        | none => reading
        | some key =>
            if startswith line (text " ") then
              -- The current key is always in the dictionary.
              let value := (reading.status.lookup key).getD []
              { reading with status := setItem reading.status key (value ++ ' ' :: strip stripped) }
            else reading

def parseDaemonQuadraStatus (s : Text) : List (Text × Text) :=
  let rest := if contains (text "Status:") s then splitTail (text "Status:") s else s
  ((splitlines rest).foldl Reading.next ⟨[], none⟩).status

/- Printed tables. -/

def wordChar (c : Char) : Bool := c.isLower || c.isDigit

/-- Words of lower-case letters and digits, joined by single spaces. -/
structure StatusKey where
  words : List Text
  filled : ∀ word ∈ words, word ≠ []
  wordChars : ∀ word ∈ words, ∀ c ∈ word, wordChar c = true
  letter : ∀ c, (join [' '] words).head? = some c → c.isLower = true
  long : 2 ≤ (join [' '] words).length

def StatusKey.text (key : StatusKey) : Text := join [' '] key.words

/-- Text on one line, without white space at its ends. -/
structure Solid (s : Text) : Prop where
  filled : s ≠ []
  front : ∀ c, s.head? = some c → isSpace c = false
  back : ∀ c, s.getLast? = some c → isSpace c = false
  oneLine : Unbroken s

abbrev Chunk := { s : Text // Solid s }

/-- A field: the spaces beyond the two between the columns, and the lines on which its
value goes on, with their indentation beyond one space. -/
structure StatusField where
  key : StatusKey
  gap : Nat
  first : Chunk
  continued : List (Nat × Chunk)

def StatusField.value (field : StatusField) : Text :=
  join [' '] (field.first.val :: field.continued.map fun later => later.2.val)

def spaces (count : Nat) : Text := List.replicate count ' '

def continuedLine (later : Nat × Chunk) : Text := spaces (later.1 + 1) ++ later.2.val

def StatusField.lines (field : StatusField) : List Text :=
  (field.key.text ++ (spaces (field.gap + 2) ++ field.first.val)) :: field.continued.map continuedLine

/-- The titles of the two columns, and the rule below them. -/
inductive Heading where
  | titles (gap : Nat)
  | rule (left gap right : Nat)

def Heading.line : Heading → Text
  | .titles gap => PyText.text "Data" ++ (spaces (gap + 1) ++ PyText.text "Value")
  | .rule left gap right =>
      List.replicate (left + 4) '-' ++ (spaces (gap + 1) ++ List.replicate (right + 1) '-')

/-- The output of the command: what stands before the status table, and the table. -/
structure StatusTable where
  before : Text
  plain : contains (PyText.text "Status:") before = false
  headings : List Heading
  fields : List StatusField
  distinct : (fields.map fun field => field.key.text).Nodup

def StatusTable.lines (table : StatusTable) : List Text :=
  table.headings.map Heading.line ++ table.fields.flatMap StatusField.lines

def StatusTable.text (table : StatusTable) : Text :=
  table.before ++ (PyText.text "Status:\n" ++ unlines (table.lines ++ [[]]))

/- The pattern on a line of a field. -/

/-- Two blanks do not stand at the front. -/
theorem runs_two_blanks_nil {next : Regex} {passed ahead : Text} {groups : List (Nat × Text)} {c : Char}
    {rest : Text} (split : ahead = c :: rest)
    (apart : isSpace c = false ∨ ∃ d later, rest = d :: later ∧ isSpace d = false) :
    Regex.runs (.seq (.many 2 isSpace) next) ⟨passed, ahead, groups⟩ = [] := by
  subst split
  rw [Regex.runs_seq]
  rcases apart with here | ⟨d, later, rfl, there⟩
  · simp [Regex.runs, Regex.spans, here]
  · by_cases here : isSpace c = true <;> simp [Regex.runs, Regex.spans, here, there]

/-- Behind a part of the value, something visible is left. -/
theorem runs_end_nil {passed after : Text} {groups : List (Nat × Text)} (filled : after ≠ [])
    (back : ∀ c, after.getLast? = some c → isSpace c = false) :
    Regex.runs (.seq (.many 0 isSpace) Regex.dollar) ⟨passed, after, groups⟩ = [] := by
  rw [Regex.runs_seq, List.flatMap_eq_nil_iff]
  intro cursor member
  obtain ⟨front, rest, rfl, blank, rfl⟩ := Regex.mem_spans_iff.mp (List.mem_reverse.mp member)
  by_contra ends
  rcases Regex.runs_dollar.mp ends with rfl | rfl
  · rw [List.append_nil] at filled back
    have last := back _ (List.getLast?_eq_some_getLast filled)
    rw [blank _ (List.getLast_mem filled)] at last
    cases last
  · have last := back '\n' (by simp)
    cases last

theorem runs_fieldValueRe {value : Text} (solid : Solid value) (passed : Text)
    (groups : List (Nat × Text)) :
    ∃ others, Regex.runs fieldValueRe ⟨passed, value, groups⟩ =
      ⟨value.reverse ++ passed, [], (2, value) :: groups⟩ :: others := by
  have long : 1 ≤ value.length := List.length_pos_iff.mpr solid.filled
  have inLine : ∀ c ∈ value, notNewline c = true := by
    intro c member
    have plain := solid.oneLine c member
    rw [notNewline, bne_iff_ne]
    rintro rfl
    cases plain
  have sooner (before after : Text) (split : value = before ++ after) (filled : after ≠ [])
      (_ : 1 ≤ before.length) : Regex.runs (.seq (.many 0 isSpace) Regex.dollar)
        ⟨before.reverse ++ passed, after ++ [], (2, before) :: groups⟩ = [] := by
    rw [List.append_nil]
    apply runs_end_nil filled
    intro c last
    apply solid.back
    rw [split, List.getLast?_append, last]
    rfl
  have later : Regex.runs (.seq (.many 0 isSpace) Regex.dollar)
      ⟨value.reverse ++ passed, [], (2, value) :: groups⟩ =
        [⟨value.reverse ++ passed, [], (2, value) :: groups⟩] := rfl
  have whole := Regex.runs_lazy_then 2 notNewline 1 passed value [] groups inLine long sooner later
  rw [List.append_nil] at whole
  exact whole

/-- The columns are taken apart at the blanks between them. -/
theorem runs_gap {value : Text} (solid : Solid value) (gap : Nat) (passed : Text)
    (groups : List (Nat × Text)) :
    ∃ passed' others, Regex.runs (.seq (.many 2 isSpace) fieldValueRe)
      ⟨passed, spaces (gap + 2) ++ value, groups⟩ = ⟨passed', [], (2, value) :: groups⟩ :: others := by
  have blank : ∀ c ∈ spaces (gap + 2), isSpace c = true := by
    intro c member
    rw [List.eq_of_mem_replicate member]
    rfl
  have enough : 2 ≤ (spaces (gap + 2)).length := by
    rw [spaces, List.length_replicate]
    omega
  obtain ⟨shorter, first, -⟩ := Regex.runs_many_head passed (spaces (gap + 2)) value groups blank
    solid.front enough
  obtain ⟨others, found⟩ := runs_fieldValueRe solid ((spaces (gap + 2)).reverse ++ passed) groups
  obtain ⟨rest, whole⟩ := Regex.runs_seq_first first found
  exact ⟨_, rest, whole⟩

/- Keys. -/

theorem isSpace_wordChar {c : Char} (word : wordChar c = true) : isSpace c = false := by
  simp only [wordChar, isLower_eq, Char.isDigit, Bool.or_eq_true, Bool.and_eq_true, decide_eq_true_eq,
    ge_iff_le, UInt32.le_iff_toNat_le] at word
  change 97 ≤ c.toNat ∧ c.toNat ≤ 122 ∨ 48 ≤ c.toNat ∧ c.toNat ≤ 57 at word
  exact isSpace_ascii (by omega) (by omega)

/-- One of two neighbours is visible. -/
abbrev Apart (c d : Char) : Prop := isSpace c = false ∨ isSpace d = false

theorem solid_of_visible {s : Text} (filled : s ≠ []) (visible : ∀ c ∈ s, isSpace c = false) : Solid s :=
  ⟨filled, fun c first => visible c (List.mem_of_mem_head? first),
    fun c last => visible c (List.mem_of_getLast? last),
    unbroken_of_visible visible⟩

theorem isChain_of_visible {s : Text} (visible : ∀ c ∈ s, isSpace c = false) : s.IsChain Apart := by
  induction s with
  | nil => exact .nil
  | cons c s ih =>
      rw [List.isChain_cons]
      exact ⟨fun _ _ => Or.inl (visible c List.mem_cons_self),
        ih fun d member => visible d (List.mem_cons_of_mem c member)⟩

/-- Two solid texts with a space between them. -/
theorem solid_space {first second : Text} (left : Solid first) (right : Solid second) :
    Solid (first ++ ' ' :: second) := by
  obtain ⟨c, more, split⟩ := List.exists_cons_of_ne_nil left.filled
  obtain ⟨last, known⟩ := Option.isSome_iff_exists.mp (List.getLast?_isSome.mpr right.filled)
  refine ⟨by simp, ?_, ?_, ?_⟩
  · intro d front
    apply left.front
    rw [← front, split]
    rfl
  · intro d back
    apply right.back
    rw [← back, List.getLast?_append, List.getLast?_cons, known]
    rfl
  · intro d member
    rcases List.mem_append.mp member with inFirst | rest
    · exact left.oneLine d inFirst
    · rcases List.mem_cons.mp rest with rfl | inSecond
      · rfl
      · exact right.oneLine d inSecond

theorem isChain_space {first second : Text} (right : Solid second) (left : first.IsChain Apart)
    (back : ∀ c, first.getLast? = some c → isSpace c = false) (later : second.IsChain Apart) :
    (first ++ ' ' :: second).IsChain Apart := by
  apply left.append
  · rw [List.isChain_cons]
    exact ⟨fun c front => Or.inr (right.front c front), later⟩
  · intro c last _ _
    exact Or.inl (back c last)

/-- Words joined by single spaces: no two blanks meet. -/
theorem join_words {words : List Text} (some : words ≠ []) (filled : ∀ word ∈ words, word ≠ [])
    (visible : ∀ word ∈ words, ∀ c ∈ word, isSpace c = false) :
    Solid (join [' '] words) ∧ (join [' '] words).IsChain Apart := by
  induction words with
  | nil => exact absurd rfl some
  | cons word words ih =>
      have solid := solid_of_visible (filled word List.mem_cons_self) (visible word List.mem_cons_self)
      have chain := isChain_of_visible (visible word List.mem_cons_self)
      by_cases last : words = []
      · rw [last, join, List.intercalate_singleton]
        exact ⟨solid, chain⟩
      · obtain ⟨solidRest, chainRest⟩ := ih last
          (fun other member => filled other (List.mem_cons_of_mem word member))
          fun other member => visible other (List.mem_cons_of_mem word member)
        rw [join, List.intercalate_cons_of_ne_nil last, List.append_assoc]
        exact ⟨solid_space solid solidRest, isChain_space solidRest chain solid.back chainRest⟩

theorem StatusKey.solid (key : StatusKey) : Solid key.text ∧ key.text.IsChain Apart := by
  apply join_words
  · intro none
    have long := key.long
    rw [none] at long
    exact absurd long (by decide)
  · exact key.filled
  · intro word member c inside
    exact isSpace_wordChar (key.wordChars word member c inside)

theorem StatusKey.cons (key : StatusKey) :
    ∃ c rest, key.text = c :: rest ∧ c.isLower = true ∧ 1 ≤ rest.length := by
  obtain ⟨c, rest, split⟩ := List.exists_cons_of_ne_nil key.solid.1.filled
  have long : 2 ≤ key.text.length := key.long
  refine ⟨c, rest, split, ?_, ?_⟩
  · apply key.letter
    rw [← StatusKey.text, split]
    rfl
  · rw [split, List.length_cons] at long
    omega

theorem StatusKey.chars (key : StatusKey) : ∀ c ∈ key.text, wordChar c = true ∨ c = ' ' := by
  intro c member
  rcases mem_join member with space | ⟨word, listed, inside⟩
  · exact Or.inr (List.mem_singleton.mp space)
  · exact Or.inl (key.wordChars word listed c inside)

theorem fieldChar_of_wordChar {c : Char} (char : wordChar c = true ∨ c = ' ') : fieldChar c = true := by
  rcases char with word | rfl
  · rw [wordChar, Bool.or_eq_true] at word
    rcases word with lower | digit
    · simp [fieldChar, letterIgnoringCase, isAlpha_eq, lower]
    · simp [fieldChar, digit]
  · rfl

/-- Lower-case words stay as they are. -/
theorem StatusKey.lower_text (key : StatusKey) : lower key.text = key.text := by
  have each : ∀ c ∈ key.text, lowerChar c = [c] := by
    intro c member
    have ascii : c.toNat ≤ 122 ∧ ¬ (65 ≤ c.toNat ∧ c.toNat ≤ 90) := by
      rcases key.chars c member with word | rfl
      · simp only [wordChar, isLower_eq, Char.isDigit, Bool.or_eq_true, Bool.and_eq_true,
          decide_eq_true_eq, ge_iff_le, UInt32.le_iff_toNat_le] at word
        change 97 ≤ c.toNat ∧ c.toNat ≤ 122 ∨ 48 ≤ c.toNat ∧ c.toNat ≤ 57 at word
        omega
      · decide
    have dotted : c ≠ Char.ofNat 0x130 := by
      rintro rfl
      exact absurd ascii.1 (by decide)
    have kelvin : c ≠ Char.ofNat 0x212a := by
      rintro rfl
      exact absurd ascii.1 (by decide)
    have notUpper : ¬ (c.val ≥ 'A'.val ∧ c.val ≤ 'Z'.val) := ascii.2
    rw [lowerChar, if_neg dotted, if_neg kelvin, toLower_of_not_upper notUpper]
  rw [lower, List.flatMap_congr each, List.flatMap_singleton']

/-- The blanks between the columns do not start inside the key. -/
theorem StatusKey.runs_inside (key : StatusKey) {next : Regex} {after : Text} (filled : after ≠ [])
    (suffix : after <:+ key.text) (passed rest : Text) (groups : List (Nat × Text)) :
    Regex.runs (.seq (.many 2 isSpace) next) ⟨passed, after ++ rest, groups⟩ = [] := by
  obtain ⟨c, more, rfl⟩ := List.exists_cons_of_ne_nil filled
  apply runs_two_blanks_nil (List.cons_append ..)
  cases more with
  | nil =>
      obtain ⟨before, split⟩ := suffix
      apply Or.inl
      apply key.solid.1.back
      rw [← split, List.getLast?_concat]
  | cons d later =>
      have apart := (List.isChain_cons_cons.mp (key.solid.2.suffix suffix)).1
      rcases apart with here | there
      · exact Or.inl here
      · exact Or.inr ⟨d, later ++ rest, rfl, there⟩

/-- A field's line is read as its key and the first line of its value. -/
theorem matchStart_fieldLine (key : StatusKey) (gap : Nat) {value : Text} (solid : Solid value) :
    ∃ finish, Regex.matchStart statusFieldRe (key.text ++ (spaces (gap + 2) ++ value)) = some finish ∧
      finish.group 1 = key.text ∧ finish.group 2 = value := by
  obtain ⟨c, tail, split, letter, long⟩ := key.cons
  have tailChars : ∀ d ∈ tail, fieldChar d = true := by
    intro d member
    apply fieldChar_of_wordChar
    apply key.chars
    rw [split]
    exact List.mem_cons_of_mem c member
  have first : letterIgnoringCase c = true := by
    simp [letterIgnoringCase, isAlpha_eq, letter]
  obtain ⟨sooner, later, ways, parts⟩ := @Regex.runs_manyLazy fieldChar 1 [c] tail
    (spaces (gap + 2) ++ value) [] tailChars long
  obtain ⟨passed, others, found⟩ := runs_gap solid gap (tail.reverse ++ [c]) [(1, key.text)]
  have body : Regex.runs (.seq (.char letterIgnoringCase) (.manyLazy 1 fieldChar))
      ⟨[], key.text ++ (spaces (gap + 2) ++ value), []⟩ =
        sooner ++ ⟨tail.reverse ++ [c], spaces (gap + 2) ++ value, []⟩ :: later := by
    rw [split, List.cons_append, Regex.runs_seq, Regex.runs_char_cons, if_pos first, List.flatMap_cons,
      List.flatMap_nil, List.append_nil, ways]
  have captured : Regex.between ⟨[], key.text ++ (spaces (gap + 2) ++ value), []⟩
      ⟨tail.reverse ++ [c], spaces (gap + 2) ++ value, []⟩ = key.text := by
    simp [Regex.between, split]
  have inside : ∀ cursor ∈ sooner, Regex.runs (.seq (.many 2 isSpace) fieldValueRe)
      { cursor with groups := (1, Regex.between ⟨[], key.text ++ (spaces (gap + 2) ++ value), []⟩ cursor) ::
        cursor.groups } = [] := by
    intro cursor member
    obtain ⟨before, after, whole, filled, -, rfl⟩ := parts cursor member
    apply key.runs_inside filled
    rw [split, whole]
    exact List.suffix_append (c :: before) after
  rw [← captured] at found
  obtain ⟨rest, whole⟩ := Regex.runs_group_then body inside found
  refine ⟨⟨passed, [], [(2, value), (1, key.text)]⟩, ?_, rfl, rfl⟩
  rw [captured] at whole
  have line : Regex.runs statusFieldRe ⟨[], key.text ++ (spaces (gap + 2) ++ value), []⟩ =
      ⟨passed, [], [(2, value), (1, key.text)]⟩ :: rest := by
    rw [statusFieldRe, Regex.runs_seq]
    change List.flatMap _ [_] = _
    rw [List.flatMap_cons, List.flatMap_nil, List.append_nil, whole]
  rw [Regex.matchStart, line, List.head?_cons]

/- One line after another. -/

section

variable {status : List (Text × Text)} {key : Text}

theorem setItem_new (new : key ∉ status.map Prod.fst) (value : Text) :
    setItem status key value = status ++ [(key, value)] := by
  have absent : (status.any fun item => item.1 == key) = false := by
    rw [List.any_eq_false]
    intro item member same
    apply new
    rw [← beq_iff_eq.mp same]
    exact List.mem_map_of_mem member
  rw [setItem, absent, if_neg (by simp)]

theorem setItem_last (new : key ∉ status.map Prod.fst) (old value : Text) :
    setItem (status ++ [(key, old)]) key value = status ++ [(key, value)] := by
  have kept : status.map (fun item => if item.1 == key then (key, value) else item) = status := by
    have other : ∀ item ∈ status, (if item.1 == key then (key, value) else item) = item := by
      intro item member
      apply if_neg
      rw [beq_iff_eq]
      rintro rfl
      exact new (List.mem_map_of_mem member)
    rw [List.map_congr_left other, List.map_id']
  rw [setItem, if_pos (by simp), List.map_append, kept]
  simp

theorem lookup_last (new : key ∉ status.map Prod.fst) (value : Text) :
    (status ++ [(key, value)]).lookup key = some value := by
  rw [List.lookup_eq_some_iff]
  refine ⟨status, [], rfl, ?_⟩
  intro item member
  rw [bne_iff_ne]
  rintro rfl
  exact new (List.mem_map_of_mem member)

end

theorem rstrip_eq_self {s : Text} (back : ∀ c, s.getLast? = some c → isSpace c = false) : rstrip s = s := by
  rw [rstrip, List.rdropWhile_eq_self_iff]
  intro filled
  simp [back _ (List.getLast?_eq_some_getLast filled)]

theorem Solid.back_append {s : Text} (solid : Solid s) (before : Text) :
    ∀ c, (before ++ s).getLast? = some c → isSpace c = false := by
  intro c last
  apply solid.back
  obtain ⟨d, known⟩ := Option.isSome_iff_exists.mp (List.getLast?_isSome.mpr solid.filled)
  rw [← last, List.getLast?_append, known]
  rfl

theorem Solid.strip_eq {s : Text} (solid : Solid s) : strip s = s := strip_eq_self solid.front solid.back

theorem next_heading (reading : Reading) (heading : Heading) : reading.next heading.line = reading := by
  cases heading with
  | titles gap =>
      have value : Solid (text "Value") := solid_of_visible (by decide) (visible_of_all (by decide))
      have whole : rstrip (Heading.titles gap).line = (Heading.titles gap).line := by
        apply rstrip_eq_self
        rw [Heading.line, ← List.append_assoc]
        exact value.back_append _
      have named : contains (text "Value") (Heading.titles gap).line = true := by
        rw [Heading.line, ← List.append_assoc, contains_iff]
        exact (List.suffix_append _ _).isInfix
      rw [Reading.next, whole]
      dsimp only
      rw [named]
      rfl
  | rule left gap right =>
      have dashes : Solid (List.replicate (right + 1) '-') := by
        apply solid_of_visible (by simp)
        intro c member
        rw [List.eq_of_mem_replicate member]
        rfl
      have whole : rstrip (Heading.rule left gap right).line = (Heading.rule left gap right).line := by
        apply rstrip_eq_self
        rw [Heading.line, ← List.append_assoc]
        exact dashes.back_append _
      rw [Reading.next, whole]
      rfl

theorem next_field (reading : Reading) (key : StatusKey) (gap : Nat) {value : Text} (solid : Solid value) :
    reading.next (key.text ++ (spaces (gap + 2) ++ value)) =
      ⟨setItem reading.status key.text value, some key.text⟩ := by
  have whole : rstrip (key.text ++ (spaces (gap + 2) ++ value)) =
      key.text ++ (spaces (gap + 2) ++ value) := by
    apply rstrip_eq_self
    rw [← List.append_assoc]
    exact solid.back_append _
  obtain ⟨finish, matched, first, second⟩ := matchStart_fieldLine key gap solid
  obtain ⟨c, rest, split, letter, -⟩ := key.cons
  have start (d : Char) (more : Text) (other : d.isLower = false) :
      startswith (key.text ++ (spaces (gap + 2) ++ value)) (d :: more) = false := by
    have differs : (d == c) = false := by
      rw [beq_eq_false_iff_ne]
      rintro rfl
      rw [letter] at other
      cases other
    rw [split, List.cons_append, startswith, List.isPrefixOf, differs, Bool.false_and]
  have notRule : startswith (key.text ++ (spaces (gap + 2) ++ value)) (text "----") = false :=
    start '-' (text "---") (by decide)
  have notTitles : startswith (key.text ++ (spaces (gap + 2) ++ value)) (text "Data ") = false :=
    start 'D' (text "ata ") (by decide)
  have filled : (key.text ++ (spaces (gap + 2) ++ value)).isEmpty = false := by
    rw [split]
    rfl
  rw [Reading.next, whole]
  dsimp only
  rw [filled, notRule, notTitles, matched]
  simp only [Bool.false_eq_true, Bool.false_and, ↓reduceIte, first, second, key.solid.1.strip_eq,
    solid.strip_eq, key.lower_text]

/-- A line that starts with a space is not the line of a field. -/
theorem matchStart_space (s : Text) : Regex.matchStart statusFieldRe (' ' :: s) = none := rfl

theorem next_continued {status : List (Text × Text)} {key : Text} (new : key ∉ status.map Prod.fst)
    (value : Text) (later : Nat × Chunk) :
    Reading.next ⟨status ++ [(key, value)], some key⟩ (continuedLine later) =
      ⟨status ++ [(key, value ++ ' ' :: later.2.val)], some key⟩ := by
  have solid := later.2.property
  have whole : rstrip (continuedLine later) = continuedLine later := rstrip_eq_self (solid.back_append _)
  have split : continuedLine later = ' ' :: (spaces later.1 ++ later.2.val) := rfl
  have stripped : strip (continuedLine later) = later.2.val := by
    have blank : ∀ c ∈ spaces (later.1 + 1), isSpace c = true := by
      intro c member
      rw [List.eq_of_mem_replicate member]
      rfl
    have kept := solid.strip_eq
    rw [strip, lstrip, continuedLine, List.dropWhile_append_of_pos blank]
    exact kept
  have noField : Regex.matchStart statusFieldRe (continuedLine later) = none := by
    rw [split]
    exact matchStart_space _
  rw [Reading.next, whole]
  dsimp only
  rw [noField, stripped, lookup_last new, Option.getD_some, setItem_last new, split]
  rfl

/- The whole table. -/

theorem foldl_continued {status : List (Text × Text)} {key : Text} (new : key ∉ status.map Prod.fst)
    (value : Text) (continued : List (Nat × Chunk)) :
    (continued.map continuedLine).foldl Reading.next ⟨status ++ [(key, value)], some key⟩ =
      ⟨status ++ [(key, value ++ continued.flatMap fun later => ' ' :: later.2.val)], some key⟩ := by
  induction continued generalizing value with
  | nil => simp
  | cons later continued ih =>
      rw [List.map_cons, List.foldl_cons, next_continued new, ih, List.flatMap_cons, List.append_assoc]

theorem StatusField.value_eq (field : StatusField) :
    field.value = field.first.val ++ field.continued.flatMap fun later => ' ' :: later.2.val := by
  have tail (first : Text) (rest : List (Nat × Chunk)) :
      join [' '] (first :: rest.map fun later => later.2.val) =
        first ++ rest.flatMap fun later => ' ' :: later.2.val := by
    induction rest generalizing first with
    | nil => simp [join]
    | cons later rest ih =>
        have next := ih later.2.val
        rw [List.map_cons, join, List.intercalate_cons_cons, List.flatMap_cons, List.append_assoc]
        rw [join] at next
        rw [next]
        rfl
  exact tail _ _

/-- The lines of a field add the field at the end, whatever field was read before. -/
theorem foldl_field {status : List (Text × Text)} (field : StatusField)
    (new : field.key.text ∉ status.map Prod.fst) (current : Option Text) :
    field.lines.foldl Reading.next ⟨status, current⟩ =
      ⟨status ++ [(field.key.text, field.value)], some field.key.text⟩ := by
  rw [StatusField.lines, List.foldl_cons, next_field _ _ _ field.first.property, setItem_new new,
    foldl_continued new, field.value_eq]

theorem foldl_fields {status : List (Text × Text)} (fields : List StatusField)
    (distinct : (fields.map fun field => field.key.text).Nodup)
    (new : ∀ field ∈ fields, field.key.text ∉ status.map Prod.fst) (current : Option Text) :
    ((fields.flatMap StatusField.lines).foldl Reading.next ⟨status, current⟩).status =
      status ++ fields.map fun field => (field.key.text, field.value) := by
  induction fields generalizing status current with
  | nil => simp
  | cons field fields ih =>
      rw [List.map_cons, List.nodup_cons] at distinct
      have later : ∀ other ∈ fields,
          other.key.text ∉ (status ++ [(field.key.text, field.value)]).map Prod.fst := by
        intro other member
        rw [List.map_append, List.mem_append, not_or]
        refine ⟨new other (List.mem_cons_of_mem field member), ?_⟩
        intro inside
        have same : other.key.text = field.key.text := List.mem_singleton.mp inside
        apply distinct.1
        rw [← same]
        exact List.mem_map_of_mem member
      rw [List.flatMap_cons, List.foldl_append, foldl_field field (new field List.mem_cons_self),
        ih distinct.2 later, List.append_assoc]
      rfl

theorem foldl_headings (headings : List Heading) (reading : Reading) :
    (headings.map Heading.line).foldl Reading.next reading = reading := by
  induction headings with
  | nil => rfl
  | cons heading headings ih => rw [List.map_cons, List.foldl_cons, next_heading, ih]

theorem unbroken_lines (table : StatusTable) : ∀ line ∈ table.lines, Unbroken line := by
  intro line member
  rcases List.mem_append.mp member with inHeadings | inFields
  · obtain ⟨heading, -, rfl⟩ := List.mem_map.mp inHeadings
    cases heading with
    | titles gap =>
        have left : Unbroken (text "Data") := unbroken_of_visible (visible_of_all (by decide))
        have right : Unbroken (text "Value") := unbroken_of_visible (visible_of_all (by decide))
        exact unbroken_append left (unbroken_append (unbroken_replicate _ rfl) right)
    | rule left gap right =>
        exact unbroken_append (unbroken_replicate _ rfl)
          (unbroken_append (unbroken_replicate _ rfl) (unbroken_replicate _ rfl))
  · obtain ⟨field, -, inField⟩ := List.mem_flatMap.mp inFields
    rcases List.mem_cons.mp inField with rfl | continued
    · exact unbroken_append field.key.solid.1.oneLine
        (unbroken_append (unbroken_replicate _ rfl) field.first.property.oneLine)
    · obtain ⟨later, -, rfl⟩ := List.mem_map.mp continued
      exact unbroken_append (unbroken_replicate _ rfl) later.2.property.oneLine

/-- The text is cut behind the first `Status:`. -/
theorem cut_text (table : StatusTable) :
    cut (text "Status:") table.text = some (table.before, '\n' :: unlines (table.lines ++ [[]])) := by
  have absent : 'S' ∉ text "tatus:" := by decide
  have behind := cut_append_head absent (cut_eq_none_iff.mpr table.plain)
    (text "tatus:\n" ++ unlines (table.lines ++ [[]]))
  have here : cut (text "Status:") (text "Status:\n" ++ unlines (table.lines ++ [[]])) =
      some ([], '\n' :: unlines (table.lines ++ [[]])) := cut_here (by decide) _
  have shown : cut (text "Status:") table.text =
      (cut (text "Status:") (text "Status:\n" ++ unlines (table.lines ++ [[]]))).map
        fun parts => (table.before ++ parts.1, parts.2) := behind
  rw [shown, here, Option.map_some, List.append_nil]

/-- The printed fields are read back, in their order. -/
theorem parseDaemonQuadraStatus_text (table : StatusTable) :
    parseDaemonQuadraStatus table.text = table.fields.map fun field => (field.key.text, field.value) := by
  have behind := cut_text table
  have found : contains (text "Status:") table.text = true := contains_of_cut behind
  have rest : splitTail (text "Status:") table.text = [] ++ '\n' :: unlines (table.lines ++ [[]]) :=
    splitTail_of_cut behind
  have lines : splitlines ([] ++ '\n' :: unlines (table.lines ++ [[]])) = [] :: table.lines := by
    rw [splitlines_line [] _ (by simp [Unbroken]), splitlines_unlines _ (unbroken_lines table)]
  rw [parseDaemonQuadraStatus, if_pos found, rest, lines, List.foldl_cons, StatusTable.lines,
    List.foldl_append, foldl_headings]
  exact foldl_fields table.fields table.distinct (by simp) none

example : parseDaemonQuadraStatus (text "Agent: quadra\nStatus:\nData  Value\n----- -----\nip    a  b\n   c\n") =
    [(text "ip", text "a  b c")] := by decide +kernel

end QuantumSafe.DaemonStatus
