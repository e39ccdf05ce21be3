import QuantumSafe.TextLines

set_option autoImplicit false

/- The words of a simple command, as a POSIX shell recognises them. -/
namespace ShellWords

open PyText

/-- `<blank>`. -/
def isBlank (c : Char) : Bool := c == ' ' || c == '\t'

/-- The characters that start an expansion, inside double quotes too. -/
def expands (c : Char) : Bool := c == '$' || c == '\x60'

/-- The characters that, unquoted, start an expansion or a pattern, or are operators. -/
def special (c : Char) : Bool :=
  expands c || c == '\n' || c == '|' || c == '&' || c == ';' || c == '<' || c == '>' || c == '(' ||
    c == ')' || c == '*' || c == '?' || c == '['

/-- Where the scan stands. In `opened`, a backslash may turn out to join two lines
between words. -/
inductive Mode where
  | between
  | opened
  | word
  | escaped
  | single
  | double
  | doubleEscaped
deriving DecidableEq

def wordStep (c : Char) : Option (Mode × Text) :=
  if c == '\'' then some (.single, [])
  else if c == '"' then some (.double, [])
  else if c == '\\' then some (.escaped, [])
  else if special c then none
  else some (.word, [c])

/-- The next mode, and what a character adds to the word. There is none where the words
depend on more than the text. -/
def step : Mode → Char → Option (Mode × Text)
  | .between, c =>
      if isBlank c then some (.between, [])
      else if c == '#' || c == '~' then none
      else if c == '\\' then some (.opened, [])
      else wordStep c
  | .opened, c => if c == '\n' then some (.between, []) else some (.word, [c])
  | .word, c => if isBlank c then some (.between, []) else wordStep c
  | .escaped, c => if c == '\n' then some (.word, []) else some (.word, [c])
  | .single, c => if c == '\'' then some (.word, []) else some (.single, [c])
  | .double, c =>
      if c == '"' then some (.word, [])
      else if c == '\\' then some (.doubleEscaped, [])
      else if expands c then none
      else some (.double, [c])
  | .doubleEscaped, c =>
      if c == '\n' then some (.double, [])
      else if expands c || c == '"' || c == '\\' then some (.double, [c])
      else some (.double, ['\\', c])

def Mode.inWord : Mode → Bool
  | .between => false
  | .opened => false
  | _ => true

/-- The words from one step and the words behind it. In a word, the first of them is its
rest. -/
def attach (mode next : Mode) (out : Text) (words : List Text) : List Text :=
  if next.inWord then words.modifyHead (out ++ ·)
  else if mode.inWord then [] :: words
  else words

/-- The words of a text, of which the first has begun in some modes. -/
def split : Mode → Text → Option (List Text)
  | .between, [] => some []
  | .word, [] => some [[]]
  | _, [] => none
  | mode, c :: s =>
      match step mode c with
      | none => none
      | some (next, out) => (split next s).map (attach mode next out)

/-- The words of a command that are fixed by its text. -/
def splitWords (s : Text) : Option (List Text) := split .between s

def blanks (s : Text) : Nat := s.countP isBlank

theorem blanks_append (first second : Text) : blanks (first ++ second) = blanks first + blanks second :=
  List.countP_append

theorem split_cons (mode : Mode) (c : Char) (s : Text) :
    split mode (c :: s) = (step mode c).bind fun next => (split next.1 s).map (attach mode next.1 next.2) := by
  cases mode <;> simp only [split] <;> cases step _ c <;> rfl

theorem split_cons_eq_some {mode : Mode} {c : Char} {s : Text} {words : List Text} :
    split mode (c :: s) = some words ↔
      ∃ next out later, step mode c = some (next, out) ∧ split next s = some later ∧
        words = attach mode next out later := by
  rw [split_cons, Option.bind_eq_some_iff]
  constructor
  · rintro ⟨⟨next, out⟩, stepped, rest⟩
    obtain ⟨later, read, rfl⟩ := Option.map_eq_some_iff.mp rest
    exact ⟨next, out, later, stepped, read, rfl⟩
  · rintro ⟨next, out, later, stepped, read, rfl⟩
    exact ⟨(next, out), stepped, by rw [read, Option.map_some]⟩

theorem split_of_step {mode next : Mode} {c : Char} {out : Text} (stepped : step mode c = some (next, out))
    (s : Text) : split mode (c :: s) = (split next s).map (attach mode next out) := by
  rw [split_cons, stepped, Option.bind_some]

theorem split_inWord {mode next : Mode} {c : Char} {out : Text} (stepped : step mode c = some (next, out))
    (within : next.inWord = true) (s : Text) :
    split mode (c :: s) = (split next s).map (List.modifyHead (out ++ ·)) := by
  rw [split_of_step stepped]
  congr 1
  funext words
  rw [attach, if_pos within]

theorem map_modifyHead (first second : Text) (words : Option (List Text)) :
    (words.map (List.modifyHead (second ++ ·))).map (List.modifyHead (first ++ ·)) =
      words.map (List.modifyHead (first ++ second ++ ·)) := by
  rw [Option.map_map]
  congr 1
  funext words
  cases words with
  | nil => rfl
  | cons word words => simp

theorem map_modifyHead_nil (words : Option (List Text)) :
    words.map (List.modifyHead (([] : Text) ++ ·)) = words := by
  cases words with
  | none => rfl
  | some words => cases words <;> rfl

/- What one character can do. -/

/-- A word is only left over a blank. -/
theorem isBlank_of_step {mode next : Mode} {c : Char} {out : Text} (stepped : step mode c = some (next, out))
    (inside : mode.inWord = true) (outside : next.inWord = false) :
    mode = .word ∧ next = .between ∧ isBlank c = true := by
  cases mode <;> simp only [step, wordStep, Mode.inWord] at stepped inside <;> grind [Mode.inWord]

/-- A character adds no blank but itself. -/
theorem blanks_step {mode next : Mode} {c : Char} {out : Text} (stepped : step mode c = some (next, out)) :
    blanks out ≤ blanks [c] := by
  have backslash : isBlank '\\' = false := rfl
  cases mode <;> simp only [step, wordStep] at stepped <;> grind [blanks]

/-- The backslashes read that may still belong to the word. -/
def Mode.pending : Mode → Nat
  | .doubleEscaped => 1
  | _ => 0

theorem length_step {mode next : Mode} {c : Char} {out : Text} (stepped : step mode c = some (next, out)) :
    out.length + next.pending ≤ 1 + mode.pending := by
  cases mode <;> simp only [step, wordStep] at stepped <;> grind [Mode.pending]

/- Whole texts. -/

theorem ne_nil_of_inWord {mode : Mode} {s : Text} {words : List Text} (read : split mode s = some words)
    (inside : mode.inWord = true) : words ≠ [] := by
  induction s generalizing mode words with
  | nil =>
      cases mode <;> simp [split, Mode.inWord] at read inside
      simp [← read]
  | cons c s ih =>
      obtain ⟨next, out, later, stepped, rest, rfl⟩ := split_cons_eq_some.mp read
      rw [attach]
      split
      · rename_i within
        have filled := ih rest within
        simpa using filled
      · simp

/-- Words and the blanks between them fit into the text. -/
theorem blanks_words_le {mode : Mode} {s : Text} {words : List Text} (read : split mode s = some words) :
    blanks words.flatten + words.length ≤ blanks s + 1 := by
  induction s generalizing mode words with
  | nil =>
      cases mode <;> simp only [split, reduceCtorEq, Option.some.injEq] at read
      · subst read
        decide
      · subst read
        decide
  | cons c s ih =>
      obtain ⟨next, out, later, stepped, rest, rfl⟩ := split_cons_eq_some.mp read
      have behind := ih rest
      have here := blanks_step stepped
      have split : blanks (c :: s) = blanks [c] + blanks s := blanks_append [c] s
      cases within : next.inWord with
      | true =>
          cases later with
          | nil => simp [attach, within, blanks]
          | cons word later =>
              have added : blanks (out ++ word ++ later.flatten) = blanks out + blanks (word ++ later.flatten) := by
                rw [List.append_assoc, blanks, List.countP_append]
                rfl
              simp only [attach, within, ↓reduceIte, List.modifyHead_cons, List.flatten_cons,
                List.length_cons] at behind ⊢
              omega
      | false =>
          cases inside : mode.inWord with
          | true =>
              have blank := (isBlank_of_step stepped inside within).2.2
              have one : blanks [c] = 1 := by simp [blanks, blank]
              simp only [attach, within, inside, Bool.false_eq_true, ↓reduceIte, List.flatten_cons,
                List.nil_append, List.length_cons]
              omega
          | false =>
              simp only [attach, within, inside, Bool.false_eq_true, ↓reduceIte]
              omega

theorem length_attach_le (mode next : Mode) (out : Text) (later : List Text) :
    (attach mode next out later).flatten.length ≤ out.length + later.flatten.length := by
  rw [attach]
  split
  · cases later <;> simp
  · split <;> simp

/-- Reading takes characters away. -/
theorem length_words_le {mode : Mode} {s : Text} {words : List Text} (read : split mode s = some words) :
    words.flatten.length ≤ s.length + mode.pending := by
  induction s generalizing mode words with
  | nil =>
      cases mode <;> simp only [split, reduceCtorEq, Option.some.injEq] at read
      · subst read
        decide
      · subst read
        decide
  | cons c s ih =>
      obtain ⟨next, out, later, stepped, rest, rfl⟩ := split_cons_eq_some.mp read
      have behind := ih rest
      have here := length_step stepped
      have added := length_attach_le mode next out later
      rw [List.length_cons]
      omega

/-- A blank behind complete words closes the last of them. -/
theorem split_append_blank {mode : Mode} {s : Text} {words : List Text} (read : split mode s = some words)
    {blank : Char} (closes : isBlank blank = true) (rest : Text) :
    split mode (s ++ blank :: rest) = (split .between rest).map (words ++ ·) := by
  induction s generalizing mode words with
  | nil =>
      cases mode <;> simp only [split, reduceCtorEq, Option.some.injEq] at read
      · have stepped : step .between blank = some (.between, []) := by rw [step, if_pos closes]
        rw [← read, List.nil_append, split_of_step stepped]
        rfl
      · have stepped : step .word blank = some (.between, []) := by rw [step, if_pos closes]
        rw [← read, List.nil_append, split_of_step stepped]
        rfl
  | cons c s ih =>
      obtain ⟨next, out, later, stepped, behind, rfl⟩ := split_cons_eq_some.mp read
      rw [List.cons_append, split_of_step stepped, ih behind, Option.map_map]
      congr 1
      funext words
      simp only [Function.comp_apply, attach]
      split
      · rename_i within
        obtain ⟨word, more, rfl⟩ := List.exists_cons_of_ne_nil (ne_nil_of_inWord behind within)
        simp
      · split <;> rfl

/-- Before a further word, the text is cut at a blank. -/
theorem split_cut {mode : Mode} {s : Text} {word : Text} {later : List Text}
    (read : split mode s = some (word :: later)) (more : later ≠ []) :
    ∃ front blank back, s = front ++ blank :: back ∧ isBlank blank = true ∧
      split mode front = some [word] ∧ split .between back = some later := by
  induction s generalizing mode word with
  | nil =>
      cases mode <;> simp [split] at read
      exact absurd read.2 more
  | cons c s ih =>
      obtain ⟨next, out, words, stepped, behind, same⟩ := split_cons_eq_some.mp read
      cases within : next.inWord with
      | true =>
          obtain ⟨first, rest, rfl⟩ := List.exists_cons_of_ne_nil (ne_nil_of_inWord behind within)
          rw [attach, if_pos within, List.modifyHead_cons, List.cons.injEq] at same
          obtain ⟨rfl, rfl⟩ := same
          obtain ⟨front, blank, back, rfl, closes, here, there⟩ := ih behind
          refine ⟨c :: front, blank, back, rfl, closes, ?_, there⟩
          rw [split_of_step stepped, here, Option.map_some, attach, if_pos within, List.modifyHead_cons]
      | false =>
          cases inside : mode.inWord with
          | true =>
              obtain ⟨rfl, rfl, closes⟩ := isBlank_of_step stepped inside within
              rw [attach, if_neg (by simp [within]), if_pos inside, List.cons.injEq] at same
              obtain ⟨rfl, rfl⟩ := same
              exact ⟨[], c, s, rfl, closes, rfl, behind⟩
          | false =>
              rw [attach, if_neg (by simp [within]), if_neg (by simp [inside])] at same
              subst same
              obtain ⟨front, blank, back, rfl, closes, here, there⟩ := ih behind
              refine ⟨c :: front, blank, back, rfl, closes, ?_, there⟩
              rw [split_of_step stepped, here, Option.map_some, attach, if_neg (by simp [within]),
                if_neg (by simp [inside])]

/- Sources of words, joined by spaces. -/

/-- The text that is to be read as a word, and the word. -/
structure Source where
  shown : Text
  word : Text

/-- The text is read as the word. -/
def Source.Reads (source : Source) : Prop := splitWords source.shown = some [source.word]

theorem blanks_cons_blank {blank : Char} (closes : isBlank blank = true) (s : Text) :
    blanks (blank :: s) = blanks s + 1 := List.countP_cons_of_pos closes

theorem join_sources (source : Source) {sources : List Source} (filled : sources ≠ []) :
    join [' '] ((source :: sources).map Source.shown) =
      source.shown ++ ' ' :: join [' '] (sources.map Source.shown) := by
  have more : sources.map Source.shown ≠ [] := by simpa using filled
  rw [List.map_cons, join, List.intercalate_cons_of_ne_nil more, List.append_assoc]
  rfl

theorem blanks_join_le {sources : List Source} (filled : sources ≠ [])
    (fewer : ∀ source ∈ sources, blanks source.shown ≤ blanks source.word) :
    blanks (join [' '] (sources.map Source.shown)) + 1 ≤
      blanks (sources.map Source.word).flatten + sources.length := by
  induction sources with
  | nil => exact absurd rfl filled
  | cons source sources ih =>
      have here := fewer source List.mem_cons_self
      by_cases last : sources = []
      · subst last
        simpa [join, blanks] using here
      · have rest := ih last fun other member => fewer other (List.mem_cons_of_mem source member)
        rw [join_sources source last, blanks_append, blanks_cons_blank rfl, List.map_cons,
          List.flatten_cons, blanks_append, List.length_cons]
        omega

/-- Two cuts of a text at a blank, with as many blanks in front, are one. -/
theorem cut_unique {first second back back' : Text} {blank blank' : Char} (closes : isBlank blank = true)
    (closes' : isBlank blank' = true) (same : first ++ blank :: back = second ++ blank' :: back')
    (even : blanks first = blanks second) : first = second ∧ back = back' := by
  rcases List.append_eq_append_iff.mp same with ⟨between, split, rest⟩ | ⟨between, split, rest⟩
  · cases between with
    | nil =>
        rw [List.append_nil] at split
        exact ⟨split.symm, (List.cons.inj rest).2⟩
    | cons c between =>
        rw [List.cons_append] at rest
        rw [split, ← (List.cons.inj rest).1, blanks_append, blanks_cons_blank closes] at even
        omega
  · cases between with
    | nil =>
        rw [List.append_nil] at split
        exact ⟨split, (List.cons.inj rest).2.symm⟩
    | cons c between =>
        rw [List.cons_append] at rest
        rw [split, ← (List.cons.inj rest).1, blanks_append, blanks_cons_blank closes'] at even
        omega

/-- Sources that show no more blanks than their words have are read as these words iff each
of them is. -/
theorem splitWords_join_iff {sources : List Source} (filled : sources ≠ [])
    (fewer : ∀ source ∈ sources, blanks source.shown ≤ blanks source.word) :
    splitWords (join [' '] (sources.map Source.shown)) = some (sources.map Source.word) ↔
      ∀ source ∈ sources, source.Reads := by
  induction sources with
  | nil => exact absurd rfl filled
  | cons source sources ih =>
      by_cases last : sources = []
      · subst last
        simp [join, Source.Reads]
      · have fewerLater : ∀ other ∈ sources, blanks other.shown ≤ blanks other.word := by
          intro other member
          exact fewer other (List.mem_cons_of_mem source member)
        rw [List.forall_mem_cons, ← ih last fewerLater, join_sources source last, List.map_cons]
        constructor
        · intro read
          have more : sources.map Source.word ≠ [] := by simpa using last
          obtain ⟨front, blank, back, cut, closes, here, there⟩ := split_cut read more
          -- No blank of the text is left over, so the cut is where the space was put.
          have inFront := blanks_words_le here
          have inBack := blanks_words_le there
          have shown := fewer source List.mem_cons_self
          have shownLater := blanks_join_le last fewerLater
          have whole := congrArg blanks cut
          rw [blanks_append, blanks_cons_blank rfl, blanks_append, blanks_cons_blank closes] at whole
          rw [List.flatten_cons, List.flatten_nil, List.append_nil, List.length_singleton] at inFront
          rw [List.length_map] at inBack
          have even : blanks source.shown = blanks front := by omega
          obtain ⟨sameFront, sameBack⟩ := cut_unique rfl closes cut even
          rw [← sameFront] at here
          rw [← sameBack] at there
          exact ⟨here, there⟩
        · intro reads
          obtain ⟨here, there⟩ := reads
          have space : isBlank ' ' = true := rfl
          have joined := split_append_blank here space (join [' '] (sources.map Source.shown))
          rw [splitWords] at there ⊢
          rw [joined, there]
          rfl

/- Single sources. -/

/-- An unquoted character that stands for itself. -/
def plain (c : Char) : Bool :=
  !isBlank c && !special c && c != '\'' && c != '"' && c != '\\'

/-- A text that is a word as it stands. -/
structure PlainWord (s : Text) : Prop where
  filled : s ≠ []
  chars : ∀ c ∈ s, plain c = true
  head : ∀ c, s.head? = some c → c ≠ '#' ∧ c ≠ '~'

theorem step_plain {c : Char} (char : plain c = true) : step .word c = some (.word, [c]) := by
  grind [plain, step, wordStep]

theorem split_plain {s : Text} (chars : ∀ c ∈ s, plain c = true) : split .word s = some [s] := by
  induction s with
  | nil => rfl
  | cons c s ih =>
      have rest := ih fun d member => chars d (List.mem_cons_of_mem c member)
      rw [split_of_step (step_plain (chars c List.mem_cons_self)), rest]
      rfl

/-- A character that is no blank is kept as it is or taken away. -/
theorem wordStep_cases {next : Mode} {c : Char} {out : Text} (visible : isBlank c = false)
    (stepped : wordStep c = some (next, out)) :
    (plain c = true ∧ next = .word ∧ out = [c]) ∨ (out = [] ∧ next.pending = 0) := by
  rw [wordStep] at stepped
  grind [plain, Mode.pending]

theorem step_word {next : Mode} {c : Char} {out : Text} (stepped : step .word c = some (next, out)) :
    (plain c = true ∧ next = .word ∧ out = [c]) ∨ (out = [] ∧ next.pending = 0) := by
  rw [step] at stepped
  split at stepped
  · cases stepped
    exact Or.inr ⟨rfl, rfl⟩
  · rename_i visible
    exact wordStep_cases (Bool.eq_false_iff.mpr visible) stepped

theorem step_between {next : Mode} {c : Char} {out : Text} (stepped : step .between c = some (next, out)) :
    (plain c = true ∧ (c ≠ '#' ∧ c ≠ '~') ∧ next = .word ∧ out = [c]) ∨ (out = [] ∧ next.pending = 0) := by
  rw [step] at stepped
  split at stepped
  · cases stepped
    exact Or.inr ⟨rfl, rfl⟩
  · rename_i visible
    split at stepped
    · cases stepped
    · rename_i head
      split at stepped
      · cases stepped
        exact Or.inr ⟨rfl, rfl⟩
      · rcases wordStep_cases (Bool.eq_false_iff.mpr visible) stepped with ⟨char, word, kept⟩ | gone
        · exact Or.inl ⟨char, by simpa using head, word, kept⟩
        · exact Or.inr gone

/-- A text that loses no character in the reading is plain. -/
theorem plain_of_split {s : Text} {words : List Text} (read : split .word s = some words)
    (kept : s.length ≤ words.flatten.length) : ∀ c ∈ s, plain c = true := by
  induction s generalizing words with
  | nil => simp
  | cons c s ih =>
      obtain ⟨next, out, later, stepped, rest, rfl⟩ := split_cons_eq_some.mp read
      have added := length_attach_le .word next out later
      rcases step_word stepped with ⟨char, rfl, rfl⟩ | ⟨rfl, complete⟩
      · rw [List.length_cons] at kept
        rw [List.length_singleton] at added
        exact List.forall_mem_cons.mpr ⟨char, ih rest (by omega)⟩
      · have behind := length_words_le rest
        rw [List.length_cons] at kept
        rw [List.length_nil] at added
        omega

/-- A text is read as itself iff no character of it means anything else. -/
theorem splitWords_self_iff {s : Text} : splitWords s = some [s] ↔ PlainWord s := by
  constructor
  · intro read
    cases s with
    | nil => cases read
    | cons c s =>
        obtain ⟨next, out, later, stepped, rest, same⟩ := split_cons_eq_some.mp read
        have added := length_attach_le .between next out later
        have whole := congrArg (fun words => words.flatten.length) same
        simp only [List.flatten_cons, List.flatten_nil, List.append_nil, List.length_cons] at whole
        rcases step_between stepped with ⟨char, head, rfl, rfl⟩ | ⟨rfl, complete⟩
        · rw [List.length_singleton] at added
          refine ⟨by simp, List.forall_mem_cons.mpr ⟨char, plain_of_split rest (by omega)⟩, ?_⟩
          intro d first
          cases first
          exact head
        · have behind := length_words_le rest
          rw [List.length_nil] at added
          omega
  · intro word
    cases s with
    | nil => exact absurd rfl word.filled
    | cons c s =>
        have char := word.chars c List.mem_cons_self
        have head := word.head c rfl
        have stepped : step .between c = some (.word, [c]) := by
          grind [plain, step, wordStep]
        rw [splitWords, split_of_step stepped,
          split_plain fun d member => word.chars d (List.mem_cons_of_mem c member)]
        rfl

/- Quoted sources. -/

/-- Between single quotes every character stands for itself. -/
theorem split_single {body : Text} (free : '\'' ∉ body) (rest : Text) :
    split .single (body ++ '\'' :: rest) = (split .word rest).map (List.modifyHead (body ++ ·)) := by
  induction body with
  | nil =>
      have stepped : step .single '\'' = some (.word, []) := rfl
      rw [List.nil_append, split_inWord stepped rfl]
  | cons c body ih =>
      rw [List.mem_cons, not_or] at free
      have stepped : step .single c = some (.single, [c]) := by
        rw [step, if_neg (by simpa using Ne.symm free.1)]
      rw [List.cons_append, split_inWord stepped rfl, ih free.2, map_modifyHead]
      rfl

theorem splitWords_single {body : Text} (free : '\'' ∉ body) (rest : Text) :
    splitWords ('\'' :: (body ++ '\'' :: rest)) = (split .word rest).map (List.modifyHead (body ++ ·)) := by
  have stepped : step .between '\'' = some (.single, []) := rfl
  rw [splitWords, split_inWord stepped rfl, map_modifyHead_nil, split_single free]

end ShellWords
