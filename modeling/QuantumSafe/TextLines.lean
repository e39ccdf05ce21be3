import QuantumSafe.PyText

set_option autoImplicit false

/- Texts as lines joined by line feeds: where a needle or a separator without a
line feed in it is found, and where a text is cut at one. -/
namespace PyText

/-- The part of a text in front of a character decides the prefixes without it. -/
theorem isPrefixOf_append_cons {stop : Char} {needle : Text} (s rest : Text)
    (absent : stop ∉ needle) : needle.isPrefixOf (s ++ stop :: rest) = needle.isPrefixOf s := by
  induction needle generalizing s with
  | nil => simp
  | cons c needle ih =>
      have differs : (c == stop) = false := beq_false_of_ne fun same => absent (by simp [same])
      have later := fun tail => ih tail fun inside => absent (List.mem_cons_of_mem c inside)
      cases s with
      | nil => simp [List.isPrefixOf, differs]
      | cons d s => simp [List.isPrefixOf, later]

theorem contains_append_cons {stop : Char} {needle : Text} (s rest : Text) (absent : stop ∉ needle) :
    contains needle (s ++ stop :: rest) = (contains needle s || contains needle rest) := by
  induction s with
  | nil =>
      have here := isPrefixOf_append_cons [] rest absent
      rw [List.nil_append] at here
      rw [List.nil_append, contains, contains, here]
      cases needle <;> simp [List.isPrefixOf]
  | cons c s ih =>
      have here := isPrefixOf_append_cons (c :: s) rest absent
      rw [List.cons_append] at here
      rw [List.cons_append, contains, contains, here, ih, Bool.or_assoc]

theorem cut_eq_none_iff {sep s : Text} : cut sep s = none ↔ contains sep s = false := by
  induction s with
  | nil => cases sep <;> simp [cut, contains]
  | cons c s ih =>
      by_cases here : sep.isPrefixOf (c :: s) = true
      · simp [cut, contains, here]
      · simp [cut, contains, here, ih]

theorem contains_of_cut {sep s : Text} {parts : Text × Text} (found : cut sep s = some parts) :
    contains sep s = true := by
  rw [← Bool.not_eq_false, ← cut_eq_none_iff, found]
  exact Option.some_ne_none parts

theorem cut_eq_some {sep s before after : Text} (found : cut sep s = some (before, after)) :
    s = before ++ sep ++ after := by
  induction s generalizing before with
  | nil =>
      rw [cut] at found
      split at found
      · rename_i empty
        cases found
        simpa using empty
      · cases found
  | cons c s ih =>
      rw [cut] at found
      split at found
      · rename_i starts
        cases found
        obtain ⟨rest, same⟩ := List.isPrefixOf_iff_prefix.mp starts
        rw [← same, List.drop_left, List.nil_append]
      · obtain ⟨⟨kept, tail⟩, later, same⟩ := Option.map_eq_some_iff.mp found
        cases same
        rw [ih later, List.cons_append, List.cons_append]

theorem splitTail_of_cut {sep s before after : Text} (found : cut sep s = some (before, after)) :
    splitTail sep s = after := by
  rw [splitTail, found]
  rfl

theorem splitHead_of_cut {sep s before after : Text} (found : cut sep s = some (before, after)) :
    splitHead sep s = before := by
  rw [splitHead, found]
  rfl

theorem splitHead_front (sep s : Text) : splitHead sep s <+: s := by
  rw [splitHead]
  cases found : cut sep s with
  | none => exact List.prefix_refl s
  | some parts =>
      rw [cut_eq_some found, List.append_assoc]
      exact List.prefix_append parts.1 _

theorem notContains_of_notMem {needle s : Text} {c : Char} (member : c ∈ needle) (absent : c ∉ s) :
    contains needle s = false := by
  rw [Bool.eq_false_iff, ne_eq, contains_iff]
  intro found
  exact absent (found.subset member)

theorem notContains_of_front {needle s t : Text} (absent : contains needle t = false) (front : s <+: t) :
    contains needle s = false := by
  rw [Bool.eq_false_iff]
  intro found
  obtain ⟨rest, rfl⟩ := front
  rw [contains_append_right rest found] at absent
  cases absent

theorem notContains_line {needle line : Text} (oneLine : '\n' ∉ needle) (filled : needle ≠ [])
    (absent : contains needle line = false) : contains needle (line ++ ['\n']) = false := by
  have empty : contains needle [] = false := by simpa [contains] using filled
  rw [contains_append_cons line [] oneLine, absent, empty]
  rfl

/-- Characters at which no separator starts stay in front of the cut. -/
theorem cut_passed (sep kept rest : Text)
    (absent : ∀ after, after ≠ [] → after <:+ kept → ¬ sep <+: after ++ rest) :
    cut sep (kept ++ rest) = (cut sep rest).map fun parts => (kept ++ parts.1, parts.2) := by
  induction kept with
  | nil => simp
  | cons c kept ih =>
      have notHere : sep.isPrefixOf (c :: (kept ++ rest)) = false := by
        rw [Bool.eq_false_iff, ne_eq, List.isPrefixOf_iff_prefix]
        exact absent (c :: kept) (by simp) (List.suffix_refl _)
      have later := ih fun after filled suffix =>
        absent after filled (suffix.trans (List.suffix_cons c kept))
      rw [List.cons_append, cut, notHere, if_neg (by simp), later, Option.map_map]
      rfl

theorem cut_here {sep : Text} (filled : sep ≠ []) (rest : Text) : cut sep (sep ++ rest) = some ([], rest) := by
  obtain ⟨c, tail, split⟩ := List.exists_cons_of_ne_nil filled
  have starts : sep.isPrefixOf (c :: (tail ++ rest)) = true := by
    rw [List.isPrefixOf_iff_prefix, split]
    exact List.prefix_append (c :: tail) rest
  have whole : sep ++ rest = c :: (tail ++ rest) := by rw [split, List.cons_append]
  rw [whole, cut, if_pos starts, ← whole, List.drop_left]

/-- Blanks in front of a separator are passed. -/
theorem cut_blanks {sep : Text} (head : ∃ c ∈ sep.head?, c ≠ ' ') (blanks : Nat) (after : Text) :
    cut sep (List.replicate blanks ' ' ++ (sep ++ after)) = some (List.replicate blanks ' ', after) := by
  obtain ⟨c, first, other⟩ := head
  obtain ⟨tail, rfl⟩ := List.head?_eq_some_iff.mp first
  rw [cut_passed, cut_here (List.cons_ne_nil c tail), Option.map_some, List.append_nil]
  intro later filled suffix starts
  obtain ⟨d, rest, rfl⟩ := List.exists_cons_of_ne_nil filled
  have blank : d = ' ' := List.eq_of_mem_replicate (suffix.subset List.mem_cons_self)
  rw [List.cons_append, List.cons_prefix_cons, blank] at starts
  exact other starts.1

/-- A separator that has a line feed at its end at most is not found in a line that does
not have it. -/
theorem cut_line {sep line : Text} (single : '\n' ∉ sep.dropLast)
    (absent : contains sep (line ++ ['\n']) = false) (rest : Text) :
    cut sep (line ++ '\n' :: rest) =
      (cut sep rest).map fun parts => (line ++ '\n' :: parts.1, parts.2) := by
  have passed := cut_passed sep (line ++ ['\n']) rest (by
    intro after filled suffix starts
    have within : ¬ sep <+: after := by
      intro within
      rw [(contains_iff _ _).mpr (within.isInfix.trans suffix.isInfix)] at absent
      cases absent
    rcases List.prefix_or_prefix_of_prefix starts (List.prefix_append after rest) with here | beyond
    · exact within here
    · obtain ⟨more, rfl⟩ := beyond
      -- The line feed that `after` ends in is not the last character of the separator.
      have goes : more ≠ [] := by
        rintro rfl
        rw [List.append_nil] at within
        exact within (List.prefix_refl after)
      have feed : '\n' ∈ after := by
        obtain ⟨front, split⟩ := suffix
        have last := congrArg List.getLast? split
        rw [List.getLast?_concat, List.getLast?_append_of_ne_nil _ filled] at last
        exact List.mem_of_getLast? last
      apply single
      rw [List.dropLast_append_of_ne_nil goes]
      exact List.mem_append_left _ feed)
  simpa using passed

theorem splitHead_line {sep line : Text} (single : '\n' ∉ sep.dropLast)
    (absent : contains sep (line ++ ['\n']) = false) (rest : Text) :
    splitHead sep (line ++ '\n' :: rest) = line ++ '\n' :: splitHead sep rest := by
  rw [splitHead, splitHead, cut_line single absent]
  cases cut sep rest <;> rfl

/-- The separator does not occur in front of its first occurrence. -/
theorem notContains_before {sep s before after : Text} (filled : sep ≠ [])
    (found : cut sep s = some (before, after)) : contains sep before = false := by
  induction s generalizing before with
  | nil =>
      rw [cut, if_neg (by simpa using filled)] at found
      cases found
  | cons c s ih =>
      rw [cut] at found
      split at found
      · cases found
        simpa [contains] using filled
      · rename_i absent
        obtain ⟨parts, later, same⟩ := Option.map_eq_some_iff.mp found
        obtain ⟨front, back⟩ := parts
        cases same
        have whole := cut_eq_some later
        rw [contains, ih later, Bool.or_false, Bool.eq_false_iff]
        intro starts
        apply absent
        rw [List.isPrefixOf_iff_prefix] at starts ⊢
        apply starts.trans
        rw [whole, List.append_assoc]
        exact List.prefix_append (c :: front) _

/-- Text behind the first occurrence does not matter. -/
theorem cut_append_of_some {sep s before after : Text} (filled : sep ≠ [])
    (found : cut sep s = some (before, after)) (rest : Text) :
    cut sep (s ++ rest) = some (before, after ++ rest) := by
  induction s generalizing before with
  | nil =>
      rw [cut, if_neg (by simpa using filled)] at found
      cases found
  | cons c s ih =>
      rw [cut] at found
      rw [List.cons_append, cut]
      split at found
      · rename_i starts
        have start := List.isPrefixOf_iff_prefix.mp starts
        cases found
        have starts' : sep.isPrefixOf (c :: (s ++ rest)) = true :=
          List.isPrefixOf_iff_prefix.mpr (start.trans (List.prefix_append (c :: s) rest))
        rw [if_pos starts', ← List.cons_append, List.drop_append_of_le_length start.length_le]
      · rename_i absent
        obtain ⟨parts, later, same⟩ := Option.map_eq_some_iff.mp found
        obtain ⟨front, back⟩ := parts
        cases same
        -- The separator is in `s`, so it is too short to reach into what follows.
        have short : sep.length ≤ (c :: s).length := by
          have whole := congrArg List.length (cut_eq_some later)
          rw [List.length_append, List.length_append] at whole
          rw [List.length_cons]
          omega
        have notHere : ¬ sep.isPrefixOf (c :: (s ++ rest)) = true := by
          intro starts
          apply absent
          rw [List.isPrefixOf_iff_prefix] at starts ⊢
          exact List.prefix_of_prefix_length_le starts (List.prefix_append (c :: s) rest) short
        rw [if_neg notHere, ih later]
        rfl

/-- A separator whose first character stands nowhere else in it does not reach over that
character. -/
theorem cut_append_head {c : Char} {tail s : Text} (absent : c ∉ tail)
    (none : cut (c :: tail) s = none) (rest : Text) :
    cut (c :: tail) (s ++ c :: rest) =
      (cut (c :: tail) (c :: rest)).map fun parts => (s ++ parts.1, parts.2) := by
  apply cut_passed
  intro after filled suffix starts
  obtain ⟨d, more, split⟩ := List.exists_cons_of_ne_nil filled
  rw [split, List.cons_append, List.cons_prefix_cons] at starts
  have inside : tail.isPrefixOf more = true := by
    rw [← isPrefixOf_append_cons more rest absent, List.isPrefixOf_iff_prefix]
    exact starts.2
  have found : contains (c :: tail) s = true := by
    rw [contains_iff]
    apply List.IsInfix.trans _ suffix.isInfix
    rw [split, starts.1]
    exact (List.cons_prefix_cons.mpr ⟨rfl, List.isPrefixOf_iff_prefix.mp inside⟩).isInfix
  rw [cut_eq_none_iff.mp none] at found
  cases found

/-- A separator that goes on is cut where its front is, when what follows there goes on
with it. -/
theorem cut_longer {sep more s before after : Text} (filled : sep ≠ [])
    (found : cut sep s = some (before, more ++ after)) :
    cut (sep ++ more) s = some (before, after) := by
  induction s generalizing before with
  | nil =>
      rw [cut, if_neg (by simpa using filled)] at found
      cases found
  | cons c s ih =>
      rw [cut] at found ⊢
      split at found
      · rename_i starts
        obtain ⟨tail, whole⟩ := List.isPrefixOf_iff_prefix.mp starts
        rw [← whole, List.drop_left] at found
        cases found
        rw [← whole, ← List.append_assoc,
          if_pos (List.isPrefixOf_iff_prefix.mpr (List.prefix_append _ after)), List.drop_left]
      · rename_i absent
        obtain ⟨parts, later, same⟩ := Option.map_eq_some_iff.mp found
        obtain ⟨front, back⟩ := parts
        cases same
        have absent' : ¬ (sep ++ more).isPrefixOf (c :: s) = true := by
          intro starts
          apply absent
          exact List.isPrefixOf_iff_prefix.mpr
            ((List.prefix_append sep more).trans (List.isPrefixOf_iff_prefix.mp starts))
        rw [if_neg absent', ih later]
        rfl

theorem cut_append_cons {stop : Char} {sep : Text} (s rest : Text) (absent : stop ∉ sep)
    (filled : sep ≠ []) :
    cut sep (s ++ stop :: rest) =
      match cut sep s with
      | some parts => some (parts.1, parts.2 ++ stop :: rest)
      | none => (cut sep rest).map fun parts => (s ++ stop :: parts.1, parts.2) := by
  induction s with
  | nil =>
      have here := isPrefixOf_append_cons [] rest absent
      rw [List.nil_append] at here
      obtain ⟨c, tail, rfl⟩ := List.exists_cons_of_ne_nil filled
      simp only [List.nil_append, cut, here]
      simp [List.isPrefixOf]
  | cons c s ih =>
      have here := isPrefixOf_append_cons (c :: s) rest absent
      rw [List.cons_append] at here
      rw [List.cons_append, cut, cut, here]
      by_cases starts : sep.isPrefixOf (c :: s) = true
      · have short : sep.length ≤ (c :: s).length :=
          (List.isPrefixOf_iff_prefix.mp starts).length_le
        rw [if_pos starts, if_pos starts, ← List.cons_append, List.drop_append_of_le_length short]
      · rw [if_neg starts, if_neg starts, ih]
        cases cut sep s with
        | none => cases cut sep rest <;> rfl
        | some parts => rfl

theorem join_append_last (sep : Text) (parts : List Text) (last added : Text) :
    join sep (parts ++ [last]) ++ added = join sep (parts ++ [last ++ added]) := by
  induction parts with
  | nil => simp [join]
  | cons first rest ih =>
      have more : ∀ part, rest ++ [part] ≠ [] := fun part => by simp
      rw [List.cons_append, List.cons_append, join, join, List.intercalate_cons_of_ne_nil (more _),
        List.intercalate_cons_of_ne_nil (more _), List.append_assoc, List.append_assoc]
      rw [join, join] at ih
      rw [ih, List.append_assoc]

theorem rstrip_append_blank {blank : Text} (s : Text) (space : ∀ c ∈ blank, isSpace c = true) :
    rstrip (s ++ blank) = rstrip s := by
  induction blank using List.reverseRecOn with
  | nil => rw [List.append_nil]
  | append_singleton blank c ih =>
      rw [← List.append_assoc, rstrip, List.rdropWhile_concat_pos _ _ _ (space c (by simp))]
      exact ih fun d member => space d (List.mem_append_left _ member)

theorem rstrip_rstrip (s : Text) : rstrip (rstrip s) = rstrip s := List.rdropWhile_idempotent isSpace s

theorem lstrip_blank {c : Char} (rest : Text) (space : isSpace c = true) :
    lstrip (c :: rest) = lstrip rest := List.dropWhile_cons_of_pos space

/-- What `lstrip` leaves does not start with white space. -/
theorem head?_lstrip {s : Text} {c : Char} (head : (lstrip s).head? = some c) : isSpace c = false := by
  have stopped := List.head?_dropWhile_not isSpace s
  rw [show s.dropWhile isSpace = lstrip s from rfl, head] at stopped
  simpa using stopped

theorem notMem_universalNewlines (s : Text) : '\r' ∉ universalNewlines s := by
  fun_induction universalNewlines s with
  | case1 => exact List.not_mem_nil
  | case2 rest ih =>
      intro member
      exact ih ((List.mem_cons.mp member).resolve_left (by decide))
  | case3 c rest notPair ih =>
      intro member
      refine ih ((List.mem_cons.mp member).resolve_left ?_)
      split
      · decide
      · rename_i other
        exact fun same => other same.symm

theorem mem_join_of_mem {sep part : Text} {parts : List Text} {c : Char} (member : part ∈ parts)
    (inside : c ∈ part) : c ∈ join sep parts := by
  induction parts with
  | nil => cases member
  | cons first rest ih =>
      by_cases last : rest = []
      · rw [last, List.mem_singleton] at member
        rw [last, join, List.intercalate_singleton, ← member]
        exact inside
      · rw [join, List.intercalate_cons_of_ne_nil last, List.append_assoc]
        rcases List.mem_cons.mp member with here | later
        · exact List.mem_append_left _ (here ▸ inside)
        · exact List.mem_append_right _ (List.mem_append_right _ (ih later))

/-- Lines joined by line feeds. -/
abbrev unlines (lines : List Text) : Text := join ['\n'] lines

@[simp] theorem unlines_nil : unlines [] = [] := rfl

@[simp] theorem unlines_singleton (line : Text) : unlines [line] = line :=
  List.intercalate_singleton

theorem unlines_cons (line : Text) {rest : List Text} (more : rest ≠ []) :
    unlines (line :: rest) = line ++ '\n' :: unlines rest := by
  obtain ⟨next, rest, rfl⟩ := List.exists_cons_of_ne_nil more
  rw [unlines, join, List.intercalate_cons_cons, List.append_assoc]
  rfl

theorem unlines_append {first second : List Text} (some : first ≠ []) (more : second ≠ []) :
    unlines (first ++ second) = unlines first ++ '\n' :: unlines second := by
  induction first with
  | nil => exact absurd rfl some
  | cons line first ih =>
      by_cases last : first = []
      · subst last
        simpa using unlines_cons line more
      · rw [List.cons_append, unlines_cons line (by simp [last]), unlines_cons line last, ih last,
          List.append_assoc, List.cons_append]

/-- Every text is its pieces between line feeds. -/
theorem unlines_splitOn (s : Text) : unlines (s.splitOn '\n') = s :=
  List.intercalate_splitOn '\n'

/-- The pieces of a joined text are the parts. -/
theorem splitOn_join {stop : Char} {parts : List Text} (absent : ∀ part ∈ parts, stop ∉ part)
    (filled : parts ≠ []) : (join [stop] parts).splitOn stop = parts :=
  List.splitOn_intercalate stop absent filled

theorem splitOn_of_notMem {stop : Char} {s : Text} (absent : stop ∉ s) : s.splitOn stop = [s] := by
  rw [List.splitOn_eq_splitOnP]
  apply List.splitOnP_eq_singleton
  intro c member
  exact beq_false_of_ne fun same => absent (same ▸ member)

/-- A text is cut at the first separator. -/
theorem splitOn_append_cons {stop : Char} {before : Text} (absent : stop ∉ before) (after : Text) :
    (before ++ stop :: after).splitOn stop = before :: after.splitOn stop := by
  have plain := splitOn_of_notMem absent
  have cutHere : (before ++ stop :: after).splitOnP (· == stop) =
      before.splitOnP (· == stop) ++ after.splitOnP (· == stop) :=
    List.splitOnP_append_cons before after (beq_self_eq_true stop)
  rw [List.splitOn_eq_splitOnP] at plain ⊢
  rw [cutHere, plain, List.singleton_append, List.splitOn_eq_splitOnP]

theorem notMem_splitOn (stop : Char) (s : Text) : ∀ piece ∈ s.splitOn stop, stop ∉ piece := by
  induction s with
  | nil => simp
  | cons c s ih =>
      rw [List.splitOn_cons_eq_if_modifyHead]
      split
      · simpa using ih
      · rename_i other
        obtain ⟨first, rest, split⟩ := List.exists_cons_of_ne_nil (List.splitOn_ne_nil stop s)
        rw [split] at ih ⊢
        have differs : stop ≠ c := fun same => other (by simp [same])
        simpa [differs] using ih

/-- A text of lines that is cut behind a line feed is cut between two lines. -/
theorem unlines_split {lines : List Text} {before after : Text}
    (oneLine : ∀ line ∈ lines, '\n' ∉ line) (split : unlines lines = before ++ '\n' :: after) :
    ∃ first second, lines = first ++ second ∧ first ≠ [] ∧ second ≠ [] ∧ unlines second = after := by
  induction lines generalizing before with
  | nil => simp at split
  | cons line rest ih =>
      by_cases last : rest = []
      · subst last
        rw [unlines_singleton] at split
        exact absurd (by simp [split]) (oneLine line (by simp))
      · rw [unlines_cons line last] at split
        rcases List.append_eq_append_iff.mp split with ⟨more, whole, tail⟩ | ⟨more, whole, tail⟩
        · cases more with
          | nil =>
              rw [List.nil_append] at tail
              exact ⟨[line], rest, rfl, by simp, last, (List.cons.inj tail).2⟩
          | cons c more =>
              obtain ⟨-, later⟩ := List.cons.inj tail
              obtain ⟨first, second, same, -, filled, text⟩ :=
                ih (fun l member => oneLine l (List.mem_cons_of_mem line member)) later
              exact ⟨line :: first, second, by rw [same, List.cons_append], by simp, filled, text⟩
        · cases more with
          | nil =>
              rw [List.nil_append] at tail
              exact ⟨[line], rest, rfl, by simp, last, (List.cons.inj tail).2.symm⟩
          | cons c more =>
              obtain ⟨rfl, -⟩ := List.cons.inj tail
              exact absurd (by simp [whole]) (oneLine line (by simp))

/-- What stands in front of lines, up to the last line feed. -/
def linesBefore (lines : List Text) : Text := lines.flatMap fun line => line ++ ['\n']

/-- What stands behind lines, from the first line feed on. -/
def linesAfter (lines : List Text) : Text := lines.flatMap fun line => '\n' :: line

theorem unlines_cons_after (line : Text) (rest : List Text) :
    unlines (line :: rest) = line ++ linesAfter rest := by
  induction rest generalizing line with
  | nil => simp [linesAfter]
  | cons next rest ih =>
      rw [unlines_cons line (by simp), ih]
      simp [linesAfter]

theorem unlines_around (before : List Text) (line : Text) (after : List Text) :
    unlines (before ++ line :: after) = linesBefore before ++ (line ++ linesAfter after) := by
  induction before with
  | nil => exact unlines_cons_after line after
  | cons first before ih =>
      rw [List.cons_append, unlines_cons first (by simp), ih]
      simp [linesBefore]

/-- Lines without the separator are passed. -/
theorem cut_linesBefore {sep : Text} (oneLine : '\n' ∉ sep) (filled : sep ≠ []) {lines : List Text}
    (absent : ∀ line ∈ lines, contains sep line = false) (rest : Text) :
    cut sep (linesBefore lines ++ rest) =
      (cut sep rest).map fun parts => (linesBefore lines ++ parts.1, parts.2) := by
  have single : '\n' ∉ sep.dropLast := fun inside => oneLine (List.mem_of_mem_dropLast inside)
  induction lines with
  | nil => simp [linesBefore]
  | cons line lines ih =>
      rw [List.forall_mem_cons] at absent
      have split (after : Text) : linesBefore (line :: lines) ++ after =
          line ++ '\n' :: (linesBefore lines ++ after) := by
        simp [linesBefore]
      rw [split, cut_line single (notContains_line oneLine filled absent.1), ih absent.2, Option.map_map]
      congr 1
      funext parts
      simp [split]

theorem getLast?_linesBefore {lines : List Text} {c : Char}
    (last : (linesBefore lines).getLast? = some c) : c = '\n' := by
  rcases List.eq_nil_or_concat lines with rfl | ⟨front, line, rfl⟩
  · cases last
  · rw [linesBefore, List.concat_eq_append, List.flatMap_append, List.flatMap_singleton, ← List.append_assoc,
      List.getLast?_concat] at last
    exact (Option.some.inj last).symm

theorem head?_linesAfter {lines : List Text} {c : Char} (first : (linesAfter lines).head? = some c) :
    c = '\n' := by
  cases lines with
  | nil => cases first
  | cons line lines => exact (Option.some.inj first).symm

theorem splitOn_append_append (front back : Text) :
    (front ++ '\n' :: back).splitOn '\n' = front.splitOn '\n' ++ back.splitOn '\n' := by
  simp only [List.splitOn_eq_splitOnP]
  exact List.splitOnP_append_cons _ _ (by decide)

/-- The lines of a text are the pieces without a line feed that line feeds delimit. -/
theorem mem_lines_iff {line s : Text} :
    line ∈ s.splitOn '\n' ↔ '\n' ∉ line ∧ ∃ front back, s = front ++ (line ++ back) ∧
      (∀ c, front.getLast? = some c → c = '\n') ∧ ∀ c, back.head? = some c → c = '\n' := by
  constructor
  · intro member
    refine ⟨notMem_splitOn '\n' s line member, ?_⟩
    obtain ⟨before, after, split⟩ := List.append_of_mem member
    refine ⟨linesBefore before, linesAfter after, ?_, fun c => getLast?_linesBefore,
      fun c => head?_linesAfter⟩
    rw [← unlines_around, ← split, unlines_splitOn]
  · rintro ⟨oneLine, front, back, rfl, ended, begun⟩
    have here : line ∈ (line ++ back).splitOn '\n' := by
      cases back with
      | nil =>
          rw [List.append_nil, splitOn_of_notMem oneLine]
          exact List.mem_singleton.mpr rfl
      | cons c back =>
          rw [begun c rfl, splitOn_append_cons oneLine]
          exact List.mem_cons_self
    rcases List.eq_nil_or_concat front with rfl | ⟨before, c, rfl⟩
    · exact here
    · rw [List.concat_eq_append] at ended ⊢
      rw [ended c List.getLast?_concat, List.append_assoc, List.singleton_append, splitOn_append_append]
      exact List.mem_append_right _ here

/-- A needle without a line feed lies within one line. -/
theorem contains_unlines {needle : Text} (oneLine : '\n' ∉ needle) (filled : needle ≠ [])
    (lines : List Text) : contains needle (unlines lines) = lines.any (contains needle) := by
  induction lines with
  | nil => cases needle <;> simp_all [contains]
  | cons line rest ih =>
      by_cases last : rest = []
      · subst last
        simp
      · rw [unlines_cons line last, contains_append_cons line _ oneLine, ih, List.any_cons]

theorem contains_join {needle : Text} (oneLine : '\n' ∉ needle) (filled : needle ≠ []) (parts : List Text) :
    contains needle (join ['\n'] parts) = parts.any (contains needle) := by
  induction parts with
  | nil => cases needle <;> simp_all [contains, join]
  | cons first rest ih =>
      by_cases last : rest = []
      · rw [last, join, List.intercalate_singleton, List.any_cons, List.any_nil, Bool.or_false]
      · rw [join, List.intercalate_cons_of_ne_nil last, List.append_assoc, List.singleton_append,
          contains_append_cons first _ oneLine, List.any_cons, ← ih, join]

theorem contains_unlines_of_mem {needle line : Text} {lines : List Text} (member : line ∈ lines)
    (found : contains needle line = true) : contains needle (unlines lines) = true := by
  obtain ⟨before, after, rfl⟩ := List.append_of_mem member
  by_cases first : before = []
  · subst first
    by_cases last : after = []
    · subst last
      simpa using found
    · rw [List.nil_append, unlines_cons line last]
      exact contains_append_right _ found
  · rw [unlines_append first (by simp)]
    apply contains_append_left (unlines before)
    by_cases last : after = []
    · subst last
      simpa using contains_append_left ['\n'] found
    · rw [unlines_cons line last]
      exact contains_append_left ['\n'] (contains_append_right _ found)

/-- Every part of a text cut at a separator is again a text of lines. -/
def cutLines (sep : Text) : List Text → Option (List Text × List Text)
  | [] => none
  | line :: rest =>
      match cut sep line with
      | some parts => some ([parts.1], parts.2 :: rest)
      | none => (cutLines sep rest).map fun parts => (line :: parts.1, parts.2)

theorem cutLines_ne_nil {sep : Text} {lines : List Text} {parts : List Text × List Text}
    (found : cutLines sep lines = some parts) : parts.1 ≠ [] ∧ parts.2 ≠ [] := by
  induction lines generalizing parts with
  | nil => cases found
  | cons line rest ih =>
      rw [cutLines] at found
      split at found
      · cases found
        simp
      · obtain ⟨later, cutLater, rfl⟩ := Option.map_eq_some_iff.mp found
        exact ⟨by simp, (ih cutLater).2⟩

theorem cut_unlines {sep : Text} (oneLine : '\n' ∉ sep) (filled : sep ≠ []) (lines : List Text) :
    cut sep (unlines lines) =
      (cutLines sep lines).map fun parts => (unlines parts.1, unlines parts.2) := by
  induction lines with
  | nil => simp [cut, cutLines, filled]
  | cons line rest ih =>
      by_cases last : rest = []
      · subst last
        rw [unlines_singleton, cutLines]
        cases cut sep line <;> simp [cutLines]
      · rw [unlines_cons line last, cut_append_cons line _ oneLine filled, cutLines, ih]
        cases cut sep line with
        | some parts => simp [unlines_cons _ last]
        | none =>
            cases later : cutLines sep rest with
            | none => simp
            | some parts => simp [unlines_cons line (cutLines_ne_nil later).1]

theorem splitHead_unlines {sep : Text} (oneLine : '\n' ∉ sep) (filled : sep ≠ []) {lines : List Text}
    {parts : List Text × List Text} (found : cutLines sep lines = some parts) :
    splitHead sep (unlines lines) = unlines parts.1 := by
  rw [splitHead, cut_unlines oneLine filled, found]
  rfl

theorem splitHead_of_notContains {sep s : Text} (absent : contains sep s = false) :
    splitHead sep s = s := by
  rw [splitHead, cut_eq_none_iff.mpr absent]
  rfl

/-- The lines in front of the first later line that starts with `mark`. -/
def untilMark (mark : Char) (lines : List Text) : List Text :=
  lines.takeWhile fun line => line.head? != some mark

/-- `s.split("\n" + mark, 1)[0]`. -/
theorem splitHead_mark {mark : Char} (visible : mark ≠ '\n') (first : Text) (rest : List Text)
    (oneLine : ∀ line ∈ first :: rest, '\n' ∉ line) :
    splitHead ['\n', mark] (unlines (first :: rest)) = unlines (first :: untilMark mark rest) := by
  have passed (line after : Text) (plain : '\n' ∉ line) :
      splitHead ['\n', mark] (line ++ after) = line ++ splitHead ['\n', mark] after := by
    rw [splitHead, splitHead, cut_passed]
    · cases cut ['\n', mark] after <;> rfl
    · intro tail some suffix starts
      obtain ⟨c, tail, rfl⟩ := List.exists_cons_of_ne_nil some
      rw [List.cons_append, List.cons_prefix_cons] at starts
      exact plain (suffix.subset (starts.1 ▸ List.mem_cons_self))
  induction rest generalizing first with
  | nil =>
      have alone := passed first [] (oneLine first (by simp))
      simpa [untilMark, splitHead, cut] using alone
  | cons next rest ih =>
      rw [unlines_cons first (by simp), passed first _ (oneLine first (by simp))]
      have later := ih next fun line member => oneLine line (List.mem_cons_of_mem first member)
      by_cases marked : next.head? = some mark
      · obtain ⟨tail, rfl⟩ : ∃ tail, next = mark :: tail := by
          cases next with
          | nil => cases marked
          | cons c tail => exact ⟨tail, by simpa using marked⟩
        have starts : ['\n', mark].isPrefixOf ('\n' :: unlines ((mark :: tail) :: rest)) = true := by
          cases rest with
          | nil => simp [List.isPrefixOf]
          | cons line rest => simp [List.isPrefixOf, unlines_cons]
        have head : splitHead ['\n', mark] ('\n' :: unlines ((mark :: tail) :: rest)) = [] := by
          rw [splitHead, cut, if_pos starts]
          rfl
        simp [head, untilMark]
      · have differs : ['\n', mark].isPrefixOf ('\n' :: unlines (next :: rest)) = false := by
          cases next with
          | nil =>
              cases rest with
              | nil => simp [List.isPrefixOf]
              | cons line rest => simp [List.isPrefixOf, unlines_cons, visible]
          | cons c next =>
              have other : mark ≠ c := fun same => marked (by simp [same])
              cases rest with
              | nil => simp [List.isPrefixOf, other]
              | cons line rest => simp [List.isPrefixOf, unlines_cons, other]
        have step : splitHead ['\n', mark] ('\n' :: unlines (next :: rest)) =
            '\n' :: splitHead ['\n', mark] (unlines (next :: rest)) := by
          rw [splitHead, cut, differs, if_neg (by simp), splitHead]
          cases cut ['\n', mark] (unlines (next :: rest)) <;> rfl
        have kept : untilMark mark (next :: rest) = next :: untilMark mark rest := by
          simp [untilMark, marked]
        rw [step, later, kept, unlines_cons first (by simp)]

/-- A text that ends in a line feed is split into its lines, empty ones included. -/
theorem splitlines_unlines (lines : List Text) (unbroken : ∀ line ∈ lines, Unbroken line) :
    splitlines (unlines (lines ++ [[]])) = lines := by
  induction lines with
  | nil => rfl
  | cons line lines ih =>
      rw [List.cons_append, unlines_cons line (by simp), splitlines_line line _ (unbroken line (by simp)),
        ih fun later member => unbroken later (List.mem_cons_of_mem line member)]

end PyText
