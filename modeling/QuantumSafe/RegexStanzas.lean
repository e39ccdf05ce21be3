import QuantumSafe.PyRegex
import QuantumSafe.TextLines

set_option autoImplicit false

/- Texts of stanzas: a pattern that takes each header line with a name, and what
follows it up to the next header line, finds the stanzas that the lines show. -/
namespace PyRegex

open PyText Regex

/-- `^header(\S+)(.*?)(?=^header|\Z)` with `re.MULTILINE | re.DOTALL`. -/
def stanzaPattern (header : Text) : Regex :=
  .seq .lineStart (.seq (.literal header) (.seq (.group 1 (.many 1 nonSpace))
    (.seq (.group 2 (.manyLazy 0 anyChar))
      (.lookahead (.either (.seq .lineStart (.literal header)) .textEnd)))))

/-- A name with the rest of its header line and the lines after it. A last line
that is empty closes the line in front of the next header. -/
structure Stanza where
  name : Text
  body : List Text
deriving DecidableEq, Repr

def opens (header line : Text) : Bool := header.isPrefixOf line

/-- The name on a header line and what stands behind it. -/
def headerName (header line : Text) : Option (Text × Text) :=
  if opens header line then
    let tail := line.drop header.length
    let name := tail.takeWhile nonSpace
    if name.isEmpty then none else some (name, tail.dropWhile nonSpace)
  else none

/-- The lines up to the next header line. -/
def bodyLines (header : Text) (rest : List Text) : List Text :=
  rest.takeWhile (fun line => !opens header line) ++ if rest.any (opens header) then [[]] else []

def stanzas (header : Text) : List Text → List Stanza
  | [] => []
  | line :: rest =>
      match headerName header line with
      | some parts => ⟨parts.1, parts.2 :: bodyLines header rest⟩ :: stanzas header rest
      | none => stanzas header rest

variable {header : Text}

theorem headerName_eq_some {line name tail : Text} (found : headerName header line = some (name, tail)) :
    line = header ++ name ++ tail ∧ name ≠ [] ∧ (∀ c ∈ name, nonSpace c = true) ∧
      Stops nonSpace tail := by
  rw [headerName] at found
  split at found
  · rename_i opened
    dsimp only at found
    split at found
    · cases found
    · rename_i named
      cases found
      obtain ⟨rest, rfl⟩ := List.isPrefixOf_iff_prefix.mp opened
      rw [List.drop_left] at named ⊢
      refine ⟨?_, by simpa using named, fun c member => List.mem_takeWhile_imp member, ?_⟩
      · rw [List.append_assoc, List.takeWhile_append_dropWhile]
      · intro c head
        have stopped := List.head?_dropWhile_not nonSpace rest
        rw [head] at stopped
        simpa using stopped
  · cases found

theorem headerName_of_not_opens {line : Text} (closed : opens header line = false) :
    headerName header line = none := by simp [headerName, closed]

/-- Lines that open no stanza are passed over. -/
theorem stanzas_append {lines rest : List Text} (closed : ∀ line ∈ lines, opens header line = false) :
    stanzas header (lines ++ rest) = stanzas header rest := by
  induction lines with
  | nil => rfl
  | cons line lines ih =>
      rw [List.cons_append, stanzas, headerName_of_not_opens (closed line (by simp))]
      exact ih fun later member => closed later (List.mem_cons_of_mem line member)

theorem atLineStart_mid {before passed : Text} (filled : before ≠ []) (oneLine : '\n' ∉ before) :
    atLineStart (before.reverse ++ passed) = false := by
  obtain ⟨init, last, rfl⟩ := List.eq_nil_or_concat before |>.resolve_left filled
  have visible : last ≠ '\n' := by
    rintro rfl
    exact oneLine (by simp)
  simp [atLineStart, visible]

/-- The pattern only runs from the start of a line. -/
theorem runs_stanza_mid {passed ahead : Text} (mid : atLineStart passed = false) :
    runs (stanzaPattern header) ⟨passed, ahead, []⟩ = [] := by
  simp [stanzaPattern, runs, mid]

theorem isPrefixOf_unlines (oneLine : '\n' ∉ header) (line : Text) (rest : List Text) :
    header.isPrefixOf (unlines (line :: rest)) = opens header line := by
  by_cases last : rest = []
  · subst last
    rw [unlines_singleton, opens]
  · rw [unlines_cons line last, isPrefixOf_append_cons line _ oneLine, opens]

theorem stops_unlines {tail : Text} (stops : Stops nonSpace tail) (rest : List Text) :
    Stops nonSpace (unlines (tail :: rest)) := by
  cases rest with
  | nil => rwa [unlines_singleton]
  | cons next rest =>
      intro c head
      rw [unlines_cons tail (by simp)] at head
      cases tail with
      | nil =>
          cases head
          decide
      | cons d tail => exact stops c head

/-- A line without a name gives no match, wherever the scan looks. -/
theorem runs_stanza_none (oneLine : '\n' ∉ header) {line : Text} {rest : List Text}
    (nameless : headerName header line = none) (passed : Text) :
    runs (stanzaPattern header) ⟨passed, unlines (line :: rest), []⟩ = [] := by
  by_cases opened : opens header line = true
  · obtain ⟨tail, rfl⟩ := List.isPrefixOf_iff_prefix.mp opened
    have empty : tail.takeWhile nonSpace = [] := by
      rw [headerName, if_pos opened, List.drop_left] at nameless
      simpa using nameless
    have stopsTail : Stops nonSpace tail := by
      intro c head
      cases tail with
      | nil => cases head
      | cons d tail =>
          cases head
          by_contra solid
          simp [Bool.not_eq_false _ |>.mp solid] at empty
    have stops := stops_unlines stopsTail rest
    have whole : unlines ((header ++ tail) :: rest) = header ++ unlines (tail :: rest) := by
      by_cases last : rest = []
      · subst last
        simp
      · rw [unlines_cons _ last, unlines_cons _ last, List.append_assoc]
    rw [whole, stanzaPattern, runs_seq, runs]
    split
    · simp [runs_literal, spans_stops stops, runs]
    · rfl
  · have closed := isPrefixOf_unlines oneLine line rest
    rw [Bool.not_eq_true _ |>.mp opened] at closed
    rw [stanzaPattern, runs_seq, runs]
    split
    · simp [runs_literal, closed]
    · rfl

/-- The lines from the next header line on. -/
def laterLines (header : Text) (rest : List Text) : List Text :=
  rest.dropWhile fun line => !opens header line

theorem laterLines_eq_nil {rest : List Text} :
    laterLines header rest = [] ↔ rest.any (opens header) = false := by
  simp [laterLines, List.dropWhile_eq_nil_iff]

theorem unlines_stanza (header tail : Text) (rest : List Text) :
    unlines (tail :: rest) =
      unlines (tail :: bodyLines header rest) ++ unlines (laterLines header rest) := by
  have parts : rest.takeWhile (fun line => !opens header line) ++ laterLines header rest = rest :=
    List.takeWhile_append_dropWhile
  by_cases more : rest.any (opens header) = true
  · have filled : laterLines header rest ≠ [] := by
      rw [ne_eq, laterLines_eq_nil, more]
      decide
    rw [bodyLines, if_pos more, ← List.cons_append, unlines_append (by simp) (by simp),
      unlines_singleton, List.append_assoc, List.singleton_append, ← unlines_append (by simp) filled,
      List.cons_append, parts]
  · have none : laterLines header rest = [] := laterLines_eq_nil.mpr (Bool.not_eq_true _ |>.mp more)
    rw [none, List.append_nil] at parts
    rw [bodyLines, if_neg more, none, unlines_nil, List.append_nil, List.append_nil, parts]

theorem opens_bodyLines (filled : header ≠ []) {rest : List Text} {line : Text}
    (member : line ∈ bodyLines header rest) : opens header line = false := by
  rcases List.mem_append.mp member with taken | closing
  · simpa using List.mem_takeWhile_imp taken
  · split at closing
    · rw [List.mem_singleton.mp closing, opens]
      cases header with
      | nil => exact absurd rfl filled
      | cons c header => rfl
    · cases closing

theorem bodyLines_oneLine {rest : List Text} (oneLine : ∀ line ∈ rest, '\n' ∉ line) :
    ∀ line ∈ bodyLines header rest, '\n' ∉ line := by
  intro line member
  rcases List.mem_append.mp member with taken | closing
  · exact oneLine line ((List.takeWhile_prefix _).subset taken)
  · split at closing
    · simp [List.mem_singleton.mp closing]
    · cases closing

/-- Inside a body no later line opens a stanza. -/
theorem notOpens_within (oneLine : '\n' ∉ header) (filled : header ≠ []) {tail before after : Text}
    {rest : List Text} (plainTail : '\n' ∉ tail) (plain : ∀ line ∈ rest, '\n' ∉ line)
    (split : unlines (tail :: bodyLines header rest) = before ++ '\n' :: after) (some : after ≠ []) :
    header.isPrefixOf (after ++ unlines (laterLines header rest)) = false := by
  obtain ⟨first, second, same, filledFirst, filledSecond, rfl⟩ := unlines_split (by
    intro line member
    rcases List.mem_cons.mp member with rfl | member
    · exact plainTail
    · exact bodyLines_oneLine plain line member) split
  obtain ⟨line, others, rfl⟩ := List.exists_cons_of_ne_nil filledSecond
  obtain ⟨start, first, rfl⟩ := List.exists_cons_of_ne_nil filledFirst
  have body : bodyLines header rest = first ++ line :: others := (List.cons.inj same).2
  have inBody : line ∈ bodyLines header rest := by simp [body]
  have closed : opens header line = false := opens_bodyLines filled inBody
  by_cases last : others = []
  · subst last
    have noneLater : rest.any (opens header) = false := by
      by_contra more
      have ends : bodyLines header rest =
          rest.takeWhile (fun line => !opens header line) ++ [[]] := by
        rw [bodyLines, if_pos (Bool.not_eq_false _ |>.mp more)]
      rw [ends] at body
      have empty : [[]] = [line] := (List.append_inj' body rfl).2
      rw [← empty, unlines_singleton] at some
      exact absurd rfl some
    rw [laterLines_eq_nil.mpr noneLater, unlines_nil, List.append_nil, unlines_singleton]
    exact closed
  · rw [unlines_cons line last, List.append_assoc, List.cons_append,
      isPrefixOf_append_cons line _ oneLine]
    exact closed

/-- Up to the next header line or the end, the lookahead holds nowhere. -/
theorem runs_lookahead_within (oneLine : '\n' ∉ header) (filled : header ≠ [])
    {name tail before after passed : Text} {rest : List Text} (groups : List (Nat × Text))
    (named : name ≠ []) (solid : ∀ c ∈ name, nonSpace c = true) (plainTail : '\n' ∉ tail)
    (plain : ∀ line ∈ rest, '\n' ∉ line)
    (split : unlines (tail :: bodyLines header rest) = before ++ after) (some : after ≠ []) :
    runs (.lookahead (.either (.seq .lineStart (.literal header)) .textEnd))
      ⟨before.reverse ++ (name.reverse ++ passed), after ++ unlines (laterLines header rest), groups⟩ =
        [] := by
  have notEnd : (after ++ unlines (laterLines header rest)).isEmpty = false := by
    cases after with
    | nil => exact absurd rfl some
    | cons c after => rfl
  have notHere : runs (.seq .lineStart (.literal header))
      ⟨before.reverse ++ (name.reverse ++ passed), after ++ unlines (laterLines header rest), groups⟩ =
        [] := by
    rw [runs_seq, runs]
    rcases List.eq_nil_or_concat before with rfl | ⟨init, last, rfl⟩
    · have mid : atLineStart (name.reverse ++ passed) = false :=
        atLineStart_mid named fun inside => absurd (solid '\n' inside) (by decide)
      simp [mid]
    · by_cases feed : last = '\n'
      · subst feed
        rw [List.concat_eq_append, List.append_assoc, List.singleton_append] at split
        have closed := notOpens_within oneLine filled plainTail plain split some
        split
        · rw [List.flatMap_singleton, runs_literal, closed]
          rfl
        · rfl
      · simp [atLineStart, feed]
  simp only [runs, notEnd] at notHere ⊢
  simp [notHere]

/-- A body in front of another header line ends in a line feed. -/
theorem unlines_bodyLines (tail : Text) {rest : List Text} (more : laterLines header rest ≠ []) :
    ∃ init, unlines (tail :: bodyLines header rest) = init ++ ['\n'] := by
  have opened : rest.any (opens header) = true := by
    rw [ne_eq, laterLines_eq_nil, Bool.not_eq_false] at more
    exact more
  refine ⟨unlines (tail :: rest.takeWhile fun line => !opens header line), ?_⟩
  rw [bodyLines, if_pos opened, ← List.cons_append, unlines_append (by simp) (by simp)]
  rfl

/-- At the next header line, and at the end, it does. -/
theorem runs_lookahead_end (oneLine : '\n' ∉ header) {tail passed : Text} {rest : List Text}
    (groups : List (Nat × Text)) :
    runs (.lookahead (.either (.seq .lineStart (.literal header)) .textEnd))
      ⟨(unlines (tail :: bodyLines header rest)).reverse ++ passed,
        unlines (laterLines header rest), groups⟩ =
      [⟨(unlines (tail :: bodyLines header rest)).reverse ++ passed,
        unlines (laterLines header rest), groups⟩] := by
  by_cases more : rest.any (opens header) = true
  · have filled : laterLines header rest ≠ [] := by
      rw [ne_eq, laterLines_eq_nil, more]
      decide
    obtain ⟨init, closes⟩ := unlines_bodyLines tail filled
    have opened : header.isPrefixOf (unlines (laterLines header rest)) = true := by
      obtain ⟨next, others, same⟩ := List.exists_cons_of_ne_nil filled
      have first := List.head?_dropWhile_not (fun line => !opens header line) rest
      rw [show rest.dropWhile (fun line => !opens header line) = next :: others from same] at first
      rw [same, isPrefixOf_unlines oneLine]
      simpa using first
    rw [closes]
    simp [runs, runs_literal, opened, atLineStart]
  · rw [laterLines_eq_nil.mpr (Bool.not_eq_true _ |>.mp more)]
    simp [runs]

/-- The text from a header line on is its stanza and what comes later. -/
theorem unlines_header {line name tail : Text} (rest : List Text) (whole : line = header ++ name ++ tail) :
    unlines (line :: rest) = header ++ (name ++ unlines (tail :: rest)) := by
  by_cases last : rest = []
  · subst last
    simp [whole]
  · rw [unlines_cons _ last, unlines_cons _ last, whole, List.append_assoc, List.append_assoc]

/-- On a header line the pattern first runs over the whole stanza. -/
theorem runs_stanza (oneLine : '\n' ∉ header) (filled : header ≠ []) {line name tail passed : Text}
    {rest : List Text} (plain : ∀ later ∈ line :: rest, '\n' ∉ later)
    (found : headerName header line = some (name, tail)) (start : atLineStart passed = true) :
    ∃ others, runs (stanzaPattern header) ⟨passed, unlines (line :: rest), []⟩ =
      ⟨(unlines (tail :: bodyLines header rest)).reverse ++ (name.reverse ++ (header.reverse ++ passed)),
        unlines (laterLines header rest),
        [(2, unlines (tail :: bodyLines header rest)), (1, name)]⟩ :: others := by
  obtain ⟨whole, named, solid, stops⟩ := headerName_eq_some found
  have plainTail : '\n' ∉ tail := fun inside => plain line (by simp) (by simp [whole, inside])
  have plainRest : ∀ later ∈ rest, '\n' ∉ later := fun later member =>
    plain later (List.mem_cons_of_mem line member)
  have split := unlines_header rest whole
  obtain ⟨lazyOthers, block⟩ := runs_lazy_then 2 anyChar 0 (name.reverse ++ (header.reverse ++ passed))
    (unlines (tail :: bodyLines header rest)) (unlines (laterLines header rest)) [(1, name)]
    (fun _ _ => rfl) (Nat.zero_le _)
    (fun before after parts some _ => runs_lookahead_within oneLine filled _ named solid plainTail
      plainRest parts some)
    (runs_lookahead_end oneLine _)
  rw [← unlines_stanza] at block
  have enough : 1 ≤ name.length := List.length_pos_iff.mpr named
  obtain ⟨others, taken⟩ := runs_greedy_then (header.reverse ++ passed) name (unlines (tail :: rest)) []
    solid (stops_unlines stops rest) enough block
  refine ⟨others, ?_⟩
  have opened : header.isPrefixOf (header ++ (name ++ unlines (tail :: rest))) = true :=
    List.isPrefixOf_iff_prefix.mpr (List.prefix_append _ _)
  have begins : runs .lineStart ⟨passed, header ++ (name ++ unlines (tail :: rest)), []⟩ =
      [⟨passed, header ++ (name ++ unlines (tail :: rest)), []⟩] := by
    rw [runs, start, if_pos rfl]
  rw [split, stanzaPattern, runs_seq, begins, List.flatMap_singleton, runs_seq, runs_literal, if_pos opened,
    List.flatMap_singleton, List.drop_left, taken]

theorem stanzas_laterLines (rest : List Text) :
    stanzas header (laterLines header rest) = stanzas header rest := by
  have parts : rest.takeWhile (fun line => !opens header line) ++ laterLines header rest = rest :=
    List.takeWhile_append_dropWhile
  conv_rhs => rw [← parts]
  exact (stanzas_append fun line member => by simpa using List.mem_takeWhile_imp member).symm

theorem findallFrom_stanza_end (filled : header ≠ []) (passed : Text) :
    findallFrom (stanzaPattern header) 0 passed [] = [] := by
  have none : runs (stanzaPattern header) ⟨passed, [], []⟩ = [] := by
    obtain ⟨c, header, rfl⟩ := List.exists_cons_of_ne_nil filled
    rw [stanzaPattern, runs_seq, runs]
    split
    · simp [literal]
    · rfl
  rw [findallFrom, (hits_fst_eq_nil _ _ _).mpr none]

/-- A line that opens no stanza is passed over. -/
theorem findallFrom_nameless (oneLine : '\n' ∉ header) {line passed : Text} {rest : List Text}
    (plain : '\n' ∉ line) (nameless : headerName header line = none) (kept : Text)
    (shape : unlines (line :: rest) = kept ++ unlines rest)
    (ends : kept = line ∨ kept = line ++ ['\n']) :
    findallFrom (stanzaPattern header) 0 passed (unlines (line :: rest)) =
      findallFrom (stanzaPattern header) 0 (kept.reverse ++ passed) (unlines rest) := by
  rw [shape]
  refine findallFrom_passed _ _ _ _ fun before after split filled => ?_
  by_cases first : before = []
  · subst first
    rw [List.nil_append] at split
    rw [← split, ← shape]
    exact runs_stanza_none oneLine nameless passed
  · refine runs_stanza_mid (atLineStart_mid first fun inside => plain ?_)
    rcases ends with rfl | rfl
    · rw [split]
      exact List.mem_append_left after inside
    · obtain ⟨init, last, rfl⟩ := List.eq_nil_or_concat after |>.resolve_left filled
      rw [List.concat_eq_append, ← List.append_assoc] at split
      rw [(List.append_inj' split rfl).1]
      exact List.mem_append_left init inside

/-- The scan of a text of lines finds its stanzas, in order. -/
theorem findall_stanzas (oneLine : '\n' ∉ header) (filled : header ≠ []) {lines : List Text}
    (plain : ∀ line ∈ lines, '\n' ∉ line) :
    (findall (stanzaPattern header) (unlines lines)).map (fun finish => (finish.group 1, finish.group 2)) =
      (stanzas header lines).map fun stanza => (stanza.name, unlines stanza.body) := by
  suffices general : ∀ passed, (lines ≠ [] → atLineStart passed = true) →
      (findallFrom (stanzaPattern header) 0 passed (unlines lines)).map
          (fun finish => (finish.group 1, finish.group 2)) =
        (stanzas header lines).map fun stanza => (stanza.name, unlines stanza.body) by
    exact general [] fun _ => rfl
  -- A stanza takes several lines at once, so the induction is on their number.
  induction length : lines.length using Nat.strongRecOn generalizing lines with
  | ind bound ih =>
      intro passed start
      cases lines with
      | nil =>
          rw [unlines_nil, findallFrom_stanza_end filled]
          rfl
      | cons line rest =>
          have plainRest : ∀ later ∈ rest, '\n' ∉ later := fun later member =>
            plain later (List.mem_cons_of_mem line member)
          rw [List.length_cons] at length
          cases found : headerName header line with
          | some parts =>
              obtain ⟨name, tail⟩ := parts
              obtain ⟨whole, -⟩ := headerName_eq_some found
              obtain ⟨others, run⟩ := runs_stanza oneLine filled plain found (start (by simp))
              have shape : unlines (line :: rest) = (header ++ (name ++ unlines (tail :: bodyLines header rest))) ++
                  unlines (laterLines header rest) := by
                rw [unlines_header rest whole, unlines_stanza header, List.append_assoc, List.append_assoc]
              have matched := findallFrom_match (stanzaPattern header) passed
                (header ++ (name ++ unlines (tail :: bodyLines header rest)))
                (unlines (laterLines header rest))
                [(2, unlines (tail :: bodyLines header rest)), (1, name)] others (by simp [filled])
                (by rw [← shape, run]; simp)
              have shorter : (laterLines header rest).length < bound := by
                have fewer : (laterLines header rest).length ≤ rest.length :=
                  (List.dropWhile_suffix fun line => !opens header line).length_le
                omega
              have plainLater : ∀ line ∈ laterLines header rest, '\n' ∉ line := fun line member =>
                plainRest line ((List.dropWhile_suffix _).subset member)
              have later := ih _ shorter plainLater rfl
                ((header ++ (name ++ unlines (tail :: bodyLines header rest))).reverse ++ passed)
                fun more => by
                  obtain ⟨init, closes⟩ := unlines_bodyLines tail more
                  simp [closes, atLineStart]
              rw [shape, matched, List.map_cons, later, stanzas_laterLines, stanzas, found]
              rfl
          | none =>
              have skipped : stanzas header (line :: rest) = stanzas header rest := by
                rw [stanzas, found]
              have later (passed : Text) (begins : rest ≠ [] → atLineStart passed = true) :=
                ih rest.length (by omega) plainRest rfl passed begins
              have plainLine := plain line (by simp)
              by_cases last : rest = []
              · subst last
                rw [findallFrom_nameless oneLine plainLine found line (by simp) (Or.inl rfl), skipped]
                exact later _ fun more => absurd rfl more
              · rw [findallFrom_nameless oneLine plainLine found (line ++ ['\n'])
                  (by rw [unlines_cons line last, List.append_assoc]; rfl) (Or.inr rfl), skipped]
                exact later _ fun _ => by simp [atLineStart]

end PyRegex
