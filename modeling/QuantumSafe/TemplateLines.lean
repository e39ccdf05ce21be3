import QuantumSafe.RenderConfigs

set_option autoImplicit false

/- Rendering a file of lines when the values of the placeholders are known as
lines of f-strings: the rendered file is again one of lines of f-strings. -/
namespace QuantumSafe.RenderTopo

open PyText SymbolicText

/-- Reads a line as a template. The first argument holds the characters of a
placeholder that is open, last one first. -/
def scanLine : Option Text → Text → Option Template
  | none, [] => some []
  | some _, [] => none
  | none, '$' :: '{' :: rest => scanLine (some []) rest
  | none, c :: rest =>
      if plain : '$' ∉ [c] then (scanLine none rest).map (.literal ⟨[c], plain⟩ :: ·) else none
  | some key, '}' :: rest =>
      if valid : IsKey key.reverse then (scanLine none rest).map (.hole ⟨key.reverse, valid⟩ :: ·)
      else none
  | some key, c :: rest => scanLine (some (c :: key)) rest

theorem scanLine_source {pending : Option Text} {line : Text} {template : Template}
    (scanned : scanLine pending line = some template) :
    Template.source template = (pending.elim [] fun key => text "$\x7b" ++ key.reverse) ++ line := by
  fun_induction scanLine pending line generalizing template with
  | case1 =>
      cases scanned
      rfl
  | case2 key => cases scanned
  | case3 rest ih =>
      rw [ih scanned]
      rfl
  | case4 c rest notOpen plain ih =>
      obtain ⟨later, scannedLater, rfl⟩ := Option.map_eq_some_iff.mp scanned
      have tail := ih scannedLater
      simpa [Template.source, Segment.source] using tail
  | case5 c rest notOpen notPlain => cases scanned
  | case6 key rest valid ih =>
      obtain ⟨later, scannedLater, rfl⟩ := Option.map_eq_some_iff.mp scanned
      have tail := ih scannedLater
      simp only [Option.elim_none, List.nil_append] at tail
      simp only [Template.source, List.flatMap_cons, Segment.source, placeholder, Option.elim_some] at tail ⊢
      rw [tail]
      simp [text]
  | case7 key rest invalid => cases scanned
  | case8 key c rest notClosed ih =>
      rw [ih scanned]
      simp

/-- The values of placeholders, as lines. -/
abbrev Table := List (Text × List FString)

/-- The text of a value. -/
def valueText (values : MgmtValues) (value : List FString) : Text := unlines (value.map (fill values))

/-- A value in front of lines: its last line runs into the first of them. -/
def prependLines : List FString → List FString → List FString
  | [], lines => lines
  | [last], [] => [last]
  | [last], first :: rest => (last ++ first) :: rest
  | line :: next :: value, lines => line :: prependLines (next :: value) lines

def expandSegments (table : Table) : Template → Option (List FString)
  | [] => some [[]]
  | .literal s :: rest => (expandSegments table rest).map (prependLines [chars s.val])
  | .hole key :: rest =>
      match table.lookup key.val with
      | some (line :: value) => (expandSegments table rest).map (prependLines (line :: value))
      | _ => none

def expandLine (table : Table) (line : Text) : Option (List FString) :=
  (scanLine none line).bind (expandSegments table)

/-- The lines of a rendered file. -/
def expandFile (table : Table) : List Text → Option (List FString)
  | [] => some []
  | line :: rest => do
      let first ← expandLine table line
      let later ← expandFile table rest
      return first ++ later

/-- The items of a map give the placeholders of a table the values of the table,
and none of these values has a `$` in it. -/
def Agrees (values : MgmtValues) (items : List (Text × Text)) (table : Table) : Prop :=
  ∀ key value, table.lookup key = some value →
    items.lookup key = some (valueText values value) ∧ '$' ∉ valueText values value

theorem prependLines_ne_nil {value : List FString} (lines : List FString) (filled : value ≠ []) :
    prependLines value lines ≠ [] := by
  fun_cases prependLines value lines with
  | case1 => exact absurd rfl filled
  | case2 => simp
  | case3 => simp
  | case4 => simp

theorem valueText_prependLines (values : MgmtValues) {value lines : List FString}
    (filled : value ≠ []) (some : lines ≠ []) :
    valueText values (prependLines value lines) = valueText values value ++ valueText values lines := by
  fun_induction prependLines value lines with
  | case1 => exact absurd rfl filled
  | case2 => exact absurd rfl some
  | case3 last first rest =>
      cases rest with
      | nil => simp [valueText]
      | cons next rest =>
          simp only [valueText, List.map_cons, List.map_nil, unlines_singleton, fill_append]
          rw [unlines_cons (fill values last ++ fill values first) (by simp),
            unlines_cons (fill values first) (by simp), List.append_assoc]
  | case4 line next value lines ih =>
      have later := ih (by simp) some
      have more : (prependLines (next :: value) lines).map (fill values) ≠ [] := by
        simp [prependLines_ne_nil]
      simp only [valueText, List.map_cons] at later ⊢
      rw [unlines_cons _ more, unlines_cons _ (by simp), later, List.append_assoc, List.cons_append]

theorem expandSegments_sound {values : MgmtValues} {items : List (Text × Text)} {table : Table}
    (agrees : Agrees values items table) {template : Template} {lines : List FString}
    (expanded : expandSegments table template = some lines) :
    lines ≠ [] ∧ (∀ key, .hole key ∈ template → ∃ value, table.lookup key.val = some value) ∧
      template.flatMap (Segment.lookup items) = valueText values lines := by
  induction template generalizing lines with
  | nil =>
      cases expanded
      refine ⟨by simp, ?_, rfl⟩
      intro key member
      cases member
  | cons segment rest ih =>
      cases segment with
      | literal s =>
          obtain ⟨later, expandedLater, rfl⟩ := Option.map_eq_some_iff.mp expanded
          obtain ⟨some, holes, same⟩ := ih expandedLater
          refine ⟨prependLines_ne_nil _ (by simp), ?_, ?_⟩
          · intro key member
            exact holes key (by simpa using member)
          · rw [List.flatMap_cons, same, valueText_prependLines values (by simp) some]
            simp [valueText, Segment.lookup]
      | hole key =>
          rw [expandSegments] at expanded
          split at expanded
          · rename_i line value found
            obtain ⟨later, expandedLater, rfl⟩ := Option.map_eq_some_iff.mp expanded
            obtain ⟨some, holes, same⟩ := ih expandedLater
            refine ⟨prependLines_ne_nil _ (by simp), ?_, ?_⟩
            · intro other member
              rcases List.mem_cons.mp member with here | later
              · cases here
                exact ⟨_, found⟩
              · exact holes other later
            · rw [List.flatMap_cons, same, valueText_prependLines values (by simp) some, Segment.lookup,
                (agrees key.val _ found).1]
              rfl
          · cases expanded

theorem fileText_cons (line : Text) (rest : List Text) :
    fileText (line :: rest) = line ++ '\n' :: fileText rest :=
  unlines_cons line (by simp)

theorem fileText_append {first : List Text} (rest : List Text) (filled : first ≠ []) :
    fileText (first ++ rest) = unlines first ++ '\n' :: fileText rest := by
  rw [fileText, List.append_assoc, unlines_append filled (by simp)]
  rfl

def newline : Segment := .literal ⟨['\n'], by decide⟩

/-- A file is a template whose lookup is the expanded file. -/
theorem expandFile_template {values : MgmtValues} {items : List (Text × Text)} {table : Table}
    (agrees : Agrees values items table) {file : List Text} {lines : List FString}
    (expanded : expandFile table file = some lines) :
    ∃ template : Template, Template.source template = fileText file ∧
      (∀ key, .hole key ∈ template → ∃ value, table.lookup key.val = some value) ∧
      template.flatMap (Segment.lookup items) = fileText (lines.map (fill values)) := by
  induction file generalizing lines with
  | nil =>
      cases expanded
      refine ⟨[], rfl, ?_, rfl⟩
      intro key member
      cases member
  | cons line rest ih =>
      rw [expandFile] at expanded
      obtain ⟨first, expandedFirst, expanded⟩ := Option.bind_eq_some_iff.mp expanded
      obtain ⟨later, expandedLater, same⟩ := Option.bind_eq_some_iff.mp expanded
      cases same
      obtain ⟨scanned, scan, segments⟩ := Option.bind_eq_some_iff.mp expandedFirst
      obtain ⟨filled, holesFirst, lookedUp⟩ := expandSegments_sound agrees segments
      obtain ⟨template, source, holes, lookedUpLater⟩ := ih expandedLater
      refine ⟨scanned ++ newline :: template, ?_, ?_, ?_⟩
      · have text := scanLine_source scan
        simp only [Template.source, Option.elim_none, List.nil_append] at text source
        rw [fileText_cons, Template.source, List.flatMap_append, text, List.flatMap_cons, source]
        rfl
      · intro key member
        rcases List.mem_append.mp member with here | later
        · exact holesFirst key here
        · rcases List.mem_cons.mp later with feed | later
          · cases feed
          · exact holes key later
      · rw [List.flatMap_append, lookedUp, List.flatMap_cons, lookedUpLater, List.map_append,
          fileText_append _ (by simp [filled])]
        rfl

/-- Rendering a file whose lines expand succeeds, and gives the expanded lines. -/
theorem renderFile_expandFile {values : MgmtValues} {items : List (Text × Text)} {table : Table}
    (keys : ∀ item ∈ items, IsKey item.1) (agrees : Agrees values items table) {file : List Text}
    {lines : List FString} (expanded : expandFile table file = some lines) :
    renderFile file items = .ok (fileText (lines.map (fill values))) := by
  obtain ⟨template, source, holes, lookedUp⟩ := expandFile_template agrees expanded
  have complete (key : Key) (member : .hole key ∈ template) :
      ∃ value, items.lookup key.val = some value ∧ '$' ∉ value := by
    obtain ⟨value, found⟩ := holes key member
    exact ⟨_, agrees key.val value found⟩
  have rendered := substitutePlaceholders_complete keys complete
  rw [renderFile, ← source, rendered, lookedUp]
  rfl

end QuantumSafe.RenderTopo
