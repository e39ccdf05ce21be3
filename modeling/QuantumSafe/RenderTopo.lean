import Mathlib.Data.Char
import Mathlib.Data.List.Dedup
import Mathlib.Data.List.Lex
import Mathlib.Data.List.Sort
import QuantumSafe.PyRegex

set_option autoImplicit false

/- `substitute_placeholders` of `lab/render_topo.py`, and templates as sequences
of literal text and placeholders. -/
namespace QuantumSafe.RenderTopo

open PyText PyRegex

/-- `[A-Z0-9_]`. -/
def isKeyChar (c : Char) : Bool :=
  (65 ≤ c.toNat && c.toNat ≤ 90) || (48 ≤ c.toNat && c.toNat ≤ 57) || c == '_'

/-- `f"${{{key}}}"`. -/
def placeholder (key : Text) : Text := text "$\x7b" ++ key ++ text "\x7d"

/-- `\$\{[A-Z0-9_]+\}`. -/
def unresolvedPattern : Regex :=
  .seq (.literal (text "$\x7b")) (.seq (.many 1 isKeyChar) (.char (· == '}')))

/-- `\$\{([A-Z0-9_]+)\}`. -/
def placeholderPattern : Regex :=
  .seq (.literal (text "$\x7b")) (.seq (.group 1 (.many 1 isKeyChar)) (.char (· == '}')))

/-- `sorted(set(names))`. -/
def sortedDistinct (names : List Text) : List Text := names.dedup.insertionSort (· ≤ ·)

/-- `substitute_placeholders`, with the message of its `ValueError`. The map is
given by its items in iteration order. -/
def substitutePlaceholders (content : Text) (substitutions : List (Text × Text)) :
    Except Text Text :=
  let rendered := substitutions.foldl (fun rendered item =>
    replace (placeholder item.1) item.2 rendered) content
  if Regex.found unresolvedPattern rendered then
    let unresolved := sortedDistinct
      ((Regex.findall placeholderPattern rendered).map fun finish => finish.group 1)
    .error (text "unresolved template placeholders: " ++ join (text ", ") unresolved)
  else .ok rendered

/-- Text without a `$`. -/
abbrev Plain := { s : Text // '$' ∉ s }

/-- A name that a placeholder can have. -/
abbrev IsKey (key : Text) : Prop := key ≠ [] ∧ ∀ c ∈ key, isKeyChar c = true

instance (key : Text) : Decidable (IsKey key) :=
  decidable_of_iff (key ≠ [] ∧ key.all isKeyChar = true) (by rw [List.all_eq_true])

abbrev Key := { key : Text // IsKey key }

inductive Segment where
  | literal (s : Plain)
  | hole (key : Key)

abbrev Template := List Segment

def Segment.source : Segment → Text
  | .literal s => s.val
  | .hole key => placeholder key.val

def Template.source (template : Template) : Text := template.flatMap Segment.source

/-- A substitution map. -/
structure Substitutions where
  entries : List (Key × Plain)
  distinct : (entries.map Prod.fst).Nodup

/-- The items of the map as the code sees them. -/
def Substitutions.items (substitutions : Substitutions) : List (Text × Text) :=
  substitutions.entries.map fun entry => (entry.1.val, entry.2.val)

def Substitutions.get (substitutions : Substitutions) (key : Key) : Option Plain :=
  substitutions.entries.lookup key

/-- One pass over the template, every hole looked up in the map. -/
def simultaneous (substitutions : Substitutions) (template : Template) : Text :=
  template.flatMap fun segment =>
    match segment with
    | .literal s => s.val
    | .hole key =>
        match substitutions.get key with
        | some value => value.val
        | none => placeholder key.val

def Missing (substitutions : Substitutions) (template : Template) (key : Key) : Prop :=
  .hole key ∈ template ∧ substitutions.get key = none

/-- One key filled in. -/
def Segment.fill (key : Key) (value : Plain) : Segment → Segment
  | .literal s => .literal s
  | .hole other => if other = key then .literal value else .hole other

/-- No occurrence of a placeholder starts where no `$` stands. -/
theorem not_placeholder_prefix {key after rest : Text} (filled : after ≠ []) (plain : '$' ∉ after) :
    ¬ placeholder key <+: after ++ rest := by
  intro occurs
  cases after with
  | nil => exact filled rfl
  | cons c after =>
      have same : '$' = c := (List.cons_prefix_cons.mp occurs).1
      exact plain (same ▸ List.mem_cons_self)

theorem dollar_notMem_key (key : Key) : '$' ∉ key.val := fun inside =>
  absurd (key.property.2 '$' inside) (by decide)

theorem brace_notMem_key (key : Key) : '}' ∉ key.val := fun inside =>
  absurd (key.property.2 '}' inside) (by decide)

/-- The closing brace keeps a key from matching a longer one. -/
theorem key_eq_of_starts {key other : Key} {rest : Text}
    (starts : key.val ++ ['}'] <+: other.val ++ '}' :: rest) : other = key := by
  obtain ⟨tail, split⟩ := starts
  rw [List.append_assoc, List.singleton_append] at split
  exact Subtype.ext (upTo_unique (brace_notMem_key key) (brace_notMem_key other) split).1.symm

/-- Every segment but the hole itself is kept. -/
theorem replace_segment {key : Key} {segment : Segment} (value rest : Text)
    (other : segment ≠ .hole key) :
    replace (placeholder key.val) value (segment.source ++ rest) =
      segment.source ++ replace (placeholder key.val) value rest := by
  refine replace_passed _ _ _ _ fun after filled suffix => ?_
  cases segment with
  | literal s => exact not_placeholder_prefix filled fun inside => s.property (suffix.subset inside)
  | hole found =>
      obtain ⟨before, split⟩ := suffix
      cases before with
      | nil =>
          rw [List.nil_append] at split
          subst split
          intro occurs
          have tail : key.val ++ ['}'] <+: found.val ++ '}' :: rest := by
            simpa [Segment.source, placeholder, text] using occurs
          exact other (congrArg Segment.hole (key_eq_of_starts tail))
      | cons c before =>
          refine not_placeholder_prefix filled fun inside => ?_
          have tail : '$' ∈ text "\x7b" ++ found.val ++ text "\x7d" := by
            have split' : before ++ after = text "\x7b" ++ found.val ++ text "\x7d" :=
              (List.cons.inj split).2
            rw [← split']
            simp [inside]
          simp [text, dollar_notMem_key found] at tail

/-- Replacing one placeholder fills in that hole everywhere and nothing else. -/
theorem replace_source (key : Key) (value : Plain) (template : Template) :
    replace (placeholder key.val) value.val (Template.source template) =
      Template.source (template.map (Segment.fill key value)) := by
  induction template with
  | nil => rfl
  | cons segment template ih =>
      rw [show Template.source (segment :: template) = segment.source ++ Template.source template from rfl]
      by_cases here : segment = .hole key
      · subst here
        rw [Segment.source, replace_occurrence _ _ _ (by simp [placeholder, text]), ih]
        simp [Template.source, Segment.fill, Segment.source]
      · have kept : segment.fill key value = segment := by
          cases segment with
          | literal s => rfl
          | hole other =>
              have differs : other ≠ key := fun same => here (congrArg Segment.hole same)
              simp [Segment.fill, differs]
        rw [replace_segment value.val (Template.source template) here, ih, List.map_cons, kept]
        rfl

/-- A key without a hole is looked for in vain, whatever its value. -/
theorem replace_unused {key : Key} {template : Template} (value : Text)
    (unused : .hole key ∉ template) :
    replace (placeholder key.val) value (Template.source template) = Template.source template := by
  induction template with
  | nil => rfl
  | cons segment template ih =>
      rw [List.mem_cons, not_or] at unused
      rw [show Template.source (segment :: template) = segment.source ++ Template.source template from rfl,
        replace_segment value (Template.source template) fun same => unused.1 same.symm, ih unused.2]

theorem placeholder_ne_nil (key : Text) : placeholder key ≠ [] := by simp [placeholder, text]

/-- An occurrence in front of another placeholder ends there: the other one starts with a `$`. -/
theorem not_straddling {key other after : Text} {c : Char} {before : Text} (plain : '$' ∉ key)
    (apart : ¬ placeholder key <+: c :: before) :
    ¬ placeholder key <+: [c] ++ (before ++ placeholder other ++ after) := by
  rintro ⟨rest, split⟩
  have whole : placeholder key ++ rest = (c :: before) ++ (placeholder other ++ after) := by
    rw [split]
    simp
  rcases List.append_eq_append_iff.mp whole with ⟨front, same, -⟩ | ⟨tail, same, later⟩
  · exact apart ⟨front, same.symm⟩
  · cases tail with
    | nil => exact apart ⟨[], by rw [List.append_nil, same, List.append_nil]⟩
    | cons first tail =>
        have dollar : '$' = first := (List.cons.inj later).1
        have inside : '$' ∈ before ++ first :: tail := by
          rw [← dollar]
          simp
        have key' : text "\x7b" ++ key ++ text "\x7d" = before ++ first :: tail := (List.cons.inj same).2
        rw [← key'] at inside
        simp [text, plain] at inside

/-- The other placeholders survive, whatever the value is. -/
theorem contains_replace_other {key other : Key} (value : Text) (differs : other ≠ key) {s : Text}
    (here : contains (placeholder other.val) s = true) :
    contains (placeholder other.val) (replace (placeholder key.val) value s) = true := by
  obtain ⟨before, after, rfl⟩ := (contains_iff _ _).mp here
  clear here
  induction size : before.length using Nat.strong_induction_on generalizing before with
  | _ n ih =>
      subst size
      cases before with
      | nil =>
          have kept := @replace_segment key (.hole other) value after
            fun same => differs (Segment.hole.inj same)
          rw [List.nil_append, show placeholder other.val = (Segment.hole other).source from rfl, kept]
          exact contains_of_append [] _ _
      | cons c before =>
          by_cases starts : placeholder key.val <+: c :: before
          · obtain ⟨front, split⟩ := starts
            have shorter : front.length < (c :: before).length := by
              rw [← split, List.length_append]
              exact Nat.lt_add_of_pos_left (List.length_pos_iff.mpr (placeholder_ne_nil key.val))
            rw [← split, List.append_assoc, List.append_assoc, replace_occurrence _ _ _ (placeholder_ne_nil _),
              ← List.append_assoc front]
            exact contains_append_left value (ih front.length shorter front rfl)
          · have kept : replace (placeholder key.val) value ([c] ++ (before ++ placeholder other.val ++ after)) =
                [c] ++ replace (placeholder key.val) value (before ++ placeholder other.val ++ after) := by
              refine replace_passed _ _ [c] _ fun later some suffix => ?_
              rcases List.suffix_cons_iff.mp suffix with rfl | none
              · exact not_straddling (dollar_notMem_key key) starts
              · exact absurd (List.suffix_nil.mp none) some
            rw [show c :: before ++ placeholder other.val ++ after =
              [c] ++ (before ++ placeholder other.val ++ after) from rfl, kept]
            exact contains_append_left [c] (ih before.length (Nat.lt_succ_self _) before rfl)

/-- The keys of the holes, in order. -/
def Template.keys (template : Template) : List Key :=
  template.filterMap fun segment =>
    match segment with
    | .literal _ => none
    | .hole key => some key

theorem runs_no_dollar (body : Regex) (passed after rest : Text) (groups : List (Nat × Text))
    (filled : after ≠ []) (plain : '$' ∉ after) :
    Regex.runs (.seq (.literal (text "$\x7b")) body) ⟨passed, after ++ rest, groups⟩ = [] := by
  have absent : (text "$\x7b").isPrefixOf (after ++ rest) = false := by
    cases after with
    | nil => exact absurd rfl filled
    | cons c after =>
        have other : '$' ≠ c := fun same => plain (same ▸ List.mem_cons_self)
        simp [text, List.isPrefixOf, other]
  rw [Regex.runs_seq, Regex.runs_literal, absent]
  rfl

/-- The pattern runs over a placeholder in one way and captures its key. -/
theorem runs_placeholder (key : Key) (passed rest : Text) :
    Regex.runs placeholderPattern ⟨passed, placeholder key.val ++ rest, []⟩ =
      [⟨(placeholder key.val).reverse ++ passed, rest, [(1, key.val)]⟩] := by
  have opens : (text "$\x7b").isPrefixOf (placeholder key.val ++ rest) = true := by
    rw [List.isPrefixOf_iff_prefix]
    exact ⟨key.val ++ text "\x7d" ++ rest, by simp [placeholder]⟩
  have ahead : (placeholder key.val ++ rest).drop (text "$\x7b").length = key.val ++ '}' :: rest := by
    simp [placeholder, text]
  rw [placeholderPattern, Regex.runs_seq, Regex.runs_literal, if_pos opens, ahead,
    List.flatMap_singleton, Regex.runs_class_then isKeyChar '}' _ key.val rest [] key.property.2
      (by decide) 1 key.property.1]
  simp [placeholder, text]

/-- The scan finds the holes of a template, in order. -/
theorem findall_source (template : Template) :
    (Regex.findall placeholderPattern (Template.source template)).map (fun finish => finish.group 1) =
      (Template.keys template).map Subtype.val := by
  suffices general : ∀ passed,
      (Regex.findallFrom placeholderPattern 0 passed (Template.source template)).map
        (fun finish => finish.group 1) = (Template.keys template).map Subtype.val by
    exact general []
  induction template with
  | nil =>
      intro passed
      rfl
  | cons segment template ih =>
      intro passed
      cases segment with
      | literal s =>
          have skipped := Regex.findallFrom_passed placeholderPattern passed s.val (Template.source template)
            fun before after split filled => runs_no_dollar _ _ _ _ _ filled fun inside =>
              s.property (split ▸ List.mem_append_right before inside)
          rw [show Template.source (.literal s :: template) = s.val ++ Template.source template from rfl, skipped,
            ih]
          rfl
      | hole key =>
          have matched := Regex.findallFrom_match placeholderPattern passed (placeholder key.val)
            (Template.source template) _ [] (by simp [placeholder, text]) (runs_placeholder key passed _)
          rw [show Template.source (.hole key :: template) =
            placeholder key.val ++ Template.source template from rfl, matched, List.map_cons, ih]
          rfl

theorem found_unresolved (s : Text) :
    Regex.found unresolvedPattern s = true ↔ Regex.findall placeholderPattern s ≠ [] := by
  rw [Regex.findall_ne_nil, Regex.found_iff, Regex.found_iff]
  have same (start : Cursor) :
      Regex.runs unresolvedPattern start = [] ↔ Regex.runs placeholderPattern start = [] := by
    rw [unresolvedPattern, placeholderPattern, Regex.runs_seq, Regex.runs_seq,
      List.flatMap_eq_nil_iff, List.flatMap_eq_nil_iff]
    exact forall₂_congr fun middle _ => (Regex.runs_group_char_eq_nil 1 _ _ middle).symm
  simp only [ne_eq, same]

/-- A placeholder with no key of the items survives all replacements. -/
theorem contains_foldl_replace {other : Key} {items : List (Text × Text)}
    (keys : ∀ item ∈ items, IsKey item.1) (differ : ∀ item ∈ items, item.1 ≠ other.val) {s : Text}
    (here : contains (placeholder other.val) s = true) :
    contains (placeholder other.val)
      (items.foldl (fun rendered item => replace (placeholder item.1) item.2 rendered) s) = true := by
  induction items generalizing s with
  | nil => exact here
  | cons item items ih =>
      have differs : other ≠ ⟨item.1, keys item List.mem_cons_self⟩ := by
        rintro rfl
        exact differ item List.mem_cons_self rfl
      exact ih (fun later member => keys later (List.mem_cons_of_mem item member))
        (fun later member => differ later (List.mem_cons_of_mem item member))
        (contains_replace_other item.2 differs here)

/-- A value that brings in a placeholder nothing fills later leaves it unresolved. -/
theorem substitutePlaceholders_unresolved {before after : List (Text × Text)} {content value : Text}
    {key other : Key} (keys : ∀ item ∈ before ++ (key.val, value) :: after, IsKey item.1)
    (first : ∀ item ∈ before, item.1 ≠ key.val) (last : ∀ item ∈ after, item.1 ≠ other.val)
    (hole : contains (placeholder key.val) content = true)
    (inside : contains (placeholder other.val) value = true) :
    ∃ message, substitutePlaceholders content (before ++ (key.val, value) :: after) = .error message := by
  have reached := contains_foldl_replace (fun item member => keys item (List.mem_append_left _ member)) first hole
  have brought : contains (placeholder other.val) (replace (placeholder key.val) value
      (before.foldl (fun rendered item => replace (placeholder item.1) item.2 rendered) content)) = true := by
    have held := contains_replace (placeholder key.val) value (placeholder_ne_nil key.val) reached
    rw [contains_iff] at inside held ⊢
    exact inside.trans held
  have left := contains_foldl_replace (fun item member => keys item
    (List.mem_append_right _ (List.mem_cons_of_mem _ member))) last brought
  have found : Regex.found unresolvedPattern ((before ++ (key.val, value) :: after).foldl
      (fun rendered item => replace (placeholder item.1) item.2 rendered) content) = true := by
    rw [List.foldl_append, List.foldl_cons, found_unresolved, Regex.findall_ne_nil, Regex.found_iff]
    obtain ⟨front, rest, split⟩ := (contains_iff _ _).mp left
    refine ⟨front, placeholder other.val ++ rest, by rw [← split, List.append_assoc], ?_⟩
    rw [runs_placeholder]
    exact List.cons_ne_nil _ _
  exact ⟨_, by rw [substitutePlaceholders, if_pos found]⟩

/-- A hole of the map's keys filled in, every other segment kept. -/
def Substitutions.fill (substitutions : Substitutions) : Segment → Segment
  | .literal s => .literal s
  | .hole key =>
      match substitutions.get key with
      | some value => .literal value
      | none => .hole key

theorem foldl_fill (entries : List (Key × Plain)) (segment : Segment) :
    entries.foldl (fun segment entry => segment.fill entry.1 entry.2) segment =
      match segment with
      | .literal s => .literal s
      | .hole key =>
          match entries.lookup key with
          | some value => .literal value
          | none => .hole key := by
  induction entries generalizing segment with
  | nil => cases segment <;> rfl
  | cons entry entries ih =>
      obtain ⟨filledKey, value⟩ := entry
      rw [List.foldl_cons, ih]
      cases segment with
      | literal s => rfl
      | hole key =>
          by_cases same : key = filledKey
          · subst same
            simp [Segment.fill]
          · have differs : (key == filledKey) = false := beq_false_of_ne same
            simp only [Segment.fill, same, ↓reduceIte, List.lookup_cons, differs]

/-- The loop over the map leaves the template with every key of the map filled in. -/
theorem foldl_replace (substitutions : Substitutions) (template : Template) :
    substitutions.items.foldl (fun rendered item =>
        replace (placeholder item.1) item.2 rendered) (Template.source template) =
      Template.source (template.map substitutions.fill) := by
  have run (entries : List (Key × Plain)) (template : Template) :
      (entries.map fun entry => (entry.1.val, entry.2.val)).foldl (fun rendered item =>
          replace (placeholder item.1) item.2 rendered) (Template.source template) =
        Template.source (template.map fun segment =>
          entries.foldl (fun segment entry => segment.fill entry.1 entry.2) segment) := by
    induction entries generalizing template with
    | nil => simp
    | cons entry entries ih =>
        rw [List.map_cons, List.foldl_cons, replace_source, ih, List.map_map]
        rfl
  rw [Substitutions.items, run]
  refine congrArg Template.source (List.map_congr_left fun segment _ => ?_)
  rw [foldl_fill]
  cases segment <;> rfl

theorem mem_keys_filled (substitutions : Substitutions) (template : Template) (key : Key) :
    key ∈ Template.keys (template.map substitutions.fill) ↔ Missing substitutions template key := by
  simp only [Template.keys, Missing, List.mem_filterMap, List.mem_map]
  constructor
  · rintro ⟨filled, ⟨segment, member, rfl⟩, found⟩
    cases segment with
    | literal s => cases found
    | hole other =>
        cases got : substitutions.get other with
        | some value =>
            simp only [Substitutions.fill, got] at found
            cases found
        | none =>
            simp only [Substitutions.fill, got, Option.some.injEq] at found
            subst found
            exact ⟨member, got⟩
  · rintro ⟨member, got⟩
    exact ⟨.hole key, ⟨.hole key, member, by simp [Substitutions.fill, got]⟩, rfl⟩

theorem source_filled (substitutions : Substitutions) (template : Template) :
    Template.source (template.map substitutions.fill) = simultaneous substitutions template := by
  rw [Template.source, List.flatMap_map, simultaneous]
  refine List.flatMap_congr fun segment _ => ?_
  cases segment with
  | literal s => rfl
  | hole key =>
      cases got : substitutions.get key with
      | some value => simp [Substitutions.fill, got, Segment.source]
      | none => simp [Substitutions.fill, got, Segment.source]

theorem sortedDistinct_pairwise (names : List Text) :
    (sortedDistinct names).Pairwise (· < ·) := by
  have distinct : (sortedDistinct names).Nodup :=
    (List.perm_insertionSort (· ≤ ·) names.dedup).nodup_iff.mpr names.nodup_dedup
  have sorted : (sortedDistinct names).Pairwise (· ≤ ·) :=
    List.pairwise_insertionSort (· ≤ ·) names.dedup
  exact (sorted.and distinct).imp fun ordered => lt_of_le_of_ne ordered.1 ordered.2

theorem mem_sortedDistinct (names : List Text) (name : Text) :
    name ∈ sortedDistinct names ↔ name ∈ names := by
  rw [sortedDistinct, (List.perm_insertionSort (· ≤ ·) names.dedup).mem_iff, List.mem_dedup]

/-- What `substitute_placeholders` computes on a template. -/
theorem substitutePlaceholders_source (substitutions : Substitutions) (template : Template) :
    substitutePlaceholders (Template.source template) substitutions.items =
      if Template.keys (template.map substitutions.fill) = [] then
        .ok (simultaneous substitutions template)
      else
        .error (text "unresolved template placeholders: " ++ join (text ", ") (sortedDistinct
          ((Template.keys (template.map substitutions.fill)).map Subtype.val))) := by
  have names := findall_source (template.map substitutions.fill)
  have unresolved : Regex.found unresolvedPattern
      (Template.source (template.map substitutions.fill)) = true ↔
        Template.keys (template.map substitutions.fill) ≠ [] := by
    rw [found_unresolved, ne_eq, ← List.map_eq_nil_iff (f := fun finish => Cursor.group finish 1),
      names, List.map_eq_nil_iff]
  unfold substitutePlaceholders
  simp only [foldl_replace, names, unresolved, ne_eq, ite_not]
  rw [source_filled]

/-- With distinct keys, looking a key up finds the entry that has it. -/
theorem lookup_eq_some_iff_mem {entries : List (Key × Plain)}
    (distinct : (entries.map Prod.fst).Nodup) (key : Key) (value : Plain) :
    entries.lookup key = some value ↔ (key, value) ∈ entries := by
  induction entries with
  | nil => simp
  | cons entry entries ih =>
      obtain ⟨first, held⟩ := entry
      rw [List.map_cons, List.nodup_cons] at distinct
      rw [List.lookup_cons, List.mem_cons, Prod.mk.injEq]
      by_cases same : key = first
      · subst same
        have notLater : (key, value) ∉ entries := fun later =>
          distinct.1 (List.mem_map.mpr ⟨_, later, rfl⟩)
        simp only [BEq.rfl, Option.some.injEq, true_and, notLater, or_false]
        exact eq_comm
      · simp only [beq_false_of_ne same, ih distinct.2, same, false_and, false_or]

theorem get_eq_of_perm {substitutions other : Substitutions}
    (reordered : substitutions.entries.Perm other.entries) (key : Key) :
    substitutions.get key = other.get key :=
  Option.ext fun value => by
    rw [Substitutions.get, Substitutions.get, lookup_eq_some_iff_mem substitutions.distinct,
      lookup_eq_some_iff_mem other.distinct, reordered.mem_iff]

/-- On a template of literal text and placeholders, the sequential replacements
are one simultaneous substitution, whatever the order of the map; they fail
exactly when a key is missing, and the message lists the missing keys in order
and without repetition. -/
theorem substitutePlaceholders_simultaneous (substitutions : Substitutions)
    (template : Template) :
    ((∀ key, ¬ Missing substitutions template key) →
      substitutePlaceholders (Template.source template) substitutions.items =
        .ok (simultaneous substitutions template)) ∧
    ((∃ key, Missing substitutions template key) →
      ∃ names : List Text, names.Pairwise (· < ·) ∧
        (∀ name, name ∈ names ↔ ∃ key, Missing substitutions template key ∧ key.val = name) ∧
        substitutePlaceholders (Template.source template) substitutions.items =
          .error (text "unresolved template placeholders: " ++ join (text ", ") names)) ∧
    ∀ other : Substitutions, substitutions.entries.Perm other.entries →
      substitutePlaceholders (Template.source template) other.items =
        substitutePlaceholders (Template.source template) substitutions.items := by
  have computed := substitutePlaceholders_source substitutions template
  refine ⟨fun complete => ?_, fun ⟨key, missing⟩ => ?_, fun other reordered => ?_⟩
  · have none : Template.keys (template.map substitutions.fill) = [] :=
      List.eq_nil_iff_forall_not_mem.mpr fun key member =>
        complete key ((mem_keys_filled substitutions template key).mp member)
    rw [computed, if_pos none]
  · have some : Template.keys (template.map substitutions.fill) ≠ [] :=
      List.ne_nil_of_mem ((mem_keys_filled substitutions template key).mpr missing)
    refine ⟨_, sortedDistinct_pairwise _, fun name => ?_, by rw [computed, if_neg some]⟩
    simp only [mem_sortedDistinct, List.mem_map, mem_keys_filled]
  · have same : other.fill = substitutions.fill := by
      funext segment
      cases segment with
      | literal s => rfl
      | hole key => simp only [Substitutions.fill, get_eq_of_perm reordered key]
    rw [substitutePlaceholders_source, computed, same, ← source_filled, ← source_filled, same]

/-- A segment with its hole looked up in the items of a map. -/
def Segment.lookup (items : List (Text × Text)) : Segment → Text
  | .literal s => s.val
  | .hole key => (items.lookup key.val).getD (placeholder key.val)

theorem lookup_cons_of_ne {key first : Text} (value : Text) (items : List (Text × Text))
    (other : key ≠ first) : ((first, value) :: items).lookup key = items.lookup key := by
  rw [List.lookup_cons, beq_false_of_ne other]

/-- The loop over a map of which only the values of the template's holes are known
to be free of `$`. -/
theorem foldl_replace_lookup (items : List (Text × Text)) (keys : ∀ item ∈ items, IsKey item.1)
    (template : Template)
    (plain : ∀ key value, .hole key ∈ template → items.lookup key.val = some value → '$' ∉ value) :
    items.foldl (fun rendered item => replace (placeholder item.1) item.2 rendered)
        (Template.source template) = template.flatMap (Segment.lookup items) := by
  induction items generalizing template with
  | nil =>
      refine List.flatMap_congr fun segment _ => ?_
      cases segment <;> rfl
  | cons item items ih =>
      obtain ⟨name, value⟩ := item
      have keysLater : ∀ item ∈ items, IsKey item.1 := fun item member =>
        keys item (List.mem_cons_of_mem _ member)
      let key : Key := ⟨name, keys (name, value) (by simp)⟩
      have first : ((name, value) :: items).lookup key.val = some value := by simp [key]
      have other {found : Key} (differs : found ≠ key) :
          ((name, value) :: items).lookup found.val = items.lookup found.val :=
        lookup_cons_of_ne value items fun same => differs (Subtype.ext same)
      by_cases used : .hole key ∈ template
      · have plainValue : '$' ∉ value := plain key value used first
        rw [List.foldl_cons]
        rw [show replace (placeholder name) value (Template.source template) = _ from
          replace_source key ⟨value, plainValue⟩ template, ih keysLater, List.flatMap_map]
        · refine List.flatMap_congr fun segment _ => ?_
          cases segment with
          | literal s => rfl
          | hole found =>
              by_cases same : found = key
              · subst same
                simp [Segment.fill, Segment.lookup, key]
              · simp only [Segment.fill, same, ↓reduceIte, Segment.lookup, other same]
        · intro found held member got
          obtain ⟨segment, inside, filled⟩ := List.mem_map.mp member
          cases segment with
          | literal s => cases filled
          | hole original =>
              rw [Segment.fill] at filled
              split at filled
              · cases filled
              · rename_i differs
                cases filled
                exact plain found held inside ((other differs).trans got)
      · have differs {found : Key} (member : .hole found ∈ template) : found ≠ key := fun same =>
          used (same ▸ member)
        have kept : replace (placeholder key.val) value (Template.source template) =
            Template.source template := replace_unused value used
        rw [List.foldl_cons]
        rw [show replace (placeholder name) value (Template.source template) = _ from kept, ih keysLater]
        · refine List.flatMap_congr fun segment member => ?_
          cases segment with
          | literal s => rfl
          | hole found => simp only [Segment.lookup, other (differs member)]
        · intro found held member got
          exact plain found held member ((other (differs member)).trans got)

theorem notFound_of_plain {s : Text} (plain : '$' ∉ s) : Regex.found unresolvedPattern s = false := by
  rw [Bool.eq_false_iff, ne_eq, Regex.found_iff]
  rintro ⟨before, after, split, run⟩
  by_cases some : after = []
  · subst some
    exact run (by simp [unresolvedPattern, Regex.runs_literal, text])
  · have none := runs_no_dollar (.seq (.many 1 isKeyChar) (.char (· == '}'))) before.reverse after [] []
      some fun inside => plain (split ▸ List.mem_append_right before inside)
    rw [List.append_nil] at none
    exact run none

/-- A template whose holes all have a value free of `$` is rendered in one pass. -/
theorem substitutePlaceholders_complete {items : List (Text × Text)} {template : Template}
    (keys : ∀ item ∈ items, IsKey item.1)
    (complete : ∀ key, .hole key ∈ template →
      ∃ value, items.lookup key.val = some value ∧ '$' ∉ value) :
    substitutePlaceholders (Template.source template) items =
      .ok (template.flatMap (Segment.lookup items)) := by
  have rendered := foldl_replace_lookup items keys template fun key value member got => by
    obtain ⟨held, same, plain⟩ := complete key member
    rw [same] at got
    cases got
    exact plain
  have plain : '$' ∉ template.flatMap (Segment.lookup items) := by
    intro inside
    obtain ⟨segment, member, inside⟩ := List.mem_flatMap.mp inside
    cases segment with
    | literal s => exact s.property inside
    | hole key =>
        obtain ⟨value, same, plainValue⟩ := complete key member
        rw [Segment.lookup, same] at inside
        exact plainValue inside
  unfold substitutePlaceholders
  simp only [rendered, notFound_of_plain plain, Bool.false_eq_true, ↓reduceIte]

example : substitutePlaceholders (text "${A}/${AB}") [(text "A", text "1"), (text "AB", text "2")] =
    .ok (text "1/2") := by decide +kernel

example : substitutePlaceholders (text "${B}${A}${B}") [] =
    .error (text "unresolved template placeholders: A, B") := by decide +kernel

end QuantumSafe.RenderTopo
