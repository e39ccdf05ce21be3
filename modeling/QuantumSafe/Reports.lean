import Mathlib.Data.List.Basic

set_option autoImplicit false

/- Checks that report a list of problems, or are ended by an exception. -/
namespace Reports

variable {ε ε' Problem Item Value : Type}

/-- Checks made one after another, up to the first exception. -/
def inTurn : List (Except ε (List Problem)) → Except ε (List Problem)
  | [] => .ok []
  | check :: rest => do
      let problems ← check
      let others ← inTurn rest
      return problems ++ others

/-- One check for each item. -/
def forEach (items : List Item) (check : Item → Except ε (List Problem)) : Except ε (List Problem) :=
  inTurn (items.map check)

theorem inTurn_cons_iff {check : Except ε (List Problem)} {rest : List (Except ε (List Problem))}
    {all : List Problem} :
    inTurn (check :: rest) = .ok all ↔
      ∃ problems others, check = .ok problems ∧ inTurn rest = .ok others ∧ all = problems ++ others := by
  cases check with
  | error problem => simp [inTurn, bind, Except.bind]
  | ok problems =>
      cases later : inTurn rest with
      | error problem => simp [inTurn, later, bind, Except.bind]
      | ok others =>
          simp only [inTurn, later, bind, Except.bind, pure, Except.pure, Except.ok.injEq]
          constructor
          · rintro rfl
            exact ⟨problems, others, rfl, rfl, rfl⟩
          · rintro ⟨_, _, rfl, rfl, rfl⟩
            rfl

/-- Nothing is reported iff no check reports anything, and all of them end normally. -/
theorem inTurn_clean_iff {checks : List (Except ε (List Problem))} :
    inTurn checks = .ok [] ↔ ∀ check ∈ checks, check = .ok [] := by
  induction checks with
  | nil => simp [inTurn]
  | cons check rest ih =>
      rw [inTurn_cons_iff, List.forall_mem_cons, ← ih]
      constructor
      · rintro ⟨problems, others, first, later, none⟩
        have parts := List.append_eq_nil_iff.mp none.symm
        exact ⟨parts.1 ▸ first, parts.2 ▸ later⟩
      · rintro ⟨first, later⟩
        exact ⟨[], [], first, later, rfl⟩

theorem forEach_map {Source : Type} (items : List Source) (view : Source → Item)
    (check : Item → Except ε (List Problem)) :
    forEach (items.map view) check = forEach items fun item => check (view item) := by
  rw [forEach, forEach, List.map_map]
  rfl

theorem forEach_ok {items : List Item} {check : Item → Except ε (List Problem)}
    {reported : Item → List Problem} (every : ∀ item ∈ items, check item = .ok (reported item)) :
    forEach items check = .ok (items.flatMap reported) := by
  induction items with
  | nil => rfl
  | cons first rest ih =>
      have here := every first List.mem_cons_self
      have later := ih fun item inside => every item (List.mem_cons_of_mem _ inside)
      exact inTurn_cons_iff.mpr ⟨_, _, here, later, List.flatMap_cons⟩

/-- What a complete round over the items reports. -/
theorem mem_of_forEach {items : List Item} {check : Item → Except ε (List Problem)} {all : List Problem}
    (ok : forEach items check = .ok all) {item : Item} (member : item ∈ items) :
    ∃ problems, check item = .ok problems ∧ problems ⊆ all := by
  induction items generalizing all with
  | nil => cases member
  | cons first rest ih =>
      obtain ⟨problems, others, here, later, rfl⟩ := inTurn_cons_iff.mp ok
      rcases List.mem_cons.mp member with rfl | inside
      · exact ⟨problems, here, List.subset_append_left _ _⟩
      · obtain ⟨found, reported, among⟩ := ih later inside
        exact ⟨found, reported, List.Subset.trans among (List.subset_append_right _ _)⟩

theorem bind_ok_iff {first : Except ε Value} {next : Value → Except ε Item} {result : Item} :
    (first >>= next) = .ok result ↔ ∃ value, first = .ok value ∧ next value = .ok result := by
  cases first with
  | error problem => simp [bind, Except.bind]
  | ok value => simp [bind, Except.bind]

theorem then_ok_iff {first : Except ε Unit} {next : Except ε Item} {result : Item} :
    (first >>= fun _ => next) = .ok result ↔ first = .ok () ∧ next = .ok result := by
  rw [bind_ok_iff]
  exact ⟨fun ⟨(), here, later⟩ => ⟨here, later⟩, fun ⟨here, later⟩ => ⟨(), here, later⟩⟩

theorem ok_bind (value : Value) (next : Value → Except ε Item) : (Except.ok value >>= next) = next value := rfl

theorem bind_eq_of_ok {first : Except ε Value} {next : Value → Except ε Item} {value : Value}
    (known : first = .ok value) : (first >>= next) = next value := by
  rw [known]
  rfl

theorem bind_of_ok {first : Except ε Value} {next : Value → Except ε Item} {value : Value} {result : Item}
    (known : first = .ok value) (ok : (first >>= next) = .ok result) : next value = .ok result := by
  rw [known] at ok
  exact ok

theorem map_ok_iff {change : Value → Item} {ends : Except ε Value} {result : Item} :
    ends.map change = .ok result ↔ ∃ value, ends = .ok value ∧ change value = result := by
  cases ends <;> simp [Except.map]

theorem mapError_ok_iff {tag : ε → ε'} {ends : Except ε Value} {value : Value} :
    ends.mapError tag = .ok value ↔ ends = .ok value := by
  cases ends <;> simp [Except.mapError]

/-- The computation is not ended by an exception. -/
def Returns (ends : Except ε Value) : Prop := ∃ value, ends = .ok value

theorem returns_ok (value : Value) : Returns (.ok value : Except ε Value) := ⟨value, rfl⟩

theorem not_returns_error {problem : ε} : ¬ Returns (.error problem : Except ε Value) := by
  rintro ⟨_, ⟨⟩⟩

theorem returns_bind_iff {first : Except ε Value} {next : Value → Except ε Item} :
    Returns (first >>= next) ↔ ∃ value, first = .ok value ∧ Returns (next value) := by
  simp only [Returns, bind_ok_iff]
  constructor
  · rintro ⟨result, value, here, later⟩
    exact ⟨value, here, result, later⟩
  · rintro ⟨value, here, result, later⟩
    exact ⟨result, value, here, later⟩

/-- What cannot raise does not matter to whether the whole returns. -/
theorem returns_pure_iff {first : Except ε Value} {change : Value → Item} :
    Returns (first >>= fun value => pure (change value)) ↔ Returns first := by
  rw [returns_bind_iff]
  constructor
  · rintro ⟨value, here, -⟩
    exact ⟨value, here⟩
  · rintro ⟨value, here⟩
    exact ⟨value, here, returns_ok _⟩

theorem returns_mapError_iff {tag : ε → ε'} {ends : Except ε Value} :
    Returns (ends.mapError tag) ↔ Returns ends := by
  simp only [Returns, mapError_ok_iff]

/-- Checks made in turn end normally iff each of them does. -/
theorem returns_inTurn_iff {checks : List (Except ε (List Problem))} :
    Returns (inTurn checks) ↔ ∀ check ∈ checks, Returns check := by
  induction checks with
  | nil => exact iff_of_true (returns_ok []) (List.forall_mem_nil _)
  | cons check rest ih =>
      rw [inTurn, returns_bind_iff, List.forall_mem_cons, ← ih]
      constructor
      · rintro ⟨problems, here, later⟩
        exact ⟨⟨problems, here⟩, returns_pure_iff.mp later⟩
      · rintro ⟨⟨problems, here⟩, later⟩
        exact ⟨problems, here, returns_pure_iff.mpr later⟩

theorem returns_inTurn_pair_iff {first second : Except ε (List Problem)} :
    Returns (inTurn [first, second]) ↔ Returns first ∧ Returns second := by
  rw [returns_inTurn_iff, List.forall_mem_cons, List.forall_mem_singleton]

theorem returns_forEach_iff {items : List Item} {check : Item → Except ε (List Problem)} :
    Returns (forEach items check) ↔ ∀ item ∈ items, Returns (check item) := by
  rw [forEach, returns_inTurn_iff, List.forall_mem_map]

theorem returns_mapM_iff {items : List Item} {change : Item → Except ε Value} :
    Returns (items.mapM change) ↔ ∀ item ∈ items, Returns (change item) := by
  induction items with
  | nil => exact iff_of_true (returns_ok []) (List.forall_mem_nil _)
  | cons item rest ih =>
      rw [List.mapM_cons, returns_bind_iff, List.forall_mem_cons, ← ih]
      constructor
      · rintro ⟨value, here, later⟩
        exact ⟨⟨value, here⟩, returns_pure_iff.mp later⟩
      · rintro ⟨⟨value, here⟩, later⟩
        exact ⟨value, here, returns_pure_iff.mpr later⟩

end Reports
