import QuantumSafe.PyValue
import QuantumSafe.Reports

set_option autoImplicit false

/- Shapes of decoded values: what a program that does not check types needs of a
value in order not to raise. -/
namespace PyValue

open PyText Reports

def Value.isDict : Value → Bool
  | .dict _ => true
  | _ => false

/-- A string can be searched in the value with `in`. -/
def Value.isContainer : Value → Bool
  | .str _ | .list _ | .set _ | .pair _ _ | .dict _ => true
  | _ => false

def Value.isString : Value → Bool
  | .str _ => true
  | _ => false

/-- A mapping that has, under each of the keys, no entry or one of the given shape. -/
def dictWith (shapes : List (Text × (Value → Bool))) : Value → Bool
  | .dict entries => shapes.all fun (key, shape) => (find key entries).all shape
  | _ => false

/-- An iterable value with items of the given shape. -/
def eachOf (shape : Value → Bool) (value : Value) : Bool :=
  match value.iter with
  | .ok items => items.all shape
  | .error _ => false

/-- Null, or a value of the given shape. -/
def nullOr (shape : Value → Bool) : Value → Bool
  | .none => true
  | value => shape value

section

variable {shapes others : List (Text × (Value → Bool))} {shape other : Value → Bool} {key : Text}
  {value : Value}

theorem isContainer_of_isDict (dict : value.isDict = true) : value.isContainer = true := by
  cases value with
  | dict entries => rfl
  | _ => cases dict

theorem dictWith_append :
    dictWith (shapes ++ others) value = true ↔
      dictWith shapes value = true ∧ dictWith others value = true := by
  cases value with
  | dict entries => simp only [dictWith, List.all_append, Bool.and_eq_true]
  | _ => simp [dictWith]

theorem dictWith_cons {first : Text × (Value → Bool)} :
    dictWith (first :: shapes) value = true ↔
      dictWith [first] value = true ∧ dictWith shapes value = true :=
  @dictWith_append [first] shapes value

theorem isDict_of_dictWith (shaped : dictWith shapes value = true) : value.isDict = true := by
  cases value with
  | dict entries => rfl
  | _ => cases shaped

/-- A mapping with each of its shapes on its own. -/
theorem dictWith_iff :
    dictWith shapes value = true ↔
      value.isDict = true ∧ ∀ entry ∈ shapes, dictWith [entry] value = true := by
  cases value with
  | dict entries => simp [dictWith, Value.isDict]
  | _ => simp [dictWith, Value.isDict]

theorem dictWith_map_of_mem {Item : Type} {items : List Item} {name : Item → Text}
    {shape : Item → Value → Bool} {first : Item} (some : first ∈ items) :
    dictWith (items.map fun item => (name item, shape item)) value = true ↔
      ∀ item ∈ items, dictWith [(name item, shape item)] value = true := by
  rw [dictWith_iff, List.forall_mem_map, and_iff_right_iff_imp]
  intro every
  exact isDict_of_dictWith (every first some)

/-- A weaker shape under the same key. -/
theorem dictWith_mono (weaker : ∀ inner, shape inner = true → other inner = true)
    (shaped : dictWith [(key, shape)] value = true) : dictWith [(key, other)] value = true := by
  cases value with
  | dict entries =>
      simp only [dictWith, List.all_cons, List.all_nil, Bool.and_true] at shaped ⊢
      cases there : find key entries with
      | none => rfl
      | some inner =>
          rw [there] at shaped
          exact weaker inner shaped
  | _ => cases shaped

/-- Two shapes under the same key. -/
theorem dictWith_both {both : Value → Bool}
    (same : ∀ inner, both inner = true ↔ shape inner = true ∧ other inner = true) :
    dictWith [(key, both)] value = true ↔
      dictWith [(key, shape)] value = true ∧ dictWith [(key, other)] value = true := by
  constructor
  · intro shaped
    exact ⟨dictWith_mono (fun inner of => ((same inner).mp of).1) shaped,
      dictWith_mono (fun inner of => ((same inner).mp of).2) shaped⟩
  · rintro ⟨first, second⟩
    cases value with
    | dict entries =>
        simp only [dictWith, List.all_cons, List.all_nil, Bool.and_true] at first second ⊢
        cases there : find key entries with
        | none => rfl
        | some inner =>
            rw [there] at first second
            exact (same inner).mpr ⟨first, second⟩
    | _ => cases first

/-- The entry that a shape is about. -/
theorem dictWith_subscript (shaped : dictWith shapes value = true) (member : (key, shape) ∈ shapes)
    {inner : Value} (there : value.subscript key = .ok inner) : shape inner = true := by
  cases value with
  | dict entries =>
      have entry : (find key entries).all shape = true := List.all_eq_true.mp shaped _ member
      cases found : find key entries with
      | none =>
          rw [Value.subscript, found] at there
          cases there
      | some other =>
          rw [Value.subscript, found] at there
          cases there
          rw [found] at entry
          exact entry
  | _ => cases shaped

/-- The entry that a lookup with a default gave has the shape. -/
theorem dictWith_of_getOr {default inner : Value} (there : value.getOr key default = .ok inner)
    (shaped : shape inner = true) : dictWith [(key, shape)] value = true := by
  cases value with
  | dict entries =>
      rw [Value.getOr] at there
      simp only [dictWith, List.all_cons, List.all_nil, Bool.and_true]
      cases found : find key entries with
      | none => rfl
      | some other =>
          rw [found] at there
          cases there
          exact shaped
  | _ => cases there

theorem nullOr_of (shaped : shape value = true) : nullOr shape value = true := by
  cases value with
  | none => rfl
  | _ => exact shaped

theorem nullOr_mono (weaker : shape value = true → other value = true)
    (shaped : nullOr shape value = true) : nullOr other value = true := by
  cases value with
  | none => rfl
  | _ => exact weaker shaped

/-- Null is left out where a mapping is needed as well. -/
theorem nullOr_and_iff (mapping : other value = true → value.isDict = true) :
    nullOr shape value = true ∧ other value = true ↔ shape value = true ∧ other value = true := by
  cases value with
  | none =>
      have never : other .none ≠ true := fun holds => Bool.false_ne_true (mapping holds)
      exact iff_of_false (fun both => never both.2) (fun both => never both.2)
  | _ => exact Iff.rfl

theorem returns_getOr_iff {default : Value} :
    Returns (value.getOr key default) ↔ value.isDict = true := by
  cases value <;> simp [Returns, Value.getOr, Value.isDict]

/-- A mapping has the key iff it gives an entry for it. -/
theorem has_dict (entries : List (Value × Value)) :
    (Value.dict entries).has key = .ok (find key entries).isSome := by
  rw [Value.has, find, Option.isSome_map, List.isSome_find?]

/-- A shape of the entry that is enough for what follows. -/
theorem returns_getOr_bind {Item : Type} {default : Value} {next : Value → Except Raised Item}
    (rule : ∀ inner, shape inner = true → Returns (next inner)) (base : shape default = true)
    (shaped : dictWith [(key, shape)] value = true) : Returns (value.getOr key default >>= next) := by
  cases value with
  | dict entries =>
      simp only [dictWith, List.all_cons, List.all_nil, Bool.and_true] at shaped
      rw [Value.getOr, ok_bind]
      apply rule
      cases there : find key entries with
      | none => exact base
      | some inner =>
          rw [there] at shaped
          exact shaped
  | _ => cases shaped

/-- A chain that goes on with the entry of a mapping, where the default does not
stop it: it needs the mapping, and the shape of the entry. -/
theorem returns_getOr_bind_iff {Item : Type} {default : Value} {next : Value → Except Raised Item}
    (rule : ∀ inner, Returns (next inner) ↔ shape inner = true) (base : shape default = true) :
    Returns (value.getOr key default >>= next) ↔ dictWith [(key, shape)] value = true := by
  constructor
  · intro returns
    obtain ⟨inner, there, later⟩ := returns_bind_iff.mp returns
    exact dictWith_of_getOr there ((rule inner).mp later)
  · exact returns_getOr_bind (fun inner => (rule inner).mpr) base

theorem returns_has_iff : Returns (value.has key) ↔ value.isContainer = true := by
  cases value <;> simp [Returns, Value.has, Value.isContainer]

theorem returns_asStr_iff : Returns value.asStr ↔ value.isString = true := by
  cases value <;> simp [Returns, Value.asStr, Value.isString]

/-- A shape of the items that is enough for a loop over them. -/
theorem returns_iter_bind {Item : Type} {check : Value → Except Raised (List Item)}
    (rule : ∀ item, shape item = true → Returns (check item)) (shaped : eachOf shape value = true) :
    Returns (value.iter >>= fun items => forEach items check) := by
  rw [eachOf] at shaped
  split at shaped
  · next items iterates =>
      rw [iterates, ok_bind, returns_forEach_iff]
      intro item member
      exact rule item (List.all_eq_true.mp shaped item member)
  · cases shaped

/-- A loop over the items of a value. -/
theorem returns_iter_bind_iff {check : Value → Except Raised (List Text)}
    (rule : ∀ item, Returns (check item) ↔ shape item = true) :
    Returns (value.iter >>= fun items => forEach items check) ↔ eachOf shape value = true := by
  constructor
  · intro returns
    obtain ⟨items, iterates, later⟩ := returns_bind_iff.mp returns
    rw [eachOf, iterates, List.all_eq_true]
    intro item member
    exact (rule item).mp (returns_forEach_iff.mp later item member)
  · exact returns_iter_bind fun item => (rule item).mpr

theorem returns_strOf_iff {printable : Char → Bool} :
    Returns (value.strOf printable) ↔ value.showable = true := by
  rw [Value.strOf]
  split
  · next shown => exact iff_of_true (returns_ok _) shown
  · next unshown => exact iff_of_false not_returns_error unshown

end

end PyValue
