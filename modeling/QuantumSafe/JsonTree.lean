import QuantumSafe.PyJson

set_option autoImplicit false

/- A decoded value as a tree: what is inside it, and recursion over it. -/
namespace PyJson

open PyText

mutual

/-- The value itself and every value inside it, in document order. -/
def Json.subtrees : Json → List Json
  | .list items => .list items :: itemSubtrees items
  | .object items => .object items :: entrySubtrees items
  | value => [value]

def itemSubtrees : List Json → List Json
  | [] => []
  | item :: rest => item.subtrees ++ itemSubtrees rest

def entrySubtrees : List (Text × Json) → List Json
  | [] => []
  | (_, value) :: rest => value.subtrees ++ entrySubtrees rest

end

/-- Induction over a value, with the property known of every value directly inside it. -/
theorem Json.induct {motive : Json → Prop} (null : motive .null) (bool : ∀ value, motive (.bool value))
    (int : ∀ value, motive (.int value)) (float : ∀ shown order, motive (.float shown order))
    (str : ∀ value, motive (.str value))
    (list : ∀ items, (∀ item ∈ items, motive item) → motive (.list items))
    (object : ∀ items, (∀ entry ∈ items, motive entry.2) → motive (.object items)) :
    ∀ tree, motive tree := by
  intro tree
  refine Json.rec (motive_1 := motive) (motive_2 := fun items => ∀ item ∈ items, motive item)
    (motive_3 := fun items => ∀ entry ∈ items, motive entry.2) (motive_4 := fun entry => motive entry.2)
    null bool int float str list object ?_ ?_ ?_ ?_ ?_ tree
  · exact List.forall_mem_nil _
  · intro item rest here later
    exact List.forall_mem_cons.mpr ⟨here, later⟩
  · exact List.forall_mem_nil _
  · intro entry rest here later
    exact List.forall_mem_cons.mpr ⟨here, later⟩
  · intro key value here
    exact here

theorem itemSubtrees_eq (items : List Json) : itemSubtrees items = items.flatMap Json.subtrees := by
  induction items with
  | nil => rfl
  | cons item rest ih => rw [itemSubtrees, ih, List.flatMap_cons]

theorem entrySubtrees_eq (items : List (Text × Json)) :
    entrySubtrees items = items.flatMap fun entry => entry.2.subtrees := by
  induction items with
  | nil => rfl
  | cons entry rest ih => rw [entrySubtrees, ih, List.flatMap_cons]

@[simp] theorem mem_subtrees_list {items : List Json} {node : Json} :
    node ∈ (Json.list items).subtrees ↔ node = .list items ∨ ∃ item ∈ items, node ∈ item.subtrees := by
  rw [Json.subtrees, itemSubtrees_eq, List.mem_cons, List.mem_flatMap]

@[simp] theorem mem_subtrees_object {items : List (Text × Json)} {node : Json} :
    node ∈ (Json.object items).subtrees ↔
      node = .object items ∨ ∃ entry ∈ items, node ∈ entry.2.subtrees := by
  rw [Json.subtrees, entrySubtrees_eq, List.mem_cons, List.mem_flatMap]

theorem self_mem_subtrees (tree : Json) : tree ∈ tree.subtrees := by
  cases tree <;> simp [Json.subtrees]

theorem subtrees_trans {tree inner node : Json} (inside : inner ∈ tree.subtrees)
    (deeper : node ∈ inner.subtrees) : node ∈ tree.subtrees := by
  induction tree using Json.induct with
  | null | bool | int | float | str =>
      rw [List.mem_singleton.mp inside] at deeper
      exact deeper
  | list items ih =>
      rcases mem_subtrees_list.mp inside with whole | ⟨item, member, inside⟩
      · rwa [whole] at deeper
      · exact mem_subtrees_list.mpr (Or.inr ⟨item, member, ih item member inside⟩)
  | object items ih =>
      rcases mem_subtrees_object.mp inside with whole | ⟨entry, member, inside⟩
      · rwa [whole] at deeper
      · exact mem_subtrees_object.mpr (Or.inr ⟨entry, member, ih entry member inside⟩)

/-- The tree has an object in it with such a field. -/
def HasField (tree : Json) (key : Text) (value : Json) : Prop :=
  ∃ items, .object items ∈ tree.subtrees ∧ (key, value) ∈ items

theorem HasField.inside {tree inner : Json} {key : Text} {value : Json}
    (field : HasField inner key value) (within : inner ∈ tree.subtrees) : HasField tree key value := by
  obtain ⟨items, inside, member⟩ := field
  exact ⟨items, subtrees_trans within inside, member⟩

theorem HasField.value_mem {tree : Json} {key : Text} {value : Json} (field : HasField tree key value) :
    value ∈ tree.subtrees := by
  obtain ⟨items, inside, member⟩ := field
  have below : value ∈ (Json.object items).subtrees :=
    mem_subtrees_object.mpr (Or.inr ⟨(key, value), member, self_mem_subtrees value⟩)
  exact subtrees_trans inside below

/-- `value`, with Python's `None` for null. -/
def Json.notNone : Json → Option Json
  | .null => none
  | value => some value

theorem notNone_eq_some {value result : Json} :
    value.notNone = some result ↔ value = result ∧ result ≠ .null := by
  cases value <;> simp [Json.notNone] <;> grind

/-- `value is True`. -/
def Json.isTrue : Json → Bool
  | .bool value => value
  | _ => false

/-- `bool(value)`. -/
def Json.truthy : Json → Bool
  | .null => false
  | .bool value => value
  | .int value => value != 0
  | .float _ order => order != some .eq
  | .str value => !value.isEmpty
  | .list items => !items.isEmpty
  | .object items => !items.isEmpty

/-- `dict.get(key)` where the value is known to be a dictionary. -/
def field (key : Text) (items : List (Text × Json)) : Json := (items.lookup key).getD .null

end PyJson
