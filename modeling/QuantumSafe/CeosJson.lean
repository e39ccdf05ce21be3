import QuantumSafe.JsonTree
import QuantumSafe.TopologyContract

set_option autoImplicit false

/- `lab/ceos_json.py`: searches in the JSON output of EOS show commands. -/
namespace QuantumSafe.CeosJson

open PyText PyJson

/-- What a `CeosJsonError` reports, with the values its message quotes. -/
inductive CeosJsonError where
  | expectedIn (label needle : Text)
  | expectedCkn
deriving DecidableEq, Repr

/-- `str` of a Boolean. -/
def boolText (value : Bool) : Text := if value then text "True" else text "False"

mutual

def jsonTreeValues : Json → List Text
  | .null => []
  | .bool value => [boolText value]
  | .int value => [intText value]
  | .float shown _ => [shown]
  | .str value => [value]
  | .list items => itemValues items
  | .object items => entryValues items

def itemValues : List Json → List Text
  | [] => []
  | item :: rest => jsonTreeValues item ++ itemValues rest

def entryValues : List (Text × Json) → List Text
  | [] => []
  | (key, value) :: rest => key :: jsonTreeValues value ++ entryValues rest

end

def jsonTreeContains (tree : Json) (needle : Text) (caseSensitive : Bool := true) : Bool :=
  if caseSensitive then (jsonTreeValues tree).any fun value => contains needle value
  else (jsonTreeValues tree).any fun value => contains (lower needle) (lower value)

def assertJsonContains (tree : Json) (needle label : Text) (caseSensitive : Bool := true) :
    Except CeosJsonError Unit :=
  if jsonTreeContains tree needle caseSensitive then .ok () else .error (.expectedIn label needle)

section

variable (lower : Text → Text)

mutual

/-- `json_find_value` for a given `str.lower`, where none stands for the `None` it returns. -/
def jsonFindValueWith (key : Text) : Json → Option Json
  | .object items =>
      match items.find? fun entry => lower entry.1 == lower key with
      | some entry => entry.2.notNone
      | none => findInEntries key items
  | .list items => findInItems key items
  | _ => none

def findInItems (key : Text) : List Json → Option Json
  | [] => none
  | item :: rest =>
      match jsonFindValueWith key item with
      | some found => some found
      | none => findInItems key rest

def findInEntries (key : Text) : List (Text × Json) → Option Json
  | [] => none
  | (_, value) :: rest =>
      match jsonFindValueWith key value with
      | some found => some found
      | none => findInEntries key rest

end

end

/-- `json_find_value` for an ASCII word as the key. -/
def jsonFindValue (key : Text) (tree : Json) : Option Json := jsonFindValueWith lower key tree

/-- The status words that count as true. -/
def truthyWords : List Text :=
  [text "true", text "success", text "authorized", text "enabled", text "valid"]

def jsonTruthy (tree : Json) (key : Text) : Bool :=
  match jsonFindValue key tree with
  | some (.bool value) => value
  | some (.str value) => truthyWords.contains (lower value)
  | _ => false

/-- What `json_tree_values` yields for a value itself, without the values inside it. -/
def ownTexts : Json → List Text
  | .null | .list _ => []
  | .bool value => [boolText value]
  | .int value => [intText value]
  | .float shown _ => [shown]
  | .str value => [value]
  | .object items => items.map Prod.fst

theorem mem_itemValues {items : List Json} {shown : Text} :
    shown ∈ itemValues items ↔ ∃ item ∈ items, shown ∈ jsonTreeValues item := by
  induction items with
  | nil => simp [itemValues]
  | cons item rest ih => simp only [itemValues, List.mem_append, ih, List.mem_cons, exists_eq_or_imp]

theorem mem_entryValues {items : List (Text × Json)} {shown : Text} :
    shown ∈ entryValues items ↔
      shown ∈ items.map Prod.fst ∨ ∃ entry ∈ items, shown ∈ jsonTreeValues entry.2 := by
  induction items with
  | nil => simp [entryValues]
  | cons entry rest ih =>
      simp only [entryValues, List.cons_append, List.mem_cons, List.mem_append, ih, List.map_cons,
        exists_eq_or_imp]
      tauto

/-- A text is yielded iff it is a key or a scalar of some value in the tree. -/
theorem mem_jsonTreeValues {tree : Json} {shown : Text} :
    shown ∈ jsonTreeValues tree ↔ ∃ node ∈ tree.subtrees, shown ∈ ownTexts node := by
  induction tree using Json.induct with
  | null | bool | int | float | str => simp [jsonTreeValues, Json.subtrees, ownTexts]
  | list items ih =>
      rw [jsonTreeValues, mem_itemValues]
      constructor
      · rintro ⟨item, member, inside⟩
        obtain ⟨node, within, own⟩ := (ih item member).mp inside
        exact ⟨node, mem_subtrees_list.mpr (Or.inr ⟨item, member, within⟩), own⟩
      · rintro ⟨node, within, own⟩
        rcases mem_subtrees_list.mp within with rfl | ⟨item, member, within⟩
        · cases own
        · exact ⟨item, member, (ih item member).mpr ⟨node, within, own⟩⟩
  | object items ih =>
      rw [jsonTreeValues, mem_entryValues]
      constructor
      · rintro (key | ⟨entry, member, inside⟩)
        · exact ⟨.object items, self_mem_subtrees _, key⟩
        · obtain ⟨node, within, own⟩ := (ih entry member).mp inside
          exact ⟨node, mem_subtrees_object.mpr (Or.inr ⟨entry, member, within⟩), own⟩
      · rintro ⟨node, within, own⟩
        rcases mem_subtrees_object.mp within with rfl | ⟨entry, member, within⟩
        · exact Or.inl own
        · exact Or.inr ⟨entry, member, (ih entry member).mpr ⟨node, within, own⟩⟩

theorem str_mem_values {tree : Json} {value : Text} (inside : .str value ∈ tree.subtrees) :
    value ∈ jsonTreeValues tree :=
  mem_jsonTreeValues.mpr ⟨.str value, inside, List.mem_singleton_self value⟩

/-- Some key or scalar of the tree has the text in it. -/
def Mentions (tree : Json) (needle : Text) : Prop :=
  ∃ shown ∈ jsonTreeValues tree, contains needle shown = true

/-- Some key or scalar of the tree has the text in it, in any case. -/
def MentionsFolded (tree : Json) (needle : Text) : Prop :=
  ∃ shown ∈ jsonTreeValues tree, contains (lower needle) (lower shown) = true

theorem jsonTreeContains_iff {tree : Json} {needle : Text} :
    jsonTreeContains tree needle = true ↔ Mentions tree needle := by
  simp [jsonTreeContains, Mentions]

theorem jsonTreeContains_folded_iff {tree : Json} {needle : Text} :
    jsonTreeContains tree needle false = true ↔ MentionsFolded tree needle := by
  simp [jsonTreeContains, MentionsFolded]

theorem assertJsonContains_ok {tree : Json} {needle label : Text} {caseSensitive : Bool} :
    assertJsonContains tree needle label caseSensitive = .ok () ↔
      jsonTreeContains tree needle caseSensitive = true := by
  unfold assertJsonContains
  split <;> simp [*]

section

variable {lower : Text → Text}

theorem findInItems_eq (key : Text) (items : List Json) :
    findInItems lower key items = items.findSome? (jsonFindValueWith lower key) := by
  induction items with
  | nil => rfl
  | cons item rest ih =>
      rw [findInItems, ih, List.findSome?_cons]
      cases jsonFindValueWith lower key item <;> rfl

theorem findInEntries_eq (key : Text) (items : List (Text × Json)) :
    findInEntries lower key items = items.findSome? fun entry => jsonFindValueWith lower key entry.2 := by
  induction items with
  | nil => rfl
  | cons entry rest ih =>
      rw [findInEntries, ih, List.findSome?_cons]
      cases jsonFindValueWith lower key entry.2 <;> rfl

theorem jsonFindValueWith_field {key : Text} {tree value : Json}
    (found : jsonFindValueWith lower key tree = some value) :
    value ≠ .null ∧ ∃ name, lower name = lower key ∧ HasField tree name value := by
  induction tree using Json.induct with
  | null | bool | int | float | str => cases found
  | list items ih =>
      rw [jsonFindValueWith, findInItems_eq] at found
      obtain ⟨item, member, here⟩ := List.exists_of_findSome?_eq_some found
      have below : item ∈ (Json.list items).subtrees :=
        mem_subtrees_list.mpr (Or.inr ⟨item, member, self_mem_subtrees item⟩)
      obtain ⟨filled, name, same, has⟩ := ih item member here
      exact ⟨filled, name, same, has.inside below⟩
  | object items ih =>
      rw [jsonFindValueWith] at found
      split at found
      · next entry here =>
          have value := notNone_eq_some.mp found
          have name : lower entry.1 = lower key := by simpa using List.find?_some here
          have member := List.mem_of_find?_eq_some here
          exact ⟨value.2, entry.1, name, items, self_mem_subtrees _, value.1 ▸ member⟩
      · rw [findInEntries_eq] at found
        obtain ⟨entry, member, here⟩ := List.exists_of_findSome?_eq_some found
        have below : entry.2 ∈ (Json.object items).subtrees :=
          mem_subtrees_object.mpr (Or.inr ⟨entry, member, self_mem_subtrees entry.2⟩)
        obtain ⟨filled, name, same, has⟩ := ih entry member here
        exact ⟨filled, name, same, has.inside below⟩

end

/-- A found value is the value of a field whose name is the key up to case. -/
theorem jsonFindValue_field {key : Text} {tree value : Json} (found : jsonFindValue key tree = some value) :
    value ≠ .null ∧ ∃ name, lower name = lower key ∧ HasField tree name value :=
  jsonFindValueWith_field found

theorem jsonFindValue_mem {key : Text} {tree value : Json} (found : jsonFindValue key tree = some value) :
    value ∈ tree.subtrees := by
  obtain ⟨-, name, -, has⟩ := jsonFindValue_field found
  exact has.value_mem

end QuantumSafe.CeosJson
