import QuantumSafe.CeosJson

set_option autoImplicit false

/- Which of several matches `json_find_value` takes: the topmost ones in document order. Nothing
is asked of `str.lower`, which decides what matches. -/
namespace QuantumSafe.CeosJson

open PyText PyJson

/-- The values directly inside a value, in document order. -/
def children : Json → List Json
  | .list items => items
  | .object items => items.map Prod.snd
  | _ => []

section

variable (lower : Text → Text)

/-- The value of the first key of a dict that is the searched key up to case. -/
def ownMatch (key : Text) : Json → Option Json
  | .object items => (items.find? fun entry => lower entry.1 == lower key).map Prod.snd
  | _ => none

mutual

/-- The matches that lie below no other match, in document order, nulls included. -/
def topmostMatches (key : Text) : Json → List Json
  | .object items =>
      match ownMatch lower key (.object items) with
      | some value => [value]
      | none => topmostInEntries key items
  | .list items => topmostInItems key items
  | _ => []

def topmostInItems (key : Text) : List Json → List Json
  | [] => []
  | item :: rest => topmostMatches key item ++ topmostInItems key rest

def topmostInEntries (key : Text) : List (Text × Json) → List Json
  | [] => []
  | (_, value) :: rest => topmostMatches key value ++ topmostInEntries key rest

end

end

section

variable {lower : Text → Text}

theorem topmostInItems_eq (key : Text) (items : List Json) :
    topmostInItems lower key items = items.flatMap (topmostMatches lower key) := by
  induction items with
  | nil => rfl
  | cons item rest ih => rw [topmostInItems, ih, List.flatMap_cons]

theorem topmostInEntries_eq (key : Text) (items : List (Text × Json)) :
    topmostInEntries lower key items = (items.map Prod.snd).flatMap (topmostMatches lower key) := by
  induction items with
  | nil => rfl
  | cons entry rest ih => rw [topmostInEntries, ih, List.map_cons, List.flatMap_cons]

/-- A dict with a matching key has that key's value as its only topmost match. -/
theorem topmostMatches_own {key : Text} {tree value : Json} (own : ownMatch lower key tree = some value) :
    topmostMatches lower key tree = [value] := by
  cases tree with
  | object items => rw [topmostMatches, own]
  | null | bool | int | float | str | list => cases own

/-- The topmost matches of any other value are those of its children, in their order. -/
theorem topmostMatches_below {key : Text} {tree : Json} (bare : ownMatch lower key tree = none) :
    topmostMatches lower key tree = (children tree).flatMap (topmostMatches lower key) := by
  cases tree with
  | object items => rw [topmostMatches, bare, topmostInEntries_eq, children]
  | list items => rw [topmostMatches, topmostInItems_eq, children]
  | null | bool | int | float | str => rfl

theorem jsonFindValue_own {key : Text} {tree value : Json} (own : ownMatch lower key tree = some value) :
    jsonFindValueWith lower key tree = value.notNone := by
  cases tree with
  | object items =>
      obtain ⟨entry, here, rfl⟩ := Option.map_eq_some_iff.mp own
      rw [jsonFindValueWith, here]
  | null | bool | int | float | str | list => cases own

theorem jsonFindValue_below {key : Text} {tree : Json} (bare : ownMatch lower key tree = none) :
    jsonFindValueWith lower key tree = (children tree).findSome? (jsonFindValueWith lower key) := by
  cases tree with
  | object items =>
      have absent := Option.map_eq_none_iff.mp bare
      rw [jsonFindValueWith, absent, findInEntries_eq, children, List.findSome?_map]
      rfl
  | list items => rw [jsonFindValueWith, findInItems_eq, children]
  | null | bool | int | float | str => rfl

/-- Induction over a value, with the property known of its children. -/
theorem induct_children {motive : Json → Prop}
    (step : ∀ tree, (∀ child ∈ children tree, motive child) → motive tree) : ∀ tree, motive tree := by
  intro tree
  induction tree using Json.induct with
  | null | bool | int | float | str => exact step _ (List.forall_mem_nil _)
  | list items ih => exact step _ ih
  | object items ih => exact step _ (List.forall_mem_map.mpr ih)

/-- The first result over joined lists is the first of the lists' first results. -/
theorem findSome_flatMap {α β γ : Type} (lists : α → List β) (test : β → Option γ) (items : List α) :
    (items.flatMap lists).findSome? test = items.findSome? fun item => (lists item).findSome? test := by
  induction items with
  | nil => rfl
  | cons item rest ih =>
      rw [List.flatMap_cons, List.findSome?_append, ih, List.findSome?_cons]
      cases (lists item).findSome? test <;> rfl

theorem findSome_congr {α β : Type} {first second : α → Option β} {items : List α}
    (same : ∀ item ∈ items, first item = second item) :
    items.findSome? first = items.findSome? second := by
  induction items with
  | nil => rfl
  | cons item rest ih =>
      obtain ⟨here, later⟩ := List.forall_mem_cons.mp same
      rw [List.findSome?_cons, List.findSome?_cons, here, ih later]

/-- The nodes from a value down to one inside it: `above` are the ones passed on the way. -/
inductive Descends : Json → List Json → Json → Prop where
  | here (tree : Json) : Descends tree [] tree
  | down {tree child holder : Json} {above : List Json} (inside : child ∈ children tree)
      (rest : Descends child above holder) : Descends tree (tree :: above) holder

/-- A topmost match is the match of a node above which no node has one. -/
theorem mem_topmostMatches {key : Text} {tree value : Json} :
    value ∈ topmostMatches lower key tree ↔
      ∃ above holder, Descends tree above holder ∧ (∀ node ∈ above, ownMatch lower key node = none) ∧
        ownMatch lower key holder = some value := by
  induction tree using induct_children with
  | step tree ih =>
      constructor
      · intro member
        cases own : ownMatch lower key tree with
        | some found =>
            rw [topmostMatches_own own, List.mem_singleton] at member
            exact ⟨[], tree, .here tree, List.forall_mem_nil _, member ▸ own⟩
        | none =>
            rw [topmostMatches_below own] at member
            obtain ⟨child, inside, member⟩ := List.mem_flatMap.mp member
            obtain ⟨above, holder, path, bare, found⟩ := (ih child inside).mp member
            exact ⟨tree :: above, holder, .down inside path, List.forall_mem_cons.mpr ⟨own, bare⟩, found⟩
      · rintro ⟨above, holder, path, bare, found⟩
        cases path with
        | here =>
            rw [topmostMatches_own found]
            exact List.mem_singleton_self value
        | down inside path =>
            obtain ⟨own, bare⟩ := List.forall_mem_cons.mp bare
            rw [topmostMatches_below own]
            exact List.mem_flatMap.mpr ⟨_, inside, (ih _ inside).mpr ⟨_, holder, path, bare, found⟩⟩

/-- The search takes the first topmost match that is not null. -/
theorem jsonFindValue_eq_findSome (key : Text) (tree : Json) :
    jsonFindValueWith lower key tree = (topmostMatches lower key tree).findSome? Json.notNone := by
  induction tree using induct_children with
  | step tree ih =>
      cases own : ownMatch lower key tree with
      | some value =>
          rw [jsonFindValue_own own, topmostMatches_own own, List.findSome?_singleton]
      | none =>
          rw [jsonFindValue_below own, topmostMatches_below own, findSome_flatMap]
          exact findSome_congr ih

end

example :
    jsonFindValue (text "port") (.object [
      (text "tls", .object [(text "Port", .null), (text "inner", .object [(text "port", .int 1)])]),
      (text "all", .list [.object [(text "PORT", .int 2)]])]) = some (.int 2) := by
  rfl

/-- Whatever `str.lower` is, the search gives the first topmost match that is not null. A topmost
match is never taken from below a node that has a match of its own, and such a node is not
searched any further. -/
theorem jsonFindValue_topmost (lower : Text → Text) (key : Text) (tree : Json) :
    jsonFindValueWith lower key tree = (topmostMatches lower key tree).findSome? Json.notNone ∧
      (∀ value, value ∈ topmostMatches lower key tree ↔
        ∃ above holder, Descends tree above holder ∧ (∀ node ∈ above, ownMatch lower key node = none) ∧
          ownMatch lower key holder = some value) ∧
      ∀ value, ownMatch lower key tree = some value → jsonFindValueWith lower key tree = value.notNone :=
  ⟨jsonFindValue_eq_findSome key tree, fun _ => mem_topmostMatches, fun _ => jsonFindValue_own⟩

end QuantumSafe.CeosJson
