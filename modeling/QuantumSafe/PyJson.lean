import Mathlib.Data.List.Forall2
import QuantumSafe.PyText

set_option autoImplicit false

/- Values that `json.loads` returns and the operations Python has on them. -/
namespace PyJson

open PyText

/-- A decoded JSON value. A float is kept as its `str` and its order against
zero (none for NaN); an object as its items in order, with distinct keys. -/
inductive Json where
  | null
  | bool (value : Bool)
  | int (value : Int)
  | float (shown : Text) (order : Option Ordering)
  | str (value : Text)
  | list (items : List Json)
  | object (items : List (Text × Json))

/-- Exceptions that indexing and hashing a decoded value can raise. -/
inductive PyError where
  | keyError
  | typeError
deriving DecidableEq, Repr

/-- `value[key]` for a string key. -/
def subscript (key : Text) : Json → Except PyError Json
  | .object items =>
      match items.lookup key with
      | some value => .ok value
      | none => .error .keyError
  | _ => .error .typeError

/-- Whether `hash(value)` succeeds. -/
def hashable : Json → Bool
  | .list _ => false
  | .object _ => false
  | _ => true

/-- `value == s` for a string `s`. -/
def equalsText (s : Text) : Json → Bool
  | .str value => value == s
  | _ => false

@[simp] theorem equalsText_iff (s : Text) (value : Json) :
    equalsText s value = true ↔ value = .str s := by
  cases value <;> simp [equalsText]

section Loops

variable {α β ε : Type} (f : α → Except ε β)

/-- A loop that appends one result per item ends normally with one result for
each item. -/
theorem mapM_ok_iff (items : List α) (results : List β) :
    items.mapM f = .ok results ↔ List.Forall₂ (fun item result => f item = .ok result) items results := by
  induction items generalizing results with
  | nil =>
      rw [List.mapM_nil, List.forall₂_nil_left_iff]
      exact ⟨fun ends => (Except.ok.inj ends).symm, fun ends => congrArg Except.ok ends.symm⟩
  | cons item rest ih =>
      rw [List.mapM_cons, List.forall₂_cons_left_iff]
      constructor
      · intro ends
        cases first : f item with
        | error reason =>
            rw [first] at ends
            cases ends
        | ok result =>
            cases others : rest.mapM f with
            | error reason =>
                rw [first, others] at ends
                cases ends
            | ok tail =>
                rw [first, others] at ends
                exact ⟨result, tail, rfl, (ih tail).mp others, (Except.ok.inj ends).symm⟩
      · rintro ⟨result, tail, first, others, rfl⟩
        rw [first, (ih tail).mpr others]
        rfl

/-- An exception that leaves such a loop was raised by one of its items. -/
theorem mapM_error {items : List α} {reason : ε} (raises : items.mapM f = .error reason) :
    ∃ item ∈ items, f item = .error reason := by
  induction items with
  | nil => cases raises
  | cons item rest ih =>
      rw [List.mapM_cons] at raises
      cases first : f item with
      | error other =>
          rw [first] at raises
          have same : other = reason := Except.error.inj raises
          exact ⟨item, by simp, same ▸ first⟩
      | ok result =>
          cases others : rest.mapM f with
          | error other =>
              rw [first, others] at raises
              have same : other = reason := Except.error.inj raises
              obtain ⟨later, member, raised⟩ := ih (same ▸ others)
              exact ⟨later, by simp [member], raised⟩
          | ok tail =>
              rw [first, others] at raises
              cases raises

end Loops

end PyJson
