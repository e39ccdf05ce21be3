import Mathlib.Data.List.Infix

set_option autoImplicit false

/- Loops that look for the first of something: a bounded number of attempts, or the
items of a list. -/
namespace Polling

variable {κ ρ α : Type}

/-- How one attempt ends: the loop is left with a result, or goes on and remembers a reason. -/
inductive Step (κ ρ : Type) where
  | left (result : ρ)
  | again (reason : κ)

/-- The remaining attempts from an index on: the result with which the loop is left, or
the last reason when the attempts run out. -/
def poll (attempt : Nat → Step κ ρ) : Nat → Nat → Option κ → Option κ ⊕ ρ
  | 0, _, last => .inl last
  | remaining + 1, index, _ =>
      match attempt index with
      | .left result => .inr result
      | .again reason => poll attempt remaining (index + 1) (some reason)

/-- The loop is left at the first attempt that does not go on. -/
theorem poll_left_iff (attempt : Nat → Step κ ρ) (remaining index : Nat) (last : Option κ) (result : ρ) :
    poll attempt remaining index last = .inr result ↔
      ∃ count < remaining, (∀ earlier < count, ∃ reason, attempt (index + earlier) = .again reason) ∧
        attempt (index + count) = .left result := by
  induction remaining generalizing index last with
  | zero => simp [poll]
  | succ remaining ih =>
      cases here : attempt index with
      | left found =>
          simp only [poll, here, Sum.inr.injEq]
          constructor
          · intro same
            exact ⟨0, by omega, by omega, by rw [Nat.add_zero, here, same]⟩
          · rintro ⟨count, -, before, ends⟩
            cases count with
            | zero =>
                rw [Nat.add_zero, here] at ends
                exact Step.left.inj ends
            | succ count =>
                obtain ⟨reason, goes⟩ := before 0 (by omega)
                rw [Nat.add_zero, here] at goes
                cases goes
      | again reason =>
          simp only [poll, here, ih]
          constructor
          · rintro ⟨count, small, before, ends⟩
            refine ⟨count + 1, by omega, ?_, by rw [← ends]; congr 1; omega⟩
            intro earlier sooner
            cases earlier with
            | zero => exact ⟨reason, here⟩
            | succ earlier =>
                have moved : index + (earlier + 1) = index + 1 + earlier := by omega
                rw [moved]
                exact before earlier (by omega)
          · rintro ⟨count, small, before, ends⟩
            cases count with
            | zero =>
                rw [Nat.add_zero, here] at ends
                cases ends
            | succ count =>
                refine ⟨count, by omega, ?_, by rw [← ends]; congr 1; omega⟩
                intro earlier sooner
                have moved : index + 1 + earlier = index + (earlier + 1) := by omega
                rw [moved]
                exact before (earlier + 1) (by omega)

/-- The first item of a list with a property. -/
def FirstWith (property : α → Prop) (items : List α) (item : α) : Prop :=
  ∃ before after, items = before ++ item :: after ∧ property item ∧ ∀ other ∈ before, ¬ property other

theorem find?_eq_some_iff_firstWith {test : α → Bool} {items : List α} {item : α} :
    items.find? test = some item ↔ FirstWith (fun found => test found = true) items item := by
  rw [List.find?_eq_some_iff_append]
  constructor
  · rintro ⟨holds, before, after, split, others⟩
    exact ⟨before, after, split, holds, fun other member => by simpa using others other member⟩
  · rintro ⟨before, after, split, holds, others⟩
    exact ⟨holds, before, after, split, fun other member => by simpa using others other member⟩

/-- The first mapped item comes from the first item whose image has the property. -/
theorem firstWith_map {β : Type} {property : β → Prop} {view : α → β} {items : List α} {image : β} :
    FirstWith property (items.map view) image ↔
      ∃ item, view item = image ∧ FirstWith (fun found => property (view found)) items item := by
  constructor
  · rintro ⟨before, after, split, holds, others⟩
    obtain ⟨front, back, whole, rfl, tail⟩ := List.map_eq_append_iff.mp split
    obtain ⟨item, later, rfl, rfl, rfl⟩ := List.map_eq_cons_iff.mp tail
    refine ⟨item, rfl, front, later, whole, holds, fun other member => ?_⟩
    exact others (view other) (List.mem_map_of_mem member)
  · rintro ⟨item, rfl, before, after, rfl, holds, others⟩
    refine ⟨before.map view, after.map view, by simp, holds, fun other member => ?_⟩
    obtain ⟨found, inside, rfl⟩ := List.mem_map.mp member
    exact others found inside

end Polling
