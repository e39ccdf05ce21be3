import Mathlib.Data.List.Basic

set_option autoImplicit false

/- Chains of packet filter rules: the first rule that hits a packet decides, and the
policy decides where none does. -/
namespace PacketFilter

inductive Target where
  | accept
  | drop
deriving DecidableEq, Repr

structure Rule (μ : Type) where
  matching : μ
  target : Target
deriving DecidableEq, Repr

abbrev Chain (μ : Type) := List (Rule μ)

variable {μ π : Type}

/-- `-A` -/
def Chain.append (chain : Chain μ) (rule : Rule μ) : Chain μ := chain ++ [rule]

/-- `-I` -/
def Chain.insert (chain : Chain μ) (rule : Rule μ) : Chain μ := rule :: chain

def verdict (hits : μ → π → Bool) (policy : Target) : Chain μ → π → Target
  | [], _ => policy
  | rule :: rest, packet => if hits rule.matching packet then rule.target else verdict hits policy rest packet

variable {hits : μ → π → Bool} {policy : Target} {packet : π}

@[simp] theorem verdict_nil : verdict hits policy [] packet = policy := rfl

theorem verdict_cons_hit {rule : Rule μ} (hit : hits rule.matching packet = true) (rest : Chain μ) :
    verdict hits policy (rule :: rest) packet = rule.target := if_pos hit

theorem verdict_cons_miss {rule : Rule μ} (miss : hits rule.matching packet = false) (rest : Chain μ) :
    verdict hits policy (rule :: rest) packet = verdict hits policy rest packet := by
  rw [verdict, miss]
  rfl

/-- Accepting rules in front of a chain only add to what it accepts. -/
theorem verdict_accepts_iff {front : Chain μ} (accepting : ∀ rule ∈ front, rule.target = .accept)
    (chain : Chain μ) :
    verdict hits policy (front ++ chain) packet = .accept ↔
      (∃ rule ∈ front, hits rule.matching packet = true) ∨ verdict hits policy chain packet = .accept := by
  induction front with
  | nil => simp
  | cons rule front ih =>
      have ⟨here, later⟩ := List.forall_mem_cons.mp accepting
      rw [List.cons_append]
      by_cases hit : hits rule.matching packet = true
      · rw [verdict_cons_hit hit, here]
        exact iff_of_true rfl (Or.inl ⟨rule, List.mem_cons_self, hit⟩)
      · rw [verdict_cons_miss (Bool.not_eq_true _ |>.mp hit), ih later]
        refine or_congr_left ?_
        rw [List.exists_mem_cons_iff, or_iff_right hit]

/-- A chain that ends in a rule that drops every packet. -/
theorem verdict_drop {rule : Rule μ} (hit : hits rule.matching packet = true) (drops : rule.target = .drop) :
    verdict hits policy [rule] packet ≠ .accept := by
  rw [verdict_cons_hit hit, drops]
  exact Target.noConfusion

end PacketFilter
