import Mathlib.Data.Option.Basic

set_option autoImplicit false

/- Finite runs of a partial step function over a list of events: an interleaving
is the list in which the events of several processes happen. -/
namespace EventRun

variable {State Event : Type}

/-- The state after the events, if every one of them could happen. -/
def run (step : State → Event → Option State) : State → List Event → Option State
  | state, [] => some state
  | state, event :: rest => (step state event).bind fun next => run step next rest

variable (step : State → Event → Option State)

@[simp] theorem run_nil (state : State) : run step state [] = some state := rfl

@[simp] theorem run_cons (state : State) (event : Event) (rest : List Event) :
    run step state (event :: rest) = (step state event).bind fun next => run step next rest := rfl

theorem run_append (state : State) (first second : List Event) :
    run step state (first ++ second) =
      (run step state first).bind fun next => run step next second := by
  induction first generalizing state with
  | nil => rfl
  | cons event rest ih =>
      rw [List.cons_append, run_cons, run_cons, Option.bind_assoc]
      exact congrArg _ (funext ih)

/-- A run through a split point has a state there. -/
theorem run_split {state final : State} {first second : List Event}
    (runs : run step state (first ++ second) = some final) :
    ∃ middle, run step state first = some middle ∧ run step middle second = some final := by
  rw [run_append] at runs
  exact Option.bind_eq_some_iff.mp runs

theorem run_snoc {state final : State} {first : List Event} {last : Event}
    (runs : run step state (first ++ [last]) = some final) :
    ∃ middle, run step state first = some middle ∧ step middle last = some final := by
  obtain ⟨middle, before, after⟩ := run_split step runs
  refine ⟨middle, before, ?_⟩
  simpa using after

/-- A relation between states that every allowed event carries forward holds of
every state that allowed events reach. -/
theorem run_invariant (invariant : State → Prop) (allowed : Event → Prop)
    (preserved : ∀ state event next, invariant state → allowed event →
      step state event = some next → invariant next)
    {state final : State} {events : List Event} (start : invariant state)
    (all : ∀ event ∈ events, allowed event) (runs : run step state events = some final) :
    invariant final := by
  induction events generalizing state with
  | nil => exact Option.some.inj runs ▸ start
  | cons event rest ih =>
      obtain ⟨next, first, others⟩ := Option.bind_eq_some_iff.mp runs
      have kept := preserved state event next start (all event (by simp)) first
      exact ih kept (fun e member => all e (by simp [member])) others

section Work

variable {step} {invariant : State → Prop} {allowed : Event → Prop} {work : State → Nat}

/-- Allowed events keep the invariant and each takes some of the work away. -/
def Lowers (step : State → Event → Option State) (invariant : State → Prop) (allowed : Event → Prop)
    (work : State → Nat) : Prop :=
  ∀ state event next, invariant state → allowed event → step state event = some next →
    invariant next ∧ work next < work state

/-- There are never more allowed events than there is work. -/
theorem Lowers.length_le (lowers : Lowers step invariant allowed work) {state final : State}
    {events : List Event} (start : invariant state) (all : ∀ event ∈ events, allowed event)
    (runs : run step state events = some final) :
    invariant final ∧ events.length + work final ≤ work state := by
  induction events generalizing state with
  | nil =>
      obtain rfl := Option.some.inj runs
      exact ⟨start, by simp⟩
  | cons event rest ih =>
      obtain ⟨next, first, others⟩ := Option.bind_eq_some_iff.mp runs
      obtain ⟨kept, less⟩ := lowers state event next start (all event (by simp)) first
      obtain ⟨ends, bound⟩ := ih kept (fun e member => all e (by simp [member])) others
      refine ⟨ends, ?_⟩
      rw [List.length_cons]
      omega

/-- Where some allowed event can happen until the goal is reached, a run reaches it. -/
theorem Lowers.exists_run (lowers : Lowers step invariant allowed work) {goal : State → Prop}
    (progress : ∀ state, invariant state → ¬ goal state →
      ∃ event next, allowed event ∧ step state event = some next)
    (state : State) (start : invariant state) :
    ∃ events final, (∀ event ∈ events, allowed event) ∧ run step state events = some final ∧
      goal final := by
  induction bound : work state using Nat.strongRecOn generalizing state with
  | ind amount ih =>
      by_cases there : goal state
      · exact ⟨[], state, List.forall_mem_nil _, rfl, there⟩
      · obtain ⟨event, next, fine, first⟩ := progress state start there
        obtain ⟨kept, less⟩ := lowers state event next start fine first
        obtain ⟨rest, final, all, others, reached⟩ := ih (work next) (by omega) next kept rfl
        refine ⟨event :: rest, final, ?_, ?_, reached⟩
        · exact List.forall_mem_cons.mpr ⟨fine, all⟩
        · rw [run_cons, first]
          exact others

end Work

end EventRun
