import Mathlib.Data.List.Basic

set_option autoImplicit false

/- Computations on a state that may be cut short. A step ends with `.ok` and the
state after it, or with `.error` and the state it leaves behind. -/
namespace Aborting

variable {State Item : Type}

abbrev Step (State : Type) := State → Except State State

/-- The state left behind, whether or not the step completed. -/
def left : Except State State → State
  | .ok state => state
  | .error state => state

def completed : Except State State → Bool
  | .ok _ => true
  | .error _ => false

theorem ok_left {result : Except State State} (complete : completed result = true) :
    result = .ok (left result) := by
  cases result with
  | ok state => rfl
  | error state => cases complete

/-- What a history of steps leaves behind, each started from what the one
before it left. -/
def leftAfter (steps : List (Step State)) (state : State) : State :=
  steps.foldl (fun state step => left (step state)) state

def andThen (first second : Step State) : Step State := fun state => (first state).bind second

theorem andThen_ok_iff {first second : Step State} {state next : State} :
    andThen first second state = .ok next ↔
      ∃ between, first state = .ok between ∧ second between = .ok next := by
  unfold andThen
  cases first state with
  | error stopped => simp [Except.bind]
  | ok between => simp [Except.bind]

/-- A loop over items, each iteration of which is a step. -/
def forEach (items : List Item) (body : Item → Step State) : Step State :=
  match items with
  | [] => .ok
  | item :: rest => andThen (body item) (forEach rest body)

theorem forEach_map {Source : Type} (items : List Source) (change : Source → Item)
    (body : Item → Step State) :
    forEach (items.map change) body = forEach items fun item => body (change item) := by
  induction items with
  | nil => rfl
  | cons item rest ih => rw [List.map_cons, forEach, ih, forEach]

theorem forEach_append (first second : List Item) (body : Item → Step State) :
    forEach (first ++ second) body = andThen (forEach first body) (forEach second body) := by
  induction first with
  | nil => rfl
  | cons item rest ih =>
      funext state
      rw [List.cons_append, forEach, ih, forEach]
      unfold andThen
      cases body item state <;> rfl

/-- A loop whose iterations do their act on what is viewed, or stop before it: a complete
loop has acted for all items, and one that is cut short for the first items. -/
theorem forEach_acts {View : Type} {view : State → View} {act : View → Item → View}
    {body : Item → Step State}
    (acts : ∀ item state next, body item state = .ok next → view next = act (view state) item)
    (stops : ∀ item state stopped, body item state = .error stopped → view stopped = view state)
    (items : List Item) (state : State) :
    (∀ next, forEach items body state = .ok next → view next = items.foldl act (view state)) ∧
    ∀ stopped, forEach items body state = .error stopped →
      ∃ front, front <+: items ∧ view stopped = front.foldl act (view state) := by
  induction items generalizing state with
  | nil =>
      constructor
      · intro next ends
        rw [← Except.ok.inj ends]
        rfl
      · intro stopped ends
        cases ends
  | cons item rest ih =>
      simp only [forEach, andThen]
      cases first : body item state with
      | error early =>
          constructor
          · intro next ends
            cases ends
          · intro stopped ends
            obtain rfl := Except.error.inj ends
            exact ⟨[], List.nil_prefix, stops item state early first⟩
      | ok between =>
          obtain ⟨complete, partly⟩ := ih between
          rw [acts item state between first] at complete partly
          constructor
          · exact complete
          · intro stopped ends
            obtain ⟨front, among, same⟩ := partly stopped ends
            exact ⟨item :: front, List.cons_prefix_cons.mpr ⟨rfl, among⟩, same⟩

/-- The invariant survives the step, also when it is cut short. -/
def Keeps (invariant : State → Prop) (step : Step State) : Prop :=
  ∀ state, invariant state → invariant (left (step state))

/-- When the step completes, it leads from the first condition to the second. -/
def Leads (before after : State → Prop) (step : Step State) : Prop :=
  ∀ state next, before state → step state = .ok next → after next

theorem Keeps.andThen {invariant : State → Prop} {first second : Step State}
    (keepsFirst : Keeps invariant first) (keepsSecond : Keeps invariant second) :
    Keeps invariant (andThen first second) := by
  intro state holds
  have middle := keepsFirst state holds
  rw [Aborting.andThen]
  cases ends : first state with
  | error stopped =>
      rw [ends] at middle
      exact middle
  | ok next =>
      rw [ends] at middle
      exact keepsSecond next middle

theorem Keeps.forEach {invariant : State → Prop} {items : List Item} {body : Item → Step State}
    (keeps : ∀ item, Keeps invariant (body item)) : Keeps invariant (forEach items body) := by
  induction items with
  | nil => exact fun state holds => holds
  | cons item rest ih => exact (keeps item).andThen ih

theorem Keeps.leftAfter {invariant : State → Prop} {steps : List (Step State)}
    (keeps : ∀ step ∈ steps, Keeps invariant step) {state : State} (holds : invariant state) :
    invariant (leftAfter steps state) := by
  induction steps generalizing state with
  | nil => exact holds
  | cons step rest ih =>
      exact ih (fun later member => keeps later (by simp [member]))
        (keeps step (by simp) state holds)

theorem Keeps.leads {invariant : State → Prop} {step : Step State} (keeps : Keeps invariant step) :
    Leads invariant invariant step := by
  intro state next holds ends
  have kept := keeps state holds
  rw [ends] at kept
  exact kept

theorem Leads.andThen {before middle after : State → Prop} {first second : Step State}
    (leadsFirst : Leads before middle first) (leadsSecond : Leads middle after second) :
    Leads before after (andThen first second) := by
  intro state next holds ends
  obtain ⟨between, starts, finishes⟩ := andThen_ok_iff.mp ends
  exact leadsSecond between next (leadsFirst state between holds starts) finishes

/-- Each iteration establishes the fact about its own item and no iteration
destroys the fact about any item: after the loop they all hold. -/
theorem Leads.forEach {invariant : State → Prop} {about : Item → State → Prop} {items : List Item}
    {body : Item → Step State}
    (establishes : ∀ item, Leads invariant (fun next => invariant next ∧ about item next) (body item))
    (survives : ∀ item other, Leads (fun state => invariant state ∧ about other state)
      (about other) (body item)) :
    Leads invariant (fun next => invariant next ∧ ∀ item ∈ items, about item next)
      (forEach items body) := by
  have later (other : Item) (items : List Item) :
      Leads (fun state => invariant state ∧ about other state)
        (fun next => invariant next ∧ about other next) (Aborting.forEach items body) := by
    induction items with
    | nil => exact fun state next holds ends => Except.ok.inj ends ▸ holds
    | cons item rest ih =>
        refine Leads.andThen (fun state next holds ends => ?_) ih
        exact ⟨(establishes item state next holds.1 ends).1, survives item other state next holds ends⟩
  induction items with
  | nil => exact fun state next holds ends => Except.ok.inj ends ▸ ⟨holds, by simp⟩
  | cons item rest ih =>
      intro state next holds ends
      obtain ⟨between, starts, finishes⟩ := andThen_ok_iff.mp ends
      have first := establishes item state between holds starts
      have others := ih between next first.1 finishes
      refine ⟨others.1, fun each member => ?_⟩
      rcases List.mem_cons.mp member with rfl | inside
      · exact (later each rest between next first finishes).2
      · exact others.2 each inside

end Aborting
