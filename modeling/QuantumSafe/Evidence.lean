import QuantumSafe.Interaction

set_option autoImplicit false

/- What a program is sure to have seen when it ends normally. Evidence is never taken back by
further exchanges, so what each part of a program gathers is gathered by the whole. -/
namespace Interaction

variable {Command Answer Error Value Result Item : Type}

/-- Something that a transcript can show. -/
structure Evidence (Command Answer : Type) where
  shown : List (Command × Answer) → Prop
  stays : ∀ {part whole : List (Command × Answer)}, part ⊆ whole → shown part → shown whole

namespace Evidence

/-- Some exchange is of this kind. -/
def exchange (kind : Command × Answer → Prop) : Evidence Command Answer where
  shown transcript := ∃ exchange ∈ transcript, kind exchange
  stays inside := fun ⟨exchange, member, same⟩ => ⟨exchange, inside member, same⟩

def both (first second : Evidence Command Answer) : Evidence Command Answer where
  shown transcript := first.shown transcript ∧ second.shown transcript
  stays inside shown := ⟨first.stays inside shown.1, second.stays inside shown.2⟩

def either (first second : Evidence Command Answer) : Evidence Command Answer where
  shown transcript := first.shown transcript ∨ second.shown transcript
  stays inside shown := shown.imp (first.stays inside) (second.stays inside)

/-- For each of these items. -/
def each (items : List Item) (evidence : Item → Evidence Command Answer) : Evidence Command Answer where
  shown transcript := ∀ item ∈ items, (evidence item).shown transcript
  stays inside shown item member := (evidence item).stays inside (shown item member)

/-- For one value at least. -/
def someValue (evidence : Value → Evidence Command Answer) : Evidence Command Answer where
  shown transcript := ∃ value, (evidence value).shown transcript
  stays inside := fun ⟨value, shown⟩ => ⟨value, (evidence value).stays inside shown⟩

/-- A fact that no transcript shows. -/
def fact (known : Prop) : Evidence Command Answer where
  shown _ := known
  stays _ known := known

end Evidence

namespace Program

open Evidence

variable {head : Program Command Answer Error Value} {tail : Value → Program Command Answer Error Result}

/-- Every normal end comes with this evidence, which may depend on the value. -/
def Gathers (program : Program Command Answer Error Value) (evidence : Value → Evidence Command Answer) :
    Prop :=
  ∀ ⦃transcript value⦄, program.Ends transcript (.ok value) → (evidence value).shown transcript

theorem Gathers.fail (error : Error) (evidence : Value → Evidence Command Answer) :
    (fail error : Program Command Answer Error Value).Gathers evidence := by
  rintro transcript value ⟨-, same⟩
  cases same

theorem Gathers.done {evidence : Value → Evidence Command Answer} {value : Value}
    (known : (evidence value).shown []) : (done value : Program Command Answer Error Value).Gathers evidence := by
  rintro transcript other ⟨rfl, same⟩
  rwa [Except.ok.inj same]

theorem Gathers.weaken {program : Program Command Answer Error Value}
    {strong weak : Value → Evidence Command Answer} (gathers : program.Gathers strong)
    (implies : ∀ value transcript, (strong value).shown transcript → (weak value).shown transcript) :
    program.Gathers weak :=
  fun transcript value ends => implies value transcript (gathers ends)

/-- What the first part gathers counts for what follows it. -/
theorem Gathers.bind {early : Value → Evidence Command Answer} {late : Value → Result → Evidence Command Answer}
    {whole : Result → Evidence Command Answer} (begins : head.Gathers early)
    (goes : ∀ value, (tail value).Gathers (late value))
    (sums : ∀ value result transcript, (early value).shown transcript → (late value result).shown transcript →
      (whole result).shown transcript) : (head.bind tail).Gathers whole := by
  intro transcript result ends
  obtain ⟨value, before, after, rfl, starts, finishes⟩ := ends_bind_ok ends
  exact sums value result _ ((early value).stays (List.subset_append_left _ _) (begins starts))
    ((late value result).stays (List.subset_append_right _ _) (goes value finishes))

theorem Gathers.ofHead {evidence : Evidence Command Answer} (begins : head.Gathers fun _ => evidence) :
    (head.bind tail).Gathers fun _ => evidence := by
  intro transcript result ends
  obtain ⟨value, before, after, rfl, starts, -⟩ := ends_bind_ok ends
  exact evidence.stays (List.subset_append_left _ _) (begins starts)

theorem Gathers.ofTail {evidence : Result → Evidence Command Answer}
    (goes : ∀ value, (tail value).Gathers evidence) : (head.bind tail).Gathers evidence := by
  intro transcript result ends
  obtain ⟨value, before, after, rfl, -, finishes⟩ := ends_bind_ok ends
  exact (evidence result).stays (List.subset_append_right _ _) (goes value finishes)

/-- What is done in between does not change the value. -/
theorem Gathers.keep {evidence : Value → Evidence Command Answer}
    {between : Value → Program Command Answer Error Item} (begins : head.Gathers evidence) :
    (head.bind fun value => (between value).bind fun _ => .done value).Gathers evidence := by
  intro transcript result ends
  obtain ⟨value, before, after, rfl, starts, goes⟩ := ends_bind_ok ends
  obtain ⟨_, middle, last, rfl, -, -, same⟩ := ends_bind_ok goes
  obtain rfl := Except.ok.inj same
  exact (evidence result).stays (List.subset_append_left _ _) (begins starts)

theorem Gathers.both {program : Program Command Answer Error Value} {one other : Evidence Command Answer}
    (gathers : program.Gathers fun _ => one) (also : program.Gathers fun _ => other) :
    program.Gathers fun _ => one.both other := fun _ _ ends => ⟨gathers ends, also ends⟩

/-- One part after the other. -/
theorem Gathers.andThen {early late : Evidence Command Answer} (begins : head.Gathers fun _ => early)
    (goes : ∀ value, (tail value).Gathers fun _ => late) : (head.bind tail).Gathers fun _ => early.both late :=
  begins.bind goes fun _ _ _ before after => ⟨before, after⟩

theorem Gathers.forEach {items : List Item} {body : Item → Program Command Answer Error Unit}
    {evidence : Item → Evidence Command Answer}
    (gathers : ∀ item ∈ items, (body item).Gathers fun _ => evidence item) :
    (forEach items body).Gathers fun _ => each items evidence := by
  induction items with
  | nil => exact Gathers.done (List.forall_mem_nil _)
  | cons item others ih =>
      refine (gathers item List.mem_cons_self).bind
        (fun _ => ih fun other member => gathers other (List.mem_cons_of_mem _ member)) ?_
      intro _ _ transcript now later
      exact List.forall_mem_cons.mpr ⟨now, later⟩

end Program

end Interaction
