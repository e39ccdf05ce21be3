import Mathlib.Data.List.Forall2

set_option autoImplicit false

/- Programs that talk to something outside: they issue commands, look at the answers and
end with a value or an exception. Nothing is known about who answers, so what is proved
of a program holds of every transcript it can leave. -/
namespace Interaction

inductive Program (Command Answer Error Value : Type) : Type where
  | done (value : Value)
  | fail (error : Error)
  | ask (command : Command) (next : Answer → Program Command Answer Error Value)

namespace Program

variable {Command Answer Error Value Result Item : Type}

def bind : Program Command Answer Error Value →
    (Value → Program Command Answer Error Result) → Program Command Answer Error Result
  | .done value, rest => rest value
  | .fail error, _ => .fail error
  | .ask command next, rest => .ask command fun answer => (next answer).bind rest

instance : Monad (Program Command Answer Error) where
  pure := .done
  bind := bind

/-- `try: ... except ...`: the handler gets every exception. -/
def handle : Program Command Answer Error Value →
    (Error → Program Command Answer Error Value) → Program Command Answer Error Value
  | .done value, _ => .done value
  | .fail error, handler => handler error
  | .ask command next, handler => .ask command fun answer => (next answer).handle handler

/-- A loop over items. -/
def forEach (items : List Item) (body : Item → Program Command Answer Error Unit) :
    Program Command Answer Error Unit :=
  match items with
  | [] => .done ()
  | item :: rest => (body item).bind fun _ => forEach rest body

@[simp] theorem done_bind (value : Value) (rest : Value → Program Command Answer Error Result) :
    (done value).bind rest = rest value := rfl

/-- The transcript a program leaves, and how it ends. -/
def Ends : Program Command Answer Error Value → List (Command × Answer) →
    Except Error Value → Prop
  | .done value, transcript, result => transcript = [] ∧ result = .ok value
  | .fail error, transcript, result => transcript = [] ∧ result = .error error
  | .ask command next, transcript, result =>
      ∃ answer rest, transcript = (command, answer) :: rest ∧ (next answer).Ends rest result

/-- The run against something that answers by what it has seen so far. -/
def run (answers : List (Command × Answer) → Command → Answer) :
    Program Command Answer Error Value → List (Command × Answer) →
      Except Error Value × List (Command × Answer)
  | .done value, _ => (.ok value, [])
  | .fail error, _ => (.error error, [])
  | .ask command next, seen =>
      let answer := answers seen command
      let later := (next answer).run answers (seen ++ [(command, answer)])
      (later.1, (command, answer) :: later.2)

/-- Every run leaves a transcript of the program. -/
theorem ends_run (answers : List (Command × Answer) → Command → Answer)
    (program : Program Command Answer Error Value) (seen : List (Command × Answer)) :
    program.Ends (program.run answers seen).2 (program.run answers seen).1 := by
  induction program generalizing seen with
  | done value => exact ⟨rfl, rfl⟩
  | fail error => exact ⟨rfl, rfl⟩
  | ask command next ih => exact ⟨_, _, rfl, ih _ _⟩

@[simp] theorem ends_done {value : Value} {transcript : List (Command × Answer)}
    {result : Except Error Value} :
    (done value : Program Command Answer Error Value).Ends transcript result ↔
      transcript = [] ∧ result = .ok value := Iff.rfl

@[simp] theorem ends_fail {error : Error} {transcript : List (Command × Answer)}
    {result : Except Error Value} :
    (fail error : Program Command Answer Error Value).Ends transcript result ↔
      transcript = [] ∧ result = .error error := Iff.rfl

theorem ends_ask {command : Command} {next : Answer → Program Command Answer Error Value}
    {transcript : List (Command × Answer)} {result : Except Error Value} :
    (ask command next).Ends transcript result ↔
      ∃ answer rest, transcript = (command, answer) :: rest ∧ (next answer).Ends rest result := Iff.rfl

/-- One program after another: the first one fails, or both leave their part. -/
theorem ends_bind_iff {first : Program Command Answer Error Value}
    {rest : Value → Program Command Answer Error Result} {transcript : List (Command × Answer)}
    {result : Except Error Result} :
    (first.bind rest).Ends transcript result ↔
      (∃ value before after, transcript = before ++ after ∧ first.Ends before (.ok value) ∧
        (rest value).Ends after result) ∨
      ∃ error, result = .error error ∧ first.Ends transcript (.error error) := by
  induction first generalizing transcript with
  | done value =>
      constructor
      · intro ends
        exact Or.inl ⟨value, [], transcript, rfl, ⟨rfl, rfl⟩, ends⟩
      · rintro (⟨other, before, after, rfl, ⟨rfl, same⟩, ends⟩ | ⟨error, -, -, fails⟩)
        · obtain rfl := Except.ok.inj same
          exact ends
        · cases fails
  | fail error =>
      constructor
      · rintro ⟨rfl, rfl⟩
        exact Or.inr ⟨error, rfl, rfl, rfl⟩
      · rintro (⟨other, before, after, -, ⟨-, same⟩, -⟩ | ⟨other, rfl, rfl, same⟩)
        · cases same
        · exact ⟨rfl, by rw [Except.error.inj same]⟩
  | ask command next ih =>
      rw [bind, ends_ask]
      constructor
      · rintro ⟨answer, tail, rfl, ends⟩
        rcases (ih answer).mp ends with ⟨value, before, after, rfl, first, later⟩ | ⟨error, rfl, fails⟩
        · exact Or.inl ⟨value, (command, answer) :: before, after, rfl, ⟨answer, before, rfl, first⟩,
            later⟩
        · exact Or.inr ⟨error, rfl, answer, tail, rfl, fails⟩
      · rintro (⟨value, before, after, rfl, ⟨answer, tail, rfl, first⟩, later⟩ |
          ⟨error, rfl, answer, tail, rfl, fails⟩)
        · exact ⟨answer, tail ++ after, rfl,
            (ih answer).mpr (Or.inl ⟨value, tail, after, rfl, first, later⟩)⟩
        · exact ⟨answer, tail, rfl, (ih answer).mpr (Or.inr ⟨error, rfl, fails⟩)⟩

theorem ends_bind_ok {first : Program Command Answer Error Value}
    {rest : Value → Program Command Answer Error Result} {transcript : List (Command × Answer)}
    {result : Result} (ends : (first.bind rest).Ends transcript (.ok result)) :
    ∃ value before after, transcript = before ++ after ∧ first.Ends before (.ok value) ∧
      (rest value).Ends after (.ok result) := by
  rcases ends_bind_iff.mp ends with both | ⟨error, same, -⟩
  · exact both
  · cases same

/-- All commands and all exceptions of the program have these properties. -/
def Within (commands : Command → Prop) (errors : Error → Prop) :
    Program Command Answer Error Value → Prop
  | .done _ => True
  | .fail error => errors error
  | .ask command next => commands command ∧ ∀ answer, (next answer).Within commands errors

section Within

variable {commands : Command → Prop} {errors : Error → Prop}

theorem Within.ends {program : Program Command Answer Error Value}
    (within : program.Within commands errors) {transcript : List (Command × Answer)}
    {result : Except Error Value} (ends : program.Ends transcript result) :
    (∀ exchange ∈ transcript, commands exchange.1) ∧
      ∀ error, result = .error error → errors error := by
  induction program generalizing transcript with
  | done value =>
      obtain ⟨rfl, rfl⟩ := ends
      exact ⟨List.forall_mem_nil _, fun error same => by cases same⟩
  | fail error =>
      obtain ⟨rfl, rfl⟩ := ends
      exact ⟨List.forall_mem_nil _, fun other same => Except.error.inj same ▸ within⟩
  | ask command next ih =>
      obtain ⟨answer, rest, rfl, ends⟩ := ends
      obtain ⟨others, fails⟩ := ih answer (within.2 answer) ends
      exact ⟨List.forall_mem_cons.mpr ⟨within.1, others⟩, fails⟩

theorem Within.bind {first : Program Command Answer Error Value}
    {rest : Value → Program Command Answer Error Result} (within : first.Within commands errors)
    (later : ∀ value, (rest value).Within commands errors) :
    (first.bind rest).Within commands errors := by
  induction first with
  | done value => exact later value
  | fail error => exact within
  | ask command next ih => exact ⟨within.1, fun answer => ih answer (within.2 answer)⟩

theorem Within.handle {program : Program Command Answer Error Value}
    {handler : Error → Program Command Answer Error Value} {raised : Error → Prop}
    (within : program.Within commands raised)
    (handled : ∀ error, raised error → (handler error).Within commands errors) :
    (program.handle handler).Within commands errors := by
  induction program with
  | done value => exact trivial
  | fail error => exact handled error within
  | ask command next ih => exact ⟨within.1, fun answer => ih answer (within.2 answer)⟩

theorem Within.forEach {items : List Item} {body : Item → Program Command Answer Error Unit}
    (each : ∀ item ∈ items, (body item).Within commands errors) :
    (forEach items body).Within commands errors := by
  induction items with
  | nil => exact trivial
  | cons item rest ih =>
      exact (each item List.mem_cons_self).bind fun _ =>
        ih fun other member => each other (List.mem_cons_of_mem _ member)

end Within

/-- A loop that ends normally leaves the parts of its iterations, in order. -/
theorem forEach_ok {items : List Item} {body : Item → Program Command Answer Error Unit}
    {transcript : List (Command × Answer)} (ends : (forEach items body).Ends transcript (.ok ())) :
    ∃ parts, transcript = parts.flatten ∧
      List.Forall₂ (fun item part => (body item).Ends part (.ok ())) items parts := by
  induction items generalizing transcript with
  | nil => exact ⟨[], ends.1, List.Forall₂.nil⟩
  | cons item rest ih =>
      obtain ⟨_, before, after, rfl, first, later⟩ := ends_bind_ok ends
      obtain ⟨parts, rfl, others⟩ := ih later
      exact ⟨before :: parts, rfl, List.Forall₂.cons first others⟩

/-- A loop that fails does so in one iteration, after complete ones. -/
theorem forEach_error {items : List Item} {body : Item → Program Command Answer Error Unit}
    {transcript : List (Command × Answer)} {error : Error}
    (ends : (forEach items body).Ends transcript (.error error)) :
    ∃ before item after parts part, items = before ++ item :: after ∧
      transcript = parts.flatten ++ part ∧
      List.Forall₂ (fun item part => (body item).Ends part (.ok ())) before parts ∧
      (body item).Ends part (.error error) := by
  induction items generalizing transcript with
  | nil => cases ends.2
  | cons item rest ih =>
      rcases ends_bind_iff.mp ends with ⟨_, part, later, rfl, first, others⟩ | ⟨other, same, fails⟩
      · obtain ⟨before, failing, after, parts, last, rfl, rfl, complete, fails⟩ := ih others
        exact ⟨item :: before, failing, after, part :: parts, last, rfl, by simp,
          List.Forall₂.cons first complete, fails⟩
      · obtain rfl := Except.error.inj same
        exact ⟨[], item, rest, [], transcript, rfl, rfl, List.Forall₂.nil, fails⟩

end Program

section Worlds

variable {Command Answer Error Value Result Item World : Type}

/-- A transcript as seen by what is outside: each exchange may change it. -/
def Through (meets : World → Command → Answer → World → Prop) :
    World → List (Command × Answer) → World → Prop
  | world, [], final => world = final
  | world, (command, answer) :: rest, final =>
      ∃ next, meets world command answer next ∧ Through meets next rest final

variable {meets : World → Command → Answer → World → Prop}

theorem through_append {before after : List (Command × Answer)} {world final : World} :
    Through meets world (before ++ after) final ↔
      ∃ between, Through meets world before between ∧ Through meets between after final := by
  induction before generalizing world with
  | nil => simp [Through]
  | cons exchange rest ih =>
      obtain ⟨command, answer⟩ := exchange
      simp only [List.cons_append, Through, ih]
      constructor
      · rintro ⟨next, met, between, first, later⟩
        exact ⟨between, ⟨next, met, first⟩, later⟩
      · rintro ⟨between, ⟨next, met, first⟩, later⟩
        exact ⟨next, met, between, first, later⟩

/-- Every exchange takes the world one step. -/
theorem through_mem {transcript : List (Command × Answer)} {world final : World}
    (met : Through meets world transcript final) {exchange : Command × Answer}
    (member : exchange ∈ transcript) : ∃ before after, meets before exchange.1 exchange.2 after := by
  induction transcript generalizing world with
  | nil => cases member
  | cons first rest ih =>
      obtain ⟨next, step, others⟩ := met
      rcases List.mem_cons.mp member with rfl | later
      · exact ⟨world, next, step⟩
      · exact ih others later

/-- What is reported truthfully and stays true once it is, holds after a report of it. -/
theorem through_reported (view : World → Bool) {report : Command × Answer → Option Bool}
    (truthful : ∀ world command answer next, meets world command answer next →
      report (command, answer) = some true → view next = true)
    (stays : ∀ world command answer next, meets world command answer next →
      view world = true → view next = true)
    {transcript : List (Command × Answer)} {world final : World}
    (met : Through meets world transcript final)
    (holds : view world = true ∨ ∃ exchange ∈ transcript, report exchange = some true) :
    view final = true := by
  induction transcript generalizing world with
  | nil =>
      obtain rfl : world = final := met
      exact holds.resolve_right (by simp)
  | cons exchange rest ih =>
      obtain ⟨next, first, others⟩ := met
      refine ih others ?_
      rcases holds with before | ⟨reported, member, told⟩
      · exact Or.inl (stays _ _ _ _ first before)
      · rcases List.mem_cons.mp member with rfl | later
        · exact Or.inl (truthful _ _ _ _ first told)
        · exact Or.inr ⟨reported, later, told⟩

/-- The run in a world that answers and changes. -/
def Program.live (reply : World → Command → Answer × World) :
    Program Command Answer Error Value → World → Except Error Value × List (Command × Answer) × World
  | .done value, world => (.ok value, [], world)
  | .fail error, world => (.error error, [], world)
  | .ask command next, world =>
      let answered := reply world command
      let later := (next answered.1).live reply answered.2
      (later.1, (command, answered.1) :: later.2.1, later.2.2)

theorem ends_live (reply : World → Command → Answer × World)
    (program : Program Command Answer Error Value) (world : World) :
    program.Ends (program.live reply world).2.1 (program.live reply world).1 := by
  induction program generalizing world with
  | done value => exact ⟨rfl, rfl⟩
  | fail error => exact ⟨rfl, rfl⟩
  | ask command next ih => exact ⟨_, _, rfl, ih _ _⟩

theorem through_live {reply : World → Command → Answer × World}
    (keeps : ∀ world command, meets world command (reply world command).1 (reply world command).2)
    (program : Program Command Answer Error Value) (world : World) :
    Through meets world (program.live reply world).2.1 (program.live reply world).2.2 := by
  induction program generalizing world with
  | done value => rfl
  | fail error => rfl
  | ask command next ih => exact ⟨_, keeps _ _, ih _ _⟩

section Bounded

variable (meets) in
/-- Against this outside a program issues a bounded number of the counted commands, and never
ends with this exception. -/
def Bounded (counts : Command → Bool) (never : Error) (bound : Nat)
    (program : Program Command Answer Error Value) : Prop :=
  ∀ ⦃world transcript final result⦄, program.Ends transcript result →
    Through meets world transcript final →
    transcript.countP (fun exchange => counts exchange.1) ≤ bound ∧ result ≠ .error never

variable {counts : Command → Bool} {never : Error}

theorem Bounded.done (value : Value) :
    Bounded meets counts never 0 (.done value : Program Command Answer Error Value) := by
  rintro world transcript final result ⟨rfl, rfl⟩ -
  exact ⟨Nat.le_refl 0, fun same => by cases same⟩

theorem Bounded.fail {error : Error} (other : error ≠ never) :
    Bounded meets counts never 0 (.fail error : Program Command Answer Error Value) := by
  rintro world transcript final result ⟨rfl, rfl⟩ -
  exact ⟨Nat.le_refl 0, fun same => other (Except.error.inj same)⟩

theorem Bounded.ask {command : Command} {next : Answer → Program Command Answer Error Value}
    {bound : Nat} (rest : ∀ answer, Bounded meets counts never bound (next answer)) :
    Bounded meets counts never ((if counts command then 1 else 0) + bound) (.ask command next) := by
  rintro world transcript final result ⟨answer, others, rfl, ends⟩ ⟨between, -, met⟩
  obtain ⟨few, fine⟩ := rest answer ends met
  refine ⟨?_, fine⟩
  rw [List.countP_cons, Nat.add_comm]
  exact Nat.add_le_add_left few _

theorem Bounded.bind {first : Program Command Answer Error Value}
    {rest : Value → Program Command Answer Error Result} {bound later : Nat}
    (few : Bounded meets counts never bound first)
    (others : ∀ value, Bounded meets counts never later (rest value)) :
    Bounded meets counts never (bound + later) (first.bind rest) := by
  intro world transcript final result ends met
  rcases Program.ends_bind_iff.mp ends with ⟨value, before, after, rfl, begins, goes⟩ |
    ⟨error, rfl, fails⟩
  · obtain ⟨between, early, late⟩ := through_append.mp met
    have front := few begins early
    have back := others value goes late
    refine ⟨?_, back.2⟩
    rw [List.countP_append]
    omega
  · have all := few fails met
    refine ⟨by omega, fun same => all.2 ?_⟩
    rw [Except.error.inj same]

theorem Bounded.mono {program : Program Command Answer Error Value} {bound larger : Nat}
    (few : Bounded meets counts never bound program) (less : bound ≤ larger) :
    Bounded meets counts never larger program := by
  intro world transcript final result ends met
  have all := few ends met
  exact ⟨Nat.le_trans all.1 less, all.2⟩

theorem Bounded.forEach {items : List Item} {body : Item → Program Command Answer Error Unit}
    {bound : Nat} (each : ∀ item ∈ items, Bounded meets counts never bound (body item)) :
    Bounded meets counts never (items.length * bound) (Program.forEach items body) := by
  induction items with
  | nil => exact (Bounded.done ()).mono (Nat.zero_le _)
  | cons item rest ih =>
      have others := ih fun other member => each other (List.mem_cons_of_mem _ member)
      refine ((each item List.mem_cons_self).bind fun _ => others).mono ?_
      rw [List.length_cons, Nat.succ_mul]
      omega

end Bounded

end Worlds

end Interaction
