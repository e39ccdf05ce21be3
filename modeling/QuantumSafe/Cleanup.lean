import QuantumSafe.DeadlineLoops

set_option autoImplicit false

/- `try: ... finally: ...` around interactive programs: what runs whatever happens, what a
program leaves as it was, and what it releases after it has taken it. -/
namespace Interaction

open Program

variable {Command Answer Error Value Result Item World : Type}

namespace Program

/-- `try: body finally: cleanup` -/
def ensure (body : Program Command Answer Error Value) (cleanup : Program Command Answer Error Unit) :
    Program Command Answer Error Value :=
  (body.handle fun error => cleanup.bind fun _ => .fail error).bind fun value =>
    cleanup.bind fun _ => .done value

/-- The cleanup runs after the body, however that ends. Its own exception goes first. -/
theorem ends_ensure {body : Program Command Answer Error Value}
    {cleanup : Program Command Answer Error Unit} {transcript : List (Command × Answer)}
    {result : Except Error Value} (ends : (body.ensure cleanup).Ends transcript result) :
    ∃ before after inner, transcript = before ++ after ∧ body.Ends before inner ∧
      ((cleanup.Ends after (.ok ()) ∧ result = inner) ∨
        ∃ error, cleanup.Ends after (.error error) ∧ result = .error error) := by
  rcases ends_bind_iff.mp ends with ⟨value, before, after, rfl, goes, cleans⟩ | ⟨error, rfl, fails⟩
  · rcases ends_handle_iff.mp goes with ⟨other, same, complete⟩ | ⟨error, first, last, -, -, again⟩
    · obtain rfl := Except.ok.inj same
      refine ⟨before, after, .ok value, rfl, complete, ?_⟩
      rcases ends_bind_iff.mp cleans with ⟨_, first, last, rfl, cleaned, rfl, same⟩ | ⟨error, rfl, fails⟩
      · rw [List.append_nil]
        exact Or.inl ⟨cleaned, same⟩
      · exact Or.inr ⟨error, fails, rfl⟩
    · rcases ends_bind_iff.mp again with ⟨_, cleaning, none, -, -, -, same⟩ | ⟨other, same, -⟩
      · cases same
      · cases same
  · rcases ends_handle_iff.mp fails with ⟨other, same, -⟩ | ⟨first, before, after, rfl, failed, cleans⟩
    · cases same
    · refine ⟨before, after, .error first, rfl, failed, ?_⟩
      rcases ends_bind_iff.mp cleans with ⟨_, cleaning, none, rfl, cleaned, rfl, same⟩ | ⟨other, same, fails⟩
      · rw [List.append_nil]
        exact Or.inl ⟨cleaned, same⟩
      · obtain rfl := Except.error.inj same
        exact Or.inr ⟨error, fails, rfl⟩

theorem Within.ensure {commands : Command → Prop} {errors : Error → Prop}
    {body : Program Command Answer Error Value} {cleanup : Program Command Answer Error Unit}
    (within : body.Within commands errors) (cleans : cleanup.Within commands errors) :
    (body.ensure cleanup).Within commands errors := by
  have handled : ∀ error, errors error →
      (cleanup.bind fun _ => .fail error : Program Command Answer Error Value).Within commands errors :=
    fun _ raised => cleans.bind fun _ => raised
  exact (within.handle handled).bind fun _ => cleans.bind fun _ => trivial

end Program

section Preserves

variable (meets : World → Command → Answer → World → Prop) (keeps : World → World → Prop)
variable (broken : Command × Answer → Prop)

/-- However a run ends, the outside is kept as it was, or something broke and the run failed. -/
def Preserves (program : Program Command Answer Error Value) : Prop :=
  ∀ ⦃world transcript final result⦄, program.Ends transcript result →
    Through meets world transcript final →
    keeps world final ∨ (∃ error, result = .error error) ∧ ∃ exchange ∈ transcript, broken exchange

variable {meets keeps broken}

theorem Preserves.done (kept : ∀ world, keeps world world) (value : Value) :
    Preserves meets keeps broken (.done value : Program Command Answer Error Value) := by
  rintro world transcript final result ⟨rfl, -⟩ met
  obtain rfl : world = final := met
  exact Or.inl (kept world)

theorem Preserves.fail (kept : ∀ world, keeps world world) (error : Error) :
    Preserves meets keeps broken (.fail error : Program Command Answer Error Value) := by
  rintro world transcript final result ⟨rfl, -⟩ met
  obtain rfl : world = final := met
  exact Or.inl (kept world)

theorem Preserves.bind (chain : ∀ {first second third}, keeps first second → keeps second third →
      keeps first third) {first : Program Command Answer Error Value}
    {rest : Value → Program Command Answer Error Result} (begins : Preserves meets keeps broken first)
    (goes : ∀ value, Preserves meets keeps broken (rest value)) :
    Preserves meets keeps broken (first.bind rest) := by
  intro world transcript final result ends met
  rcases ends_bind_iff.mp ends with ⟨value, before, after, rfl, complete, later⟩ | ⟨error, rfl, fails⟩
  · obtain ⟨between, early, late⟩ := through_append.mp met
    rcases begins complete early with kept | ⟨⟨error, same⟩, -⟩
    · rcases goes value later late with still | ⟨failed, exchange, member, bad⟩
      · exact Or.inl (chain kept still)
      · exact Or.inr ⟨failed, exchange, List.mem_append_right _ member, bad⟩
    · cases same
  · rcases begins fails met with kept | ⟨-, breaks⟩
    · exact Or.inl kept
    · exact Or.inr ⟨⟨error, rfl⟩, breaks⟩

theorem Preserves.ask (chain : ∀ {first second third}, keeps first second → keeps second third →
      keeps first third) {command : Command} {next : Answer → Program Command Answer Error Value}
    (kept : ∀ {world answer after}, meets world command answer after → keeps world after)
    (goes : ∀ answer, Preserves meets keeps broken (next answer)) :
    Preserves meets keeps broken (.ask command next) := by
  rintro world transcript final result ⟨answer, rest, rfl, ends⟩ ⟨between, first, later⟩
  rcases goes answer ends later with still | ⟨failed, exchange, member, bad⟩
  · exact Or.inl (chain (kept first) still)
  · exact Or.inr ⟨failed, exchange, List.mem_cons_of_mem _ member, bad⟩

/-- A cleanup that keeps the outside whatever happens. -/
theorem Preserves.ensure (chain : ∀ {first second third}, keeps first second → keeps second third →
      keeps first third) {body : Program Command Answer Error Value}
    {cleanup : Program Command Answer Error Unit} (begins : Preserves meets keeps broken body)
    (cleans : Preserves meets keeps broken cleanup) :
    Preserves meets keeps broken (body.ensure cleanup) := by
  intro world transcript final result ends met
  obtain ⟨before, after, inner, rfl, goes, cleaning⟩ := ends_ensure ends
  obtain ⟨between, early, late⟩ := through_append.mp met
  have ending : ∃ outer, cleanup.Ends after outer ∧
      ((∃ error, inner = .error error) ∨ (∃ error, outer = .error error) → ∃ error, result = .error error) := by
    rcases cleaning with ⟨cleaned, rfl⟩ | ⟨error, fails, rfl⟩
    · refine ⟨.ok (), cleaned, ?_⟩
      rintro (failed | ⟨error, same⟩)
      · exact failed
      · cases same
    · exact ⟨.error error, fails, fun _ => ⟨error, rfl⟩⟩
  obtain ⟨outer, cleaned, failing⟩ := ending
  rcases begins goes early with kept | ⟨failed, exchange, member, bad⟩
  · rcases cleans cleaned late with still | ⟨failed, exchange, member, bad⟩
    · exact Or.inl (chain kept still)
    · exact Or.inr ⟨failing (Or.inr failed), exchange, List.mem_append_right _ member, bad⟩
  · exact Or.inr ⟨failing (Or.inl failed), exchange, List.mem_append_left _ member, bad⟩

end Preserves

section Released

variable (takes releases : Command × Answer → Prop)

/-- Whatever is taken is released later. -/
def Released (transcript : List (Command × Answer)) : Prop :=
  ∀ before taken after, transcript = before ++ taken :: after → takes taken →
    ∃ released ∈ after, releases released

variable {takes releases}

theorem released_of_none {transcript : List (Command × Answer)}
    (none : ∀ exchange ∈ transcript, ¬ takes exchange) : Released takes releases transcript := by
  rintro before taken after rfl took
  exact absurd took (none taken (by simp))

theorem released_append {first second : List (Command × Answer)} (early : Released takes releases first)
    (late : Released takes releases second) : Released takes releases (first ++ second) := by
  intro before taken after same took
  rcases List.append_eq_append_iff.mp same with ⟨middle, rfl, rest⟩ | ⟨middle, rfl, rest⟩
  · exact late middle taken after rest took
  · cases middle with
    | nil => exact late [] taken after rest.symm took
    | cons exchange others =>
        obtain ⟨rfl, rfl⟩ := List.cons.inj rest
        obtain ⟨released, member, frees⟩ := early before taken others rfl took
        exact ⟨released, List.mem_append_left _ member, frees⟩

/-- What is taken last is released by what comes after. -/
theorem released_cons {taken : Command × Answer} {rest : List (Command × Answer)}
    (later : takes taken → ∃ released ∈ rest, releases released)
    (others : Released takes releases rest) : Released takes releases (taken :: rest) := by
  intro before other after same took
  cases before with
  | nil =>
      obtain ⟨rfl, rfl⟩ := List.cons.inj same
      exact later took
  | cons exchange front =>
      obtain ⟨rfl, rfl⟩ := List.cons.inj same
      exact others front other after rfl took

variable (takes releases) in
/-- Every run releases what it takes. -/
def Releases (program : Program Command Answer Error Value) : Prop :=
  ∀ ⦃transcript result⦄, program.Ends transcript result → Released takes releases transcript

theorem Releases.bind {first : Program Command Answer Error Value}
    {rest : Value → Program Command Answer Error Result} (begins : Releases takes releases first)
    (goes : ∀ value, Releases takes releases (rest value)) : Releases takes releases (first.bind rest) := by
  intro transcript result ends
  rcases ends_bind_iff.mp ends with ⟨value, before, after, rfl, complete, later⟩ | ⟨error, -, fails⟩
  · exact released_append (begins complete) (goes value later)
  · exact begins fails

/-- A program whose commands take nothing. -/
theorem Releases.of_within {commands : Command → Prop} {errors : Error → Prop}
    {program : Program Command Answer Error Value} (within : program.Within commands errors)
    (none : ∀ command answer, commands command → ¬ takes (command, answer)) :
    Releases takes releases program := fun _ _ ends =>
  released_of_none fun exchange member => none exchange.1 exchange.2 ((within.ends ends).1 exchange member)

end Released

end Interaction
