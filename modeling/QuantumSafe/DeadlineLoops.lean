import Mathlib.Algebra.Order.Ring.Rat
import Mathlib.Tactic.Linarith
import QuantumSafe.Interaction
import QuantumSafe.Polling

set_option autoImplicit false

/- Loops of interactive programs that try something again, with a pause in between, until a
deadline on a clock. Against a clock that runs forward and pauses that take their time, the
number of rounds is bounded. -/
namespace Interaction

open Program

variable {Command Answer Error Value State Result World : Type}

namespace Program

/-- A handler runs after what its program left, and only after an exception. -/
theorem ends_handle_iff {program : Program Command Answer Error Value}
    {handler : Error → Program Command Answer Error Value} {transcript : List (Command × Answer)}
    {result : Except Error Value} :
    (program.handle handler).Ends transcript result ↔
      (∃ value, result = .ok value ∧ program.Ends transcript (.ok value)) ∨
      ∃ error before after, transcript = before ++ after ∧ program.Ends before (.error error) ∧
        (handler error).Ends after result := by
  induction program generalizing transcript with
  | done value =>
      constructor
      · rintro ⟨rfl, rfl⟩
        exact Or.inl ⟨value, rfl, rfl, rfl⟩
      · rintro (⟨other, rfl, rfl, same⟩ | ⟨error, before, after, -, ⟨-, same⟩, -⟩)
        · exact ⟨rfl, same⟩
        · cases same
  | fail error =>
      constructor
      · intro ends
        exact Or.inr ⟨error, [], transcript, rfl, ⟨rfl, rfl⟩, ends⟩
      · rintro (⟨other, -, -, same⟩ | ⟨other, before, after, rfl, ⟨rfl, same⟩, ends⟩)
        · cases same
        · obtain rfl := Except.error.inj same
          exact ends
  | ask command next ih =>
      rw [handle, ends_ask]
      constructor
      · rintro ⟨answer, rest, rfl, ends⟩
        rcases (ih answer).mp ends with ⟨value, rfl, complete⟩ | ⟨error, before, after, rfl, fails, goes⟩
        · exact Or.inl ⟨value, rfl, answer, rest, rfl, complete⟩
        · exact Or.inr ⟨error, (command, answer) :: before, after, rfl, ⟨answer, before, rfl, fails⟩, goes⟩
      · rintro (⟨value, rfl, answer, rest, rfl, complete⟩ |
          ⟨error, before, after, rfl, ⟨answer, rest, rfl, fails⟩, goes⟩)
        · exact ⟨answer, rest, rfl, (ih answer).mpr (Or.inl ⟨value, rfl, complete⟩)⟩
        · exact ⟨answer, rest ++ after, rfl,
            (ih answer).mpr (Or.inr ⟨error, rest, after, rfl, fails, goes⟩)⟩

end Program

/-- What a clock and a pause are to a world: time does not run back, a reading falls into the
time it takes, and a pause takes its seconds. -/
structure Clocked (meets : World → Command → Answer → World → Prop) (time : World → ℚ)
    (clock pause : Command) (read : Answer → ℚ) (seconds : ℚ) : Prop where
  forward : ∀ world command answer next, meets world command answer next → time world ≤ time next
  reads : ∀ world answer next, meets world clock answer next →
    time world ≤ read answer ∧ read answer ≤ time next
  pauses : ∀ world answer next, meets world pause answer next → time world + seconds ≤ time next

theorem Clocked.through {meets : World → Command → Answer → World → Prop} {time : World → ℚ}
    {clock pause : Command} {read : Answer → ℚ} {seconds : ℚ}
    (clocked : Clocked meets time clock pause read seconds) {transcript : List (Command × Answer)}
    {world final : World} (met : Through meets world transcript final) : time world ≤ time final := by
  induction transcript generalizing world with
  | nil =>
      obtain rfl : world = final := met
      exact le_refl _
  | cons exchange rest ih =>
      obtain ⟨next, first, others⟩ := met
      exact le_trans (clocked.forward _ _ _ _ first) (ih others)

section Retry

variable (clock pause : Command) (read : Answer → ℚ) (deadline : ℚ) (outOfFuel : Error)

/-- Attempts until one succeeds, fails for good, or fails when the deadline has passed.
The fuel bounds the number of attempts. -/
def retryBefore (retry : Error → Bool) (attempt : Program Command Answer Error Value) :
    Nat → Program Command Answer Error Value
  | 0 => .fail outOfFuel
  | fuel + 1 => attempt.handle fun error =>
      if retry error then
        .ask clock fun answer =>
          if deadline ≤ read answer then .fail error
          else .ask pause fun _ => retryBefore retry attempt fuel
      else .fail error

variable {clock pause read deadline outOfFuel}
variable {retry : Error → Bool} {attempt : Program Command Answer Error Value}

/-- The ways through a round: a success, a failure for good, a failure after the deadline,
and a failure before it with the rounds that follow. -/
theorem retryBefore_round {fuel : Nat} {transcript : List (Command × Answer)}
    {result : Except Error Value}
    (ends : (retryBefore clock pause read deadline outOfFuel retry attempt (fuel + 1)).Ends
      transcript result) :
    (∃ value, result = .ok value ∧ attempt.Ends transcript (.ok value)) ∨
    ∃ error part, attempt.Ends part (.error error) ∧
      ((retry error = false ∧ transcript = part ∧ result = .error error) ∨
        ∃ now, retry error = true ∧
          ((deadline ≤ read now ∧ transcript = part ++ [(clock, now)] ∧ result = .error error) ∨
            ∃ slept rest, ¬ deadline ≤ read now ∧
              transcript = part ++ (clock, now) :: (pause, slept) :: rest ∧
              (retryBefore clock pause read deadline outOfFuel retry attempt fuel).Ends rest result)) := by
  rcases ends_handle_iff.mp ends with ⟨value, same, complete⟩ | ⟨error, part, after, rfl, fails, goes⟩
  · exact Or.inl ⟨value, same, complete⟩
  · refine Or.inr ⟨error, part, fails, ?_⟩
    split at goes
    · rename_i again
      refine Or.inr ?_
      obtain ⟨now, rest, rfl, goes⟩ := goes
      refine ⟨now, again, ?_⟩
      beta_reduce at goes
      split at goes
      · rename_i late
        obtain ⟨rfl, rfl⟩ := goes
        exact Or.inl ⟨late, rfl, rfl⟩
      · rename_i early
        obtain ⟨slept, rest, rfl, goes⟩ := goes
        exact Or.inr ⟨slept, rest, early, rfl, goes⟩
    · rename_i final
      obtain ⟨rfl, rfl⟩ := goes
      exact Or.inl ⟨by simpa using final, List.append_nil _, rfl⟩

/-- A success is the success of the last attempt, after attempts that failed. -/
theorem retryBefore_ok (kept : Command × Answer → Prop) (reading : ∀ now, kept (clock, now))
    (pausing : ∀ slept, kept (pause, slept))
    (failing : ∀ part error, attempt.Ends part (.error error) → ∀ exchange ∈ part, kept exchange)
    {fuel : Nat} {transcript : List (Command × Answer)} {value : Value}
    (ends : (retryBefore clock pause read deadline outOfFuel retry attempt fuel).Ends transcript
      (.ok value)) :
    ∃ front part, transcript = front ++ part ∧ (∀ exchange ∈ front, kept exchange) ∧
      attempt.Ends part (.ok value) := by
  induction fuel generalizing transcript with
  | zero => cases ends.2
  | succ fuel ih =>
      rcases retryBefore_round ends with ⟨other, same, complete⟩ |
        ⟨error, part, fails, ⟨-, -, same⟩ | ⟨now, -, ⟨-, -, same⟩ | ⟨slept, rest, -, rfl, again⟩⟩⟩
      · obtain rfl := Except.ok.inj same
        exact ⟨[], transcript, rfl, List.forall_mem_nil _, complete⟩
      · cases same
      · cases same
      · obtain ⟨front, last, rfl, others, complete⟩ := ih again
        refine ⟨part ++ (clock, now) :: (pause, slept) :: front, last, by simp, ?_, complete⟩
        refine List.forall_mem_append.mpr ⟨failing _ _ fails, ?_⟩
        exact List.forall_mem_cons.mpr ⟨reading now, List.forall_mem_cons.mpr ⟨pausing slept, others⟩⟩

theorem within_retryBefore {commands : Command → Prop} {errors : Error → Prop}
    (reading : commands clock) (pausing : commands pause) (emptied : errors outOfFuel)
    (within : attempt.Within commands errors) (fuel : Nat) :
    (retryBefore clock pause read deadline outOfFuel retry attempt fuel).Within commands errors := by
  induction fuel with
  | zero => exact emptied
  | succ fuel ih =>
      refine within.handle fun error raised => ?_
      split
      · refine ⟨reading, fun now => ?_⟩
        beta_reduce
        split
        · exact raised
        · exact ⟨pausing, fun _ => ih⟩
      · exact raised

section Clocked

variable {meets : World → Command → Answer → World → Prop} {time : World → ℚ} {seconds : ℚ}
variable {counts : Command → Bool}

/-- With fuel for the pauses up to the deadline the attempts do not run out of it, and there
is at most one more of them than pauses. -/
theorem retryBefore_bounded (clocked : Clocked meets time clock pause read seconds)
    (other : counts clock = false ∧ counts pause = false) {each : Nat}
    (attempts : Bounded meets counts outOfFuel each attempt) {rounds fuel : Nat} (enough : rounds < fuel)
    {transcript : List (Command × Answer)} {result : Except Error Value} {world final : World}
    (covers : deadline ≤ time world + seconds * rounds)
    (ends : (retryBefore clock pause read deadline outOfFuel retry attempt fuel).Ends transcript result)
    (met : Through meets world transcript final) :
    transcript.countP (fun exchange => counts exchange.1) ≤ (rounds + 1) * each ∧
      result ≠ .error outOfFuel := by
  induction fuel generalizing transcript world rounds with
  | zero => omega
  | succ fuel ih =>
      have least : each ≤ (rounds + 1) * each := Nat.le_mul_of_pos_left each (Nat.succ_pos rounds)
      rcases retryBefore_round ends with ⟨value, rfl, complete⟩ |
        ⟨error, part, fails, ⟨-, rfl, rfl⟩ | ⟨now, -, ⟨-, rfl, rfl⟩ | ⟨slept, rest, early, rfl, again⟩⟩⟩
      · have one := attempts complete met
        exact ⟨Nat.le_trans one.1 least, one.2⟩
      · have one := attempts fails met
        exact ⟨Nat.le_trans one.1 least, one.2⟩
      · obtain ⟨between, first, -⟩ := through_append.mp met
        have one := attempts fails first
        refine ⟨Nat.le_trans ?_ least, one.2⟩
        simpa [List.countP_append, List.countP_cons, other.1] using one.1
      · obtain ⟨between, first, next, reading, awake, sleeping, others⟩ := through_append.mp met
        have before := clocked.through first
        have bounds := clocked.reads _ _ _ reading
        have took := clocked.pauses _ _ _ sleeping
        have one := (attempts fails first).1
        cases rounds with
        | zero =>
            simp only [Nat.cast_zero, mul_zero, add_zero] at covers
            exact absurd (le_trans covers (le_trans before bounds.1)) early
        | succ rounds =>
            have later : deadline ≤ time awake + seconds * rounds := by
              push_cast at covers
              linarith [bounds.1, bounds.2]
            obtain ⟨few, fine⟩ := ih (by omega) later again others
            refine ⟨?_, fine⟩
            have sum : (rounds + 1 + 1) * each = each + (rounds + 1) * each := by rw [Nat.succ_mul, Nat.add_comm]
            rw [sum, List.countP_append, List.countP_cons, List.countP_cons, other.1, other.2]
            simp only [Bool.false_eq_true, if_false]
            omega

/-- A deadline a timeout ahead, read off the clock just before. -/
theorem retryFor_bounded (clocked : Clocked meets time clock pause read seconds)
    (other : counts clock = false ∧ counts pause = false) {each : Nat}
    (attempts : Bounded meets counts outOfFuel each attempt) {timeout : ℚ} {rounds fuel : Nat}
    (enough : rounds < fuel) (covers : timeout ≤ seconds * rounds) :
    Bounded meets counts outOfFuel ((rounds + 1) * each) (.ask clock fun now =>
      retryBefore clock pause read (read now + timeout) outOfFuel retry attempt fuel) := by
  rintro world transcript final result ⟨now, rest, rfl, ends⟩ ⟨next, reading, met⟩
  have bounds := clocked.reads _ _ _ reading
  rw [List.countP_cons, other.1]
  simp only [Bool.false_eq_true, if_false, Nat.add_zero]
  exact retryBefore_bounded clocked other attempts enough (by linarith [bounds.2]) ends met

end Clocked

end Retry

section While

variable (clock pause : Command) (read : Answer → ℚ) (deadline : ℚ) (outOfFuel : Error)
variable (body : State → Program Command Answer Error (State ⊕ Result))

/-- `while clock() < deadline: body; pause`. The body goes on with a state or leaves the loop
with a result. The fuel bounds the number of rounds. -/
def whileBefore : Nat → State → Program Command Answer Error (State ⊕ Result)
  | 0, _ => .fail outOfFuel
  | fuel + 1, state => .ask clock fun now =>
      if read now < deadline then
        (body state).bind fun
          | .inl next => .ask pause fun _ => whileBefore fuel next
          | .inr result => .done (.inr result)
      else .done (.inl state)

/-- Complete rounds of the loop, with the states that they lead through. -/
inductive Rounds : Nat → State → List (Command × Answer) → State → Prop
  | none (state : State) : Rounds 0 state [] state
  | more {count : Nat} {state next last : State} {now slept : Answer}
      {part rest : List (Command × Answer)} (early : read now < deadline)
      (goes : (body state).Ends part (.ok (.inl next))) (others : Rounds count next rest last) :
      Rounds (count + 1) state ((clock, now) :: (part ++ (pause, slept) :: rest)) last

variable {clock pause read deadline outOfFuel body}

section Clocked

variable {meets : World → Command → Answer → World → Prop} {time : World → ℚ} {seconds : ℚ}
variable {counts : Command → Bool}

/-- A round that starts before the deadline is one of those that are left. -/
theorem left_pos (clocked : Clocked meets time clock pause read seconds) {left : Nat} {now : Answer}
    {world next : World} (covers : deadline ≤ time world + seconds * left)
    (reading : meets world clock now next) (early : read now < deadline) : 0 < left := by
  have bounds := clocked.reads _ _ _ reading
  by_contra none
  obtain rfl : left = 0 := by omega
  simp only [Nat.cast_zero, mul_zero, add_zero] at covers
  exact absurd (lt_of_lt_of_le early (le_trans covers bounds.1)) (lt_irrefl _)

/-- Each round takes its pause off the time that is left. -/
theorem Rounds.remaining (clocked : Clocked meets time clock pause read seconds) {count rounds : Nat}
    {state last : State} {transcript : List (Command × Answer)}
    (complete : Rounds clock pause read deadline body count state transcript last) {world final : World}
    (met : Through meets world transcript final) (covers : deadline ≤ time world + seconds * rounds) :
    ∃ left, rounds = count + left ∧ deadline ≤ time final + seconds * left := by
  induction complete generalizing world rounds with
  | none state =>
      obtain rfl : world = final := met
      exact ⟨rounds, (Nat.zero_add rounds).symm, covers⟩
  | more early goes others ih =>
      obtain ⟨next, reading, met⟩ := met
      obtain ⟨between, first, awake, sleeping, later⟩ := through_append.mp met
      have bounds := clocked.reads _ _ _ reading
      have before := clocked.through first
      have took := clocked.pauses _ _ _ sleeping
      have some := left_pos clocked covers reading early
      cases rounds with
      | zero => omega
      | succ rounds =>
          push_cast at covers
          obtain ⟨left, same, reaches⟩ := ih later (show deadline ≤ time awake + seconds * rounds by
            linarith [bounds.1, bounds.2])
          exact ⟨left, by omega, reaches⟩

theorem Rounds.few {never : Error} (other : counts clock = false ∧ counts pause = false) {each : Nat}
    (bodies : ∀ state, Bounded meets counts never each (body state)) {count : Nat} {state last : State}
    {transcript : List (Command × Answer)}
    (complete : Rounds clock pause read deadline body count state transcript last) {world final : World}
    (met : Through meets world transcript final) :
    transcript.countP (fun exchange => counts exchange.1) ≤ count * each := by
  induction complete generalizing world with
  | none state => exact Nat.zero_le _
  | more early goes others ih =>
      obtain ⟨next, reading, met⟩ := met
      obtain ⟨between, first, awake, sleeping, later⟩ := through_append.mp met
      have one := (bodies _ goes first).1
      have rest := ih later
      rw [Nat.succ_mul, List.countP_cons, List.countP_append, List.countP_cons, other.1, other.2]
      simp only [Bool.false_eq_true, if_false]
      omega

end Clocked

end While

section Attempts

open Polling (Step)

variable {Reason : Type}

/-- A number of attempts: the loop is left with a result, or goes on and remembers a reason. -/
def pollTimes (attempt : Nat → Program Command Answer Error (Step Reason Value)) :
    Nat → Nat → Option Reason → Program Command Answer Error (Option Reason ⊕ Value)
  | 0, _, last => .done (.inl last)
  | remaining + 1, index, _ => (attempt index).bind fun
      | .left result => .done (.inr result)
      | .again reason => pollTimes attempt remaining (index + 1) (some reason)

variable {attempt : Nat → Program Command Answer Error (Step Reason Value)}

/-- The result of a loop is that of its last attempt; the others went on. -/
theorem pollTimes_left {remaining index : Nat} {last : Option Reason} {value : Value}
    {transcript : List (Command × Answer)}
    (ends : (pollTimes attempt remaining index last).Ends transcript (.ok (.inr value))) :
    ∃ parts count part, transcript = parts.flatten ++ part ∧ count < remaining ∧
      List.Forall₂ (fun later part => ∃ reason, (attempt (index + later)).Ends part (.ok (.again reason)))
        (List.range count) parts ∧
      (attempt (index + count)).Ends part (.ok (.left value)) := by
  induction remaining generalizing index last transcript with
  | zero => cases ends.2
  | succ remaining ih =>
      obtain ⟨step, before, after, rfl, first, goes⟩ := ends_bind_ok ends
      cases step with
      | left result =>
          obtain ⟨rfl, same⟩ := goes
          obtain rfl : value = result := Sum.inr.inj (Except.ok.inj same)
          exact ⟨[], 0, before, by simp, Nat.succ_pos _, List.Forall₂.nil, first⟩
      | again reason =>
          obtain ⟨parts, count, part, rfl, small, others, complete⟩ := ih goes
          have moved : ∀ later, index + 1 + later = index + (later + 1) := fun later => by omega
          refine ⟨before :: parts, count + 1, part, by simp, Nat.succ_lt_succ small, ?_, ?_⟩
          · rw [List.range_succ_eq_map]
            refine List.Forall₂.cons ⟨reason, first⟩ ((List.forall₂_map_left_iff).mpr ?_)
            simpa only [moved] using others
          · simpa only [moved] using complete

/-- The reason that is left where no attempt has succeeded is one that an attempt gave. -/
theorem pollTimes_inl {known : Reason → Prop}
    (gives : ∀ index part reason, (attempt index).Ends part (.ok (.again reason)) → known reason)
    {remaining index : Nat} {last final : Option Reason} {transcript : List (Command × Answer)}
    (early : ∀ reason, last = some reason → known reason)
    (ends : (pollTimes attempt remaining index last).Ends transcript (.ok (.inl final))) :
    ∀ reason, final = some reason → known reason := by
  induction remaining generalizing index last transcript with
  | zero =>
      obtain rfl := Sum.inl.inj (Except.ok.inj ends.2)
      exact early
  | succ remaining ih =>
      obtain ⟨step, before, after, rfl, first, goes⟩ := ends_bind_ok ends
      cases step with
      | left result => cases goes.2
      | again reason =>
          refine ih (fun other same => ?_) goes
          obtain rfl := Option.some.inj same
          exact gives _ _ _ first

end Attempts

end Interaction
