import QuantumSafe.EventRun
import QuantumSafe.PyJson

set_option autoImplicit false

/- `docker/kme/scanner.py`: the loop that refreshes the list of peer KMEs and
the lookups that request handlers make in it. -/
namespace QuantumSafe.Scanner

open PyText PyJson

/-- `kme_list` and whether `kme_lock` is held. -/
structure Shared where
  kmeList : List Json
  locked : Bool

/-- What the request for one peer's status ends in. Both failures are caught
and the peer is skipped. -/
inductive Answer where
  | requestError
  | invalidJson
  | status (value : Json)

def Answer.value? : Answer → Option Json
  | .status value => some value
  | _ => none

/-- `x['KME_ID']` and `x['SAE_ID']`. -/
def kmeId (status : Json) : Except PyError Json := subscript (text "KME_ID") status

def saeId (status : Json) : Except PyError Json := subscript (text "SAE_ID") status

/-- First critical section of a round. An exception leaves it with the lock held. -/
def openRound (shared : Shared) : Except PyError (List Json) × Shared :=
  match shared.kmeList.mapM kmeId with
  | .error reason => (.error reason, { shared with locked := true })
  | .ok oldKmeList => (.ok oldKmeList, { kmeList := [], locked := false })

/-- Second critical section of a round. The two reports printed at its end only
read the lists. -/
def closeRound (shared : Shared) (oldKmeList fetched : List Json) :
    Except PyError Unit × Shared :=
  let kmeList := shared.kmeList ++ fetched
  match kmeList.mapM kmeId with
  | .error reason => (.error reason, { kmeList := kmeList, locked := true })
  | .ok ids =>
      -- `set(...)` hashes the identifiers of the new and of the old list
      if (ids ++ oldKmeList).all hashable then (.ok (), { kmeList := kmeList, locked := false })
      else (.error .typeError, { kmeList := kmeList, locked := true })

/-- One iteration of `Scanner.start`, with the answers of the peers in order. -/
def iteration (answers : List Answer) (shared : Shared) : Except PyError Unit × Shared :=
  match openRound shared with
  | (.error reason, left) => (.error reason, left)
  | (.ok oldKmeList, left) => closeRound left oldKmeList (answers.filterMap Answer.value?)

/-- The states in which the iterations of `Scanner.start` end: an exception that
leaves an iteration ends the thread. -/
def start : List (List Answer) → Shared → List Shared
  | [], _ => []
  | answers :: rounds, shared =>
      match iteration answers shared with
      | (.error _, left) => [left]
      | (.ok _, left) => left :: start rounds left

/-- A status that both critical sections can handle. -/
def Identified (status : Json) : Prop := ∃ id, kmeId status = .ok id ∧ hashable id = true

def Answer.Identified (answer : Answer) : Prop :=
  ∀ status, answer = .status status → Scanner.Identified status

theorem mapM_kmeId_of_identified (statuses : List Json)
    (identified : ∀ status ∈ statuses, Identified status) :
    ∃ ids, statuses.mapM kmeId = .ok ids ∧ ids.all hashable = true := by
  induction statuses with
  | nil => exact ⟨[], rfl, rfl⟩
  | cons status rest ih =>
      obtain ⟨id, found, hashes⟩ := identified status (by simp)
      obtain ⟨ids, others, all⟩ := ih fun s member => identified s (by simp [member])
      refine ⟨id :: ids, ?_, by simp [hashes, all]⟩
      rw [List.mapM_cons, found, others]
      rfl

theorem identified_of_mapM_kmeId (statuses ids : List Json)
    (listed : statuses.mapM kmeId = .ok ids) (hashes : ids.all hashable = true) :
    ∀ status ∈ statuses, Identified status := by
  have every := (mapM_ok_iff kmeId statuses ids).mp listed
  clear listed
  induction every with
  | nil => simp
  | @cons status id rest tail found _ ih =>
      rw [List.all_cons, Bool.and_eq_true] at hashes
      intro s member
      rcases List.mem_cons.mp member with rfl | member
      · exact ⟨id, found, hashes.1⟩
      · exact ih hashes.2 s member

theorem fetched_identified_iff (answers : List Answer) :
    (∀ status ∈ answers.filterMap Answer.value?, Identified status) ↔
      ∀ answer ∈ answers, answer.Identified := by
  constructor
  · intro all answer member status same
    subst same
    exact all status (List.mem_filterMap.mpr ⟨_, member, rfl⟩)
  · intro all status member
    obtain ⟨answer, inside, value⟩ := List.mem_filterMap.mp member
    cases answer with
    | requestError => cases value
    | invalidJson => cases value
    | status given => exact all _ inside status (by rw [Option.some.inj value])

/-- What an iteration can handle: every listed and every fetched status. -/
def Handled (answers : List Answer) (kmeList : List Json) : Prop :=
  (∀ status ∈ kmeList, Identified status) ∧ ∀ answer ∈ answers, answer.Identified

theorem iteration_handled (answers : List Answer) (shared : Shared)
    (handled : Handled answers shared.kmeList) :
    iteration answers shared = (.ok (), ⟨answers.filterMap Answer.value?, false⟩) := by
  obtain ⟨oldIds, old, oldHashes⟩ := mapM_kmeId_of_identified _ handled.1
  obtain ⟨ids, new, hashes⟩ :=
    mapM_kmeId_of_identified _ ((fetched_identified_iff answers).mpr handled.2)
  have all : (ids ++ oldIds).all hashable = true := by
    rw [List.all_append, hashes, oldHashes]
    rfl
  simp only [iteration, openRound, old, closeRound, List.nil_append, new, all, ↓reduceIte]

/-- Otherwise an exception leaves one of the two critical sections, and the
lock stays held. -/
theorem iteration_unhandled (answers : List Answer) (shared : Shared)
    (unhandled : ¬ Handled answers shared.kmeList) :
    ∃ reason left, iteration answers shared = (.error reason, left) ∧ left.locked = true := by
  unfold iteration openRound
  cases old : shared.kmeList.mapM kmeId with
  | error reason => exact ⟨reason, _, rfl, rfl⟩
  | ok oldIds =>
      simp only [closeRound, List.nil_append]
      cases new : (answers.filterMap Answer.value?).mapM kmeId with
      | error reason => exact ⟨reason, _, rfl, rfl⟩
      | ok ids =>
          have unhashable : (ids ++ oldIds).all hashable ≠ true := by
            intro hashes
            rw [List.all_append, Bool.and_eq_true] at hashes
            have listed := identified_of_mapM_kmeId _ oldIds old hashes.2
            have fetched := identified_of_mapM_kmeId _ ids new hashes.1
            exact unhandled ⟨listed, (fetched_identified_iff answers).mp fetched⟩
          simp only [unhashable, Bool.false_eq_true, ↓reduceIte]
          exact ⟨.typeError, _, rfl, rfl⟩

/-- The lock is free at the end of every iteration that runs, for every sequence
of rounds, exactly when every status ever listed can be handled. -/
theorem start_released_iff (rounds : List (List Answer)) (initial : List Json) (locked : Bool) :
    (∀ left ∈ start rounds ⟨initial, locked⟩, left.locked = false) ↔
      rounds = [] ∨ (∀ status ∈ initial, Identified status) ∧
        ∀ answers ∈ rounds, ∀ answer ∈ answers, answer.Identified := by
  induction rounds generalizing initial locked with
  | nil => simp [start]
  | cons answers rounds ih =>
      by_cases handled : Handled answers initial
      · have fetched := (fetched_identified_iff answers).mpr handled.2
        have rest := ih (answers.filterMap Answer.value?) false
        simp only [start, iteration_handled answers ⟨initial, locked⟩ handled,
          List.forall_mem_cons, true_and, reduceCtorEq, false_or, rest]
        constructor
        · rintro (none | ⟨-, others⟩)
          · exact ⟨handled.1, handled.2, by simp [none]⟩
          · exact ⟨handled.1, handled.2, others⟩
        · rintro ⟨-, -, others⟩
          exact Or.inr ⟨fetched, others⟩
      · obtain ⟨reason, left, ends, held⟩ := iteration_unhandled answers ⟨initial, locked⟩ handled
        simp only [start, ends, List.mem_singleton, forall_eq, held, Bool.true_eq_false,
          reduceCtorEq, false_or, false_iff]
        rintro ⟨listed, all⟩
        exact handled ⟨listed, all answers (by simp)⟩

/-- A peer that answers with an object without `KME_ID` leaves the lock held. -/
theorem start_keeps_lock :
    ¬ ∀ left ∈ start [[.status (.object [])]] ⟨[], false⟩, left.locked = false := by
  have ends : start [[.status (.object [])]] ⟨[], false⟩ = [⟨[.object []], true⟩] := rfl
  simp [ends]

end QuantumSafe.Scanner
