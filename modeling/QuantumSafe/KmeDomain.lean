import Mathlib.Algebra.BigOperators.Group.Finset.Basic
import Mathlib.Algebra.Order.BigOperators.Group.Finset
import QuantumSafe.Scanner

set_option autoImplicit false

/- Several KMEs that scan one another (`docker/kme/scanner.py`), with the request handlers
that share `kme_list` and `kme_lock` with the scanner. Every scanner, every handler and every
outside caller is a process of its own; the KMEs and the outside callers are arbitrary finite
types. The handlers belong to the simulator around the scanner, so what they do is a parameter. -/
namespace QuantumSafe.KmeDomain

open PyJson Scanner EventRun

/-- What the thread of a request handler does next: it takes or releases `kme_lock`, it does
something that neither waits nor touches the lock or the list, or it hands over its answer. -/
inductive Act (σ : Type) where
  | acquire (next : σ)
  | release (next : σ)
  | work (next : σ)
  | finish

/-- The handlers of a simulator. A state `σ` is all that decides what a thread will do. -/
structure Handlers (σ : Type) where
  first : σ → Bool
  act : σ → Act σ

/-- A handler takes the lock only where it does not hold it, releases it only where it does,
and ends without it; `holds` says where it does. -/
structure Tidy {σ : Type} (handlers : Handlers σ) (holds : σ → Prop) : Prop where
  starts : ∀ {state}, handlers.first state = true → ¬ holds state
  acquires : ∀ {state next}, handlers.act state = .acquire next → ¬ holds state ∧ holds next
  releases : ∀ {state next}, handlers.act state = .release next → holds state ∧ ¬ holds next
  works : ∀ {state next}, handlers.act state = .work next → (holds next ↔ holds state)
  finishes : ∀ {state}, handlers.act state = .finish → ¬ holds state

/-- A handler does at most `limit` things before it finishes; `rank` counts what is left. -/
structure Bounded {σ : Type} (handlers : Handlers σ) (rank : σ → Nat) (limit : Nat) : Prop where
  starts : ∀ {state}, handlers.first state = true → rank state ≤ limit
  acquires : ∀ {state next}, handlers.act state = .acquire next → rank next < rank state
  releases : ∀ {state next}, handlers.act state = .release next → rank next < rank state
  works : ∀ {state next}, handlers.act state = .work next → rank next < rank state

/-- A request on its way, with the state of the thread that handles it at its target. -/
structure Request (κ σ : Type) where
  target : κ
  state : σ

/-- Where the thread of `Scanner.start` is. It holds the lock in `opening` and
`closing`; after an exception in one of them it is `dead` and the lock stays held. -/
inductive Phase (κ σ : Type) where
  | waiting
  | opening
  | fetching (todo : List κ) (oldKmeList fetched : List Json)
  | asking (request : Request κ σ) (todo : List κ) (oldKmeList fetched : List Json)
  | closing (oldKmeList fetched : List Json)
  | dead

/-- Who sends requests: the scanner of a KME, or a caller from outside. -/
inductive Party (κ ι : Type) where
  | scanner (kme : κ)
  | client (caller : ι)

/-- Who holds the lock of a KME: its scanner, or the handler of a party's request. -/
inductive Holder (κ ι : Type) where
  | own
  | handler (party : Party κ ι)

structure Domain (κ ι σ : Type) where
  kmeList : κ → List Json
  lock : κ → Option (Holder κ ι)
  scanner : κ → Phase κ σ
  client : ι → Option (Request κ σ)

variable {κ ι σ : Type}

def Phase.request : Phase κ σ → Option (Request κ σ)
  | .asking request _ _ _ => some request
  | _ => none

def Phase.moved (request : Request κ σ) : Phase κ σ → Phase κ σ
  | .asking _ todo oldKmeList fetched => .asking request todo oldKmeList fetched
  | phase => phase

/-- `fetched.append(data)` for an answer that is a status. -/
def Phase.answered (answer : Answer) : Phase κ σ → Phase κ σ
  | .asking _ todo oldKmeList fetched =>
      .fetching todo oldKmeList (fetched ++ answer.value?.toList)
  | phase => phase

def Phase.HoldsLock : Phase κ σ → Prop
  | .opening => True
  | .closing _ _ => True
  | .dead => True
  | _ => False

def Domain.request (domain : Domain κ ι σ) : Party κ ι → Option (Request κ σ)
  | .scanner kme => (domain.scanner kme).request
  | .client caller => domain.client caller

/-- `wake` ends a wait and takes the lock, `arrive` is a request from outside; the other
events are the work that these two set off. A thread that handles a request begins in `state`. -/
inductive Event (κ ι σ : Type) where
  | wake (kme : κ)
  | arrive (caller : ι) (target : κ) (state : σ)
  | clear (kme : κ)
  | unreachable (kme : κ)
  | ask (kme : κ) (state : σ)
  | acquire (party : Party κ ι)
  | release (party : Party κ ι)
  | work (party : Party κ ι)
  | answer (party : Party κ ι) (answer : Answer)
  | close (kme : κ)
  | extend (kme : κ)

def Event.IsWork : Event κ ι σ → Prop
  | .wake _ => False
  | .arrive _ _ _ => False
  | _ => True

/-- A status that answers a scanner can be handled by its critical sections. -/
def Event.Identified : Event κ ι σ → Prop
  | .answer (.scanner _) reply => reply.Identified
  | _ => True

section Steps

variable [DecidableEq κ] [DecidableEq ι]

def Domain.moveScanner (domain : Domain κ ι σ) (kme : κ) (phase : Phase κ σ) : Domain κ ι σ :=
  { domain with scanner := Function.update domain.scanner kme phase }

def Domain.holdLock (domain : Domain κ ι σ) (kme : κ) (holder : Option (Holder κ ι)) : Domain κ ι σ :=
  { domain with lock := Function.update domain.lock kme holder }

/-- What a critical section of the scanner leaves behind. -/
def Domain.endSection (domain : Domain κ ι σ) (kme : κ) (left : Shared) (phase : Phase κ σ) :
    Domain κ ι σ :=
  { domain with
    kmeList := Function.update domain.kmeList kme left.kmeList
    lock := Function.update domain.lock kme (if left.locked then some .own else none)
    scanner := Function.update domain.scanner kme phase }

/-- A request of a party goes on: at a scanner its phase changes, a caller from
outside only has the request. -/
def Domain.goOn (domain : Domain κ ι σ) (change : Phase κ σ → Phase κ σ)
    (request : Option (Request κ σ)) : Party κ ι → Domain κ ι σ
  | .scanner kme => domain.moveScanner kme (change (domain.scanner kme))
  | .client caller => { domain with client := Function.update domain.client caller request }

def Domain.moveRequest (domain : Domain κ ι σ) (request : Request κ σ) (party : Party κ ι) :
    Domain κ ι σ :=
  domain.goOn (Phase.moved request) (some request) party

def Domain.receive (domain : Domain κ ι σ) (answer : Answer) (party : Party κ ι) : Domain κ ι σ :=
  domain.goOn (Phase.answered answer) none party

/-- The next state, if the event can happen. `peers` is `OTHER_KMES` of every KME. -/
def step (handlers : Handlers σ) (peers : κ → List κ) (domain : Domain κ ι σ) :
    Event κ ι σ → Option (Domain κ ι σ)
  | .wake kme =>
      match domain.scanner kme, domain.lock kme with
      | .waiting, none => some ((domain.moveScanner kme .opening).holdLock kme (some .own))
      | _, _ => none
  | .arrive caller target state =>
      match domain.client caller, handlers.first state with
      | none, true => some (domain.moveRequest ⟨target, state⟩ (.client caller))
      | _, _ => none
  | .clear kme =>
      match domain.scanner kme with
      | .opening =>
          match openRound ⟨domain.kmeList kme, true⟩ with
          | (.error _, left) => some (domain.endSection kme left .dead)
          | (.ok oldKmeList, left) =>
              some (domain.endSection kme left (.fetching (peers kme) oldKmeList []))
      | _ => none
  | .unreachable kme =>
      match domain.scanner kme with
      | .fetching (_ :: todo) oldKmeList fetched =>
          some (domain.moveScanner kme (.fetching todo oldKmeList fetched))
      | _ => none
  | .ask kme state =>
      match domain.scanner kme, handlers.first state with
      | .fetching (peer :: todo) oldKmeList fetched, true =>
          some (domain.moveScanner kme (.asking ⟨peer, state⟩ todo oldKmeList fetched))
      | _, _ => none
  | .acquire party =>
      match domain.request party with
      | some ⟨target, state⟩ =>
          match handlers.act state, domain.lock target with
          | .acquire next, none => some ((domain.moveRequest ⟨target, next⟩ party).holdLock target
              (some (.handler party)))
          | _, _ => none
      | none => none
  | .release party =>
      -- `Lock.release` asks nothing about who holds the lock
      match domain.request party with
      | some ⟨target, state⟩ =>
          match handlers.act state, domain.lock target with
          | .release next, some _ =>
              some ((domain.moveRequest ⟨target, next⟩ party).holdLock target none)
          | _, _ => none
      | none => none
  | .work party =>
      match domain.request party with
      | some ⟨target, state⟩ =>
          match handlers.act state with
          | .work next => some (domain.moveRequest ⟨target, next⟩ party)
          | _ => none
      | none => none
  | .answer party answer =>
      match domain.request party with
      | some ⟨_, state⟩ =>
          match handlers.act state with
          | .finish => some (domain.receive answer party)
          | _ => none
      | none => none
  | .close kme =>
      match domain.scanner kme, domain.lock kme with
      | .fetching [] oldKmeList fetched, none =>
          some ((domain.moveScanner kme (.closing oldKmeList fetched)).holdLock kme (some .own))
      | _, _ => none
  | .extend kme =>
      match domain.scanner kme with
      | .closing oldKmeList fetched =>
          match closeRound ⟨domain.kmeList kme, true⟩ oldKmeList fetched with
          | (.error _, left) => some (domain.endSection kme left .dead)
          | (.ok _, left) => some (domain.endSection kme left .waiting)
      | _ => none

end Steps

section Moves

variable [DecidableEq κ] [DecidableEq ι]

/-- What one event does, with what it needs; `fails` leaves a critical section
with an exception. -/
inductive Moves (handlers : Handlers σ) (peers : κ → List κ) (domain : Domain κ ι σ) :
    Event κ ι σ → Domain κ ι σ → Prop where
  | wake {kme : κ} (waiting : domain.scanner kme = .waiting) (free : domain.lock kme = none) :
      Moves handlers peers domain (.wake kme)
        ((domain.moveScanner kme .opening).holdLock kme (some .own))
  | arrive {caller : ι} {state : σ} (target : κ) (idle : domain.client caller = none)
      (starts : handlers.first state = true) :
      Moves handlers peers domain (.arrive caller target state)
        (domain.moveRequest ⟨target, state⟩ (.client caller))
  | clear {kme : κ} {oldKmeList : List Json} {left : Shared}
      (opening : domain.scanner kme = .opening)
      (ends : openRound ⟨domain.kmeList kme, true⟩ = (.ok oldKmeList, left)) :
      Moves handlers peers domain (.clear kme)
        (domain.endSection kme left (.fetching (peers kme) oldKmeList []))
  | clearFails {kme : κ} {reason : PyError} {left : Shared}
      (opening : domain.scanner kme = .opening)
      (ends : openRound ⟨domain.kmeList kme, true⟩ = (.error reason, left)) :
      Moves handlers peers domain (.clear kme) (domain.endSection kme left .dead)
  | unreachable {kme peer : κ} {todo : List κ} {oldKmeList fetched : List Json}
      (fetching : domain.scanner kme = .fetching (peer :: todo) oldKmeList fetched) :
      Moves handlers peers domain (.unreachable kme)
        (domain.moveScanner kme (.fetching todo oldKmeList fetched))
  | ask {kme peer : κ} {todo : List κ} {oldKmeList fetched : List Json} {state : σ}
      (fetching : domain.scanner kme = .fetching (peer :: todo) oldKmeList fetched)
      (starts : handlers.first state = true) :
      Moves handlers peers domain (.ask kme state)
        (domain.moveScanner kme (.asking ⟨peer, state⟩ todo oldKmeList fetched))
  | acquire {party : Party κ ι} {target : κ} {state next : σ}
      (sent : domain.request party = some ⟨target, state⟩)
      (acts : handlers.act state = .acquire next) (free : domain.lock target = none) :
      Moves handlers peers domain (.acquire party)
        ((domain.moveRequest ⟨target, next⟩ party).holdLock target (some (.handler party)))
  | release {party : Party κ ι} {target : κ} {state next : σ}
      (sent : domain.request party = some ⟨target, state⟩)
      (acts : handlers.act state = .release next) :
      Moves handlers peers domain (.release party)
        ((domain.moveRequest ⟨target, next⟩ party).holdLock target none)
  | work {party : Party κ ι} {target : κ} {state next : σ}
      (sent : domain.request party = some ⟨target, state⟩)
      (acts : handlers.act state = .work next) :
      Moves handlers peers domain (.work party) (domain.moveRequest ⟨target, next⟩ party)
  | answer {party : Party κ ι} {target : κ} {state : σ} (reply : Answer)
      (sent : domain.request party = some ⟨target, state⟩)
      (acts : handlers.act state = .finish) :
      Moves handlers peers domain (.answer party reply) (domain.receive reply party)
  | close {kme : κ} {oldKmeList fetched : List Json}
      (fetching : domain.scanner kme = .fetching [] oldKmeList fetched)
      (free : domain.lock kme = none) :
      Moves handlers peers domain (.close kme)
        ((domain.moveScanner kme (.closing oldKmeList fetched)).holdLock kme (some .own))
  | extend {kme : κ} {oldKmeList fetched : List Json} {left : Shared}
      (closing : domain.scanner kme = .closing oldKmeList fetched)
      (ends : closeRound ⟨domain.kmeList kme, true⟩ oldKmeList fetched = (.ok (), left)) :
      Moves handlers peers domain (.extend kme) (domain.endSection kme left .waiting)
  | extendFails {kme : κ} {oldKmeList fetched : List Json} {reason : PyError} {left : Shared}
      (closing : domain.scanner kme = .closing oldKmeList fetched)
      (ends : closeRound ⟨domain.kmeList kme, true⟩ oldKmeList fetched = (.error reason, left)) :
      Moves handlers peers domain (.extend kme) (domain.endSection kme left .dead)

theorem step_moves {handlers : Handlers σ} {peers : κ → List κ} {domain next : Domain κ ι σ}
    {event : Event κ ι σ} (steps : step handlers peers domain event = some next) :
    Moves handlers peers domain event next := by
  cases event with
  | wake kme =>
      simp only [step] at steps
      split at steps
      · rename_i waiting free
        exact Option.some.inj steps ▸ .wake waiting free
      · cases steps
  | arrive caller target state =>
      simp only [step] at steps
      split at steps
      · rename_i idle starts
        exact Option.some.inj steps ▸ .arrive target idle starts
      · cases steps
  | clear kme =>
      simp only [step] at steps
      split at steps
      · rename_i opening
        split at steps
        · rename_i ends
          exact Option.some.inj steps ▸ .clearFails opening ends
        · rename_i ends
          exact Option.some.inj steps ▸ .clear opening ends
      · cases steps
  | unreachable kme =>
      simp only [step] at steps
      split at steps
      · rename_i fetching
        exact Option.some.inj steps ▸ .unreachable fetching
      · cases steps
  | ask kme state =>
      simp only [step] at steps
      split at steps
      · rename_i fetching starts
        exact Option.some.inj steps ▸ .ask fetching starts
      · cases steps
  | acquire party =>
      simp only [step] at steps
      split at steps
      · rename_i sent
        split at steps
        · rename_i acts free
          exact Option.some.inj steps ▸ .acquire sent acts free
        · cases steps
      · cases steps
  | release party =>
      simp only [step] at steps
      split at steps
      · rename_i sent
        split at steps
        · rename_i acts held
          exact Option.some.inj steps ▸ .release sent acts
        · cases steps
      · cases steps
  | work party =>
      simp only [step] at steps
      split at steps
      · rename_i sent
        split at steps
        · rename_i acts
          exact Option.some.inj steps ▸ .work sent acts
        · cases steps
      · cases steps
  | answer party reply =>
      simp only [step] at steps
      split at steps
      · rename_i sent
        split at steps
        · rename_i acts
          exact Option.some.inj steps ▸ .answer reply sent acts
        · cases steps
      · cases steps
  | close kme =>
      simp only [step] at steps
      split at steps
      · rename_i fetching free
        exact Option.some.inj steps ▸ .close fetching free
      · cases steps
  | extend kme =>
      simp only [step] at steps
      split at steps
      · rename_i closing
        split at steps
        · rename_i ends
          exact Option.some.inj steps ▸ .extendFails closing ends
        · rename_i ends
          exact Option.some.inj steps ▸ .extend closing ends
      · cases steps

end Moves

/-- The handler of a request is one that holds the lock of the KME. -/
def HoldsAt (holds : σ → Prop) (kme : κ) : Option (Request κ σ) → Prop
  | some request => request.target = kme ∧ holds request.state
  | none => False

/-- A holder is in a critical section of the KME. -/
def Domain.Inside (holds : σ → Prop) (domain : Domain κ ι σ) (kme : κ) : Holder κ ι → Prop
  | .own => (domain.scanner kme).HoldsLock
  | .handler party => HoldsAt holds kme (domain.request party)

/-- The lock of every KME is held by whoever is in one of its critical sections:
there is never more than one. -/
def Disciplined (holds : σ → Prop) (domain : Domain κ ι σ) : Prop :=
  ∀ kme holder, domain.lock kme = some holder ↔ domain.Inside holds kme holder

@[simp] theorem holdsAt_none (holds : σ → Prop) (kme : κ) : ¬ HoldsAt holds kme none := id

@[simp] theorem holdsAt_some (holds : σ → Prop) (kme : κ) (request : Request κ σ) :
    HoldsAt holds kme (some request) ↔ request.target = kme ∧ holds request.state := Iff.rfl

variable {holds : σ → Prop}

/-- A step of one scanner that changes no request in a critical section. -/
theorem Disciplined.scannerMoved {domain next : Domain κ ι σ} (disciplined : Disciplined holds domain)
    (kme : κ) (clients : next.client = domain.client)
    (others : ∀ other, other ≠ kme → next.scanner other = domain.scanner other)
    (asks : ∀ target, HoldsAt holds target (next.scanner kme).request ↔
      HoldsAt holds target (domain.scanner kme).request)
    (locks : ∀ other holder, ¬ (other = kme ∧ holder = .own) →
      (next.lock other = some holder ↔ domain.lock other = some holder))
    (own : next.lock kme = some .own ↔ (next.scanner kme).HoldsLock) : Disciplined holds next := by
  intro other holder
  by_cases here : other = kme ∧ holder = .own
  · obtain ⟨rfl, rfl⟩ := here
    exact own
  · rw [locks other holder here, disciplined other holder]
    cases holder with
    | own =>
        have elsewhere : other ≠ kme := fun same => here ⟨same, rfl⟩
        simp only [Domain.Inside, others other elsewhere]
    | handler party =>
        cases party with
        | client caller => simp only [Domain.Inside, Domain.request, clients]
        | scanner sender =>
            by_cases same : sender = kme
            · subst same
              simp only [Domain.Inside, Domain.request, asks]
            · simp only [Domain.Inside, Domain.request, others sender same]

/-- A step of the request of one party. -/
theorem Disciplined.requestMoved {domain next : Domain κ ι σ} (disciplined : Disciplined holds domain)
    (party : Party κ ι) (sections : ∀ kme, (next.scanner kme).HoldsLock ↔ (domain.scanner kme).HoldsLock)
    (others : ∀ other, other ≠ party → next.request other = domain.request other)
    (locks : ∀ kme holder, holder ≠ .handler party →
      (next.lock kme = some holder ↔ domain.lock kme = some holder))
    (own : ∀ kme, next.lock kme = some (.handler party) ↔
      HoldsAt holds kme (next.request party)) : Disciplined holds next := by
  intro kme holder
  by_cases here : holder = .handler party
  · subst here
    exact own kme
  · rw [locks kme holder here, disciplined kme holder]
    cases holder with
    | own => exact (sections kme).symm
    | handler other =>
        have elsewhere : other ≠ party := fun same => here (by rw [same])
        simp only [Domain.Inside, others other elsewhere]

theorem request_scanner_iff {domain : Domain κ ι σ} {kme : κ} {request : Request κ σ} :
    domain.request (.scanner kme) = some request ↔
      ∃ todo oldKmeList fetched, domain.scanner kme = .asking request todo oldKmeList fetched := by
  cases phase : domain.scanner kme <;> simp [Domain.request, phase, Phase.request]

@[simp] theorem moved_holdsLock (request : Request κ σ) (phase : Phase κ σ) :
    (phase.moved request).HoldsLock ↔ phase.HoldsLock := by
  cases phase <;> rfl

@[simp] theorem answered_holdsLock (answer : Answer) (phase : Phase κ σ) :
    (phase.answered answer).HoldsLock ↔ phase.HoldsLock := by
  cases phase <;> rfl

@[simp] theorem answered_request (answer : Answer) (phase : Phase κ σ) :
    (phase.answered answer).request = none := by
  cases phase <;> rfl

section Scanners

variable [DecidableEq κ]

@[simp] theorem holdLock_lock (domain : Domain κ ι σ) (kme : κ) (holder : Option (Holder κ ι)) :
    (domain.holdLock kme holder).lock = Function.update domain.lock kme holder := rfl

@[simp] theorem holdLock_request (domain : Domain κ ι σ) (kme : κ) (holder : Option (Holder κ ι))
    (party : Party κ ι) : (domain.holdLock kme holder).request party = domain.request party := by
  cases party <;> rfl

theorem Disciplined.moveScanner {domain : Domain κ ι σ} (disciplined : Disciplined holds domain)
    {kme : κ} {phase : Phase κ σ} (free : ¬ phase.HoldsLock) (before : ¬ (domain.scanner kme).HoldsLock)
    (asks : ∀ target, HoldsAt holds target phase.request ↔
      HoldsAt holds target (domain.scanner kme).request) :
    Disciplined holds (domain.moveScanner kme phase) := by
  refine disciplined.scannerMoved kme rfl ?_ ?_ ?_ ?_
  · intro other apart
    simp [Domain.moveScanner, apart]
  · intro target
    simp [Domain.moveScanner, asks]
  · intro other holder _
    rfl
  · have idle : domain.lock kme ≠ some .own := fun held => before ((disciplined kme .own).mp held)
    simp [Domain.moveScanner, free, idle]

/-- The scanner enters a critical section. -/
theorem Disciplined.enterSection {domain : Domain κ ι σ} (disciplined : Disciplined holds domain)
    {kme : κ} {phase : Phase κ σ} (open_ : domain.lock kme = none) (inside : phase.HoldsLock)
    (silent : phase.request = none) (before : (domain.scanner kme).request = none) :
    Disciplined holds ((domain.moveScanner kme phase).holdLock kme (some .own)) := by
  refine disciplined.scannerMoved kme rfl ?_ ?_ ?_ ?_
  · intro other apart
    simp [Domain.holdLock, Domain.moveScanner, apart]
  · intro target
    simp [Domain.holdLock, Domain.moveScanner, silent, before]
  · intro other holder elsewhere
    by_cases same : other = kme
    · subst same
      have notOwn : holder ≠ .own := fun is => elsewhere ⟨rfl, is⟩
      simp [Domain.holdLock, open_, notOwn.symm]
    · simp [Domain.holdLock, Domain.moveScanner, same]
  · simp [Domain.holdLock, Domain.moveScanner, inside]

/-- A critical section of the scanner ends, normally or with the lock held. -/
theorem Disciplined.endSection {domain : Domain κ ι σ} (disciplined : Disciplined holds domain)
    {kme : κ} {left : Shared} {phase : Phase κ σ} (held : (domain.scanner kme).HoldsLock)
    (keeps : left.locked = true ↔ phase.HoldsLock) (silent : phase.request = none)
    (before : (domain.scanner kme).request = none) :
    Disciplined holds (domain.endSection kme left phase) := by
  have own := (disciplined kme .own).mpr held
  refine disciplined.scannerMoved kme rfl ?_ ?_ ?_ ?_
  · intro other apart
    simp [Domain.endSection, apart]
  · intro target
    simp [Domain.endSection, silent, before]
  · intro other holder elsewhere
    by_cases same : other = kme
    · subst same
      have notOwn : holder ≠ .own := fun is => elsewhere ⟨rfl, is⟩
      cases locked : left.locked <;> simp [Domain.endSection, locked, own, notOwn.symm]
    · simp [Domain.endSection, same]
  · cases locked : left.locked <;> simp [Domain.endSection, locked, ← keeps]

end Scanners

section Requests

variable [DecidableEq κ] [DecidableEq ι]

theorem goOn_lock (domain : Domain κ ι σ) (change : Phase κ σ → Phase κ σ) (request : Option (Request κ σ))
    (party : Party κ ι) : (domain.goOn change request party).lock = domain.lock := by
  cases party <;> rfl

theorem goOn_kmeList (domain : Domain κ ι σ) (change : Phase κ σ → Phase κ σ)
    (request : Option (Request κ σ)) (party : Party κ ι) :
    (domain.goOn change request party).kmeList = domain.kmeList := by
  cases party <;> rfl

theorem goOn_request (domain : Domain κ ι σ) {change : Phase κ σ → Phase κ σ}
    {request : Option (Request κ σ)} {party : Party κ ι}
    (asks : ∀ kme, party = .scanner kme → (change (domain.scanner kme)).request = request) :
    (domain.goOn change request party).request party = request := by
  cases party with
  | client caller => simp [Domain.goOn, Domain.request]
  | scanner kme => simp [Domain.goOn, Domain.request, Domain.moveScanner, asks kme rfl]

theorem goOn_request_other (domain : Domain κ ι σ) (change : Phase κ σ → Phase κ σ)
    (request : Option (Request κ σ)) {party other : Party κ ι} (different : other ≠ party) :
    (domain.goOn change request party).request other = domain.request other := by
  cases party with
  | client caller =>
      cases other with
      | scanner kme => rfl
      | client second =>
          have apart : second ≠ caller := fun same => different (by rw [same])
          simp [Domain.goOn, Domain.request, apart]
  | scanner kme =>
      cases other with
      | client caller => rfl
      | scanner second =>
          have apart : second ≠ kme := fun same => different (by rw [same])
          simp [Domain.goOn, Domain.request, Domain.moveScanner, apart]

theorem goOn_scanner (domain : Domain κ ι σ) (change : Phase κ σ → Phase κ σ)
    (request : Option (Request κ σ)) (party : Party κ ι) (kme : κ) :
    (domain.goOn change request party).scanner kme = domain.scanner kme ∨
      party = .scanner kme ∧
        (domain.goOn change request party).scanner kme = change (domain.scanner kme) := by
  cases party with
  | client caller => exact Or.inl rfl
  | scanner sender =>
      by_cases same : kme = sender
      · subst same
        exact Or.inr ⟨rfl, by simp [Domain.goOn, Domain.moveScanner]⟩
      · exact Or.inl (by simp [Domain.goOn, Domain.moveScanner, same])

theorem moveRequest_request {domain : Domain κ ι σ} {party : Party κ ι} {before : Request κ σ}
    (sent : domain.request party = some before) (request : Request κ σ) :
    (domain.moveRequest request party).request party = some request := by
  refine goOn_request domain fun kme is => ?_
  subst is
  obtain ⟨todo, oldKmeList, fetched, phase⟩ := request_scanner_iff.mp sent
  rw [phase]
  rfl

theorem goOn_holdsLock {domain : Domain κ ι σ} {change : Phase κ σ → Phase κ σ}
    (keeps : ∀ phase, (change phase).HoldsLock ↔ phase.HoldsLock) (request : Option (Request κ σ))
    (party : Party κ ι) (kme : κ) :
    ((domain.goOn change request party).scanner kme).HoldsLock ↔
      (domain.scanner kme).HoldsLock := by
  obtain same | ⟨-, changed⟩ := goOn_scanner domain change request party kme
  · rw [same]
  · rw [changed, keeps]

theorem moveRequest_lock (domain : Domain κ ι σ) (request : Request κ σ) (party : Party κ ι) :
    (domain.moveRequest request party).lock = domain.lock := goOn_lock _ _ _ _

/-- A handler takes the lock. -/
theorem Disciplined.acquire {domain : Domain κ ι σ} (disciplined : Disciplined holds domain)
    {party : Party κ ι} {target : κ} {state next : σ}
    (sent : domain.request party = some ⟨target, state⟩) (free : domain.lock target = none)
    (without : ¬ holds state) (with_ : holds next) :
    Disciplined holds ((domain.moveRequest ⟨target, next⟩ party).holdLock target
      (some (.handler party))) := by
  refine disciplined.requestMoved party
    (goOn_holdsLock (moved_holdsLock _) _ party) ?_ ?_ ?_
  · intro other apart
    rw [holdLock_request]
    exact goOn_request_other _ _ _ apart
  · intro kme holder apart
    by_cases same : kme = target
    · subst same
      simp [free, apart.symm]
    · simp [same, moveRequest_lock]
  · intro kme
    have outside : domain.lock kme ≠ some (.handler party) := by
      rw [Ne, disciplined, Domain.Inside, sent]
      simp [without]
    rw [holdLock_request, moveRequest_request sent, holdLock_lock, moveRequest_lock]
    by_cases same : kme = target
    · subst same
      simp [with_]
    · have apart : target ≠ kme := fun is => same is.symm
      simp [same, apart, outside]

/-- A handler releases the lock. -/
theorem Disciplined.release {domain : Domain κ ι σ} (disciplined : Disciplined holds domain)
    {party : Party κ ι} {target : κ} {state next : σ}
    (sent : domain.request party = some ⟨target, state⟩) (with_ : holds state)
    (without : ¬ holds next) :
    Disciplined holds ((domain.moveRequest ⟨target, next⟩ party).holdLock target none) := by
  have inside : domain.Inside holds target (.handler party) := by
    rw [Domain.Inside, sent]
    exact ⟨rfl, with_⟩
  have held := (disciplined target (.handler party)).mpr inside
  refine disciplined.requestMoved party
    (goOn_holdsLock (moved_holdsLock _) _ party) ?_ ?_ ?_
  · intro other apart
    rw [holdLock_request]
    exact goOn_request_other _ _ _ apart
  · intro kme holder apart
    by_cases same : kme = target
    · subst same
      simp [held, apart.symm]
    · simp [same, moveRequest_lock]
  · intro kme
    rw [holdLock_request, moveRequest_request sent, holdLock_lock, moveRequest_lock]
    by_cases same : kme = target
    · subst same
      simp [without]
    · have outside : domain.lock kme ≠ some (.handler party) := by
        rw [Ne, disciplined, Domain.Inside, sent]
        exact fun also => same also.1.symm
      simp [same, outside, without]

/-- A request goes on with its handler in the same critical section, or in none. -/
theorem Disciplined.goOn {domain : Domain κ ι σ} (disciplined : Disciplined holds domain)
    {party : Party κ ι} {change : Phase κ σ → Phase κ σ} {request : Option (Request κ σ)}
    (keeps : ∀ phase, (change phase).HoldsLock ↔ phase.HoldsLock)
    (now : (domain.goOn change request party).request party = request)
    (same : ∀ kme, HoldsAt holds kme request ↔ HoldsAt holds kme (domain.request party)) :
    Disciplined holds (domain.goOn change request party) := by
  have locks : (domain.goOn change request party).lock = domain.lock := goOn_lock _ _ _ _
  refine disciplined.requestMoved party (goOn_holdsLock keeps _ party)
    (fun other => goOn_request_other _ _ _) (fun kme holder _ => by rw [locks]) ?_
  intro kme
  rw [locks, now, disciplined, Domain.Inside, same]

theorem openRound_locked {shared left : Shared} {outcome : Except PyError (List Json)}
    (ends : openRound shared = (outcome, left)) :
    left.locked = true ↔ ∃ reason, outcome = .error reason := by
  unfold openRound at ends
  cases ids : shared.kmeList.mapM kmeId <;>
    · rw [ids] at ends
      obtain ⟨rfl, rfl⟩ := Prod.mk.inj ends
      simp

theorem closeRound_locked {shared left : Shared} {oldKmeList fetched : List Json}
    {outcome : Except PyError Unit} (ends : closeRound shared oldKmeList fetched = (outcome, left)) :
    left.locked = true ↔ ∃ reason, outcome = .error reason := by
  unfold closeRound at ends
  dsimp only at ends
  split at ends
  · obtain ⟨rfl, rfl⟩ := Prod.mk.inj ends
    simp
  · split at ends <;>
      · obtain ⟨rfl, rfl⟩ := Prod.mk.inj ends
        simp

/-- Every event keeps the discipline when the handlers do, whatever the KMEs answer. -/
theorem step_disciplined {handlers : Handlers σ} (tidy : Tidy handlers holds) {peers : κ → List κ}
    {domain next : Domain κ ι σ} {event : Event κ ι σ} (disciplined : Disciplined holds domain)
    (steps : step handlers peers domain event = some next) : Disciplined holds next := by
  cases step_moves steps with
  | wake waiting free =>
      exact disciplined.enterSection free trivial rfl (by rw [waiting]; rfl)
  | arrive target idle starts =>
      refine disciplined.goOn (moved_holdsLock _) (goOn_request _ fun kme is => by cases is) ?_
      intro kme
      simp [Domain.request, idle, tidy.starts starts]
  | clear opening ends =>
      refine disciplined.endSection (by rw [opening]; trivial) (iff_of_false ?_ id) rfl
        (by rw [opening]; rfl)
      rw [openRound_locked ends]
      simp
  | clearFails opening ends =>
      exact disciplined.endSection (by rw [opening]; trivial)
        (iff_of_true ((openRound_locked ends).mpr ⟨_, rfl⟩) trivial) rfl (by rw [opening]; rfl)
  | unreachable fetching =>
      refine disciplined.moveScanner id (by rw [fetching]; exact id) fun target => ?_
      rw [fetching]
      rfl
  | ask fetching starts =>
      refine disciplined.moveScanner id (by rw [fetching]; exact id) fun target => ?_
      rw [fetching]
      simp [Phase.request, tidy.starts starts]
  | acquire sent acts free =>
      obtain ⟨without, with_⟩ := tidy.acquires acts
      exact disciplined.acquire sent free without with_
  | release sent acts =>
      obtain ⟨with_, without⟩ := tidy.releases acts
      exact disciplined.release sent with_ without
  | work sent acts =>
      refine disciplined.goOn (moved_holdsLock _) (moveRequest_request sent _) fun kme => ?_
      simp [sent, tidy.works acts]
  | answer reply sent acts =>
      refine disciplined.goOn (answered_holdsLock _) ?_ fun kme => ?_
      · exact goOn_request _ fun kme _ => answered_request _ _
      · simp [sent, tidy.finishes acts]
  | close fetching free =>
      exact disciplined.enterSection free trivial rfl (by rw [fetching]; rfl)
  | extend closing ends =>
      refine disciplined.endSection (by rw [closing]; trivial) (iff_of_false ?_ id) rfl
        (by rw [closing]; rfl)
      rw [closeRound_locked ends]
      simp
  | extendFails closing ends =>
      exact disciplined.endSection (by rw [closing]; trivial)
        (iff_of_true ((closeRound_locked ends).mpr ⟨_, rfl⟩) trivial) rfl (by rw [closing]; rfl)

end Requests

end QuantumSafe.KmeDomain
