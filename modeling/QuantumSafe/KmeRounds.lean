import QuantumSafe.KmeDomain

set_option autoImplicit false

/- The rounds of the scanners: while every status can be handled no scanner dies,
and the work that is under way comes to an end in every order of steps. -/
namespace QuantumSafe.KmeDomain

open PyJson Scanner EventRun

variable {κ ι σ : Type} {holds : σ → Prop} {handlers : Handlers σ}

/-- The statuses a scanner has collected can be handled, and its thread is alive. -/
def Phase.Sound : Phase κ σ → Prop
  | .waiting => True
  | .opening => True
  | .fetching _ oldKmeList fetched =>
      oldKmeList.all hashable = true ∧ ∀ status ∈ fetched, Scanner.Identified status
  | .asking _ _ oldKmeList fetched =>
      oldKmeList.all hashable = true ∧ ∀ status ∈ fetched, Scanner.Identified status
  | .closing oldKmeList fetched =>
      oldKmeList.all hashable = true ∧ ∀ status ∈ fetched, Scanner.Identified status
  | .dead => False

structure Sound (domain : Domain κ ι σ) : Prop where
  listed : ∀ kme, ∀ status ∈ domain.kmeList kme, Scanner.Identified status
  phases : ∀ kme, (domain.scanner kme).Sound

theorem openRound_sound {kmeList : List Json} (listed : ∀ status ∈ kmeList, Scanner.Identified status)
    (locked : Bool) :
    ∃ oldKmeList, openRound ⟨kmeList, locked⟩ = (.ok oldKmeList, ⟨[], false⟩) ∧
      oldKmeList.all hashable = true := by
  obtain ⟨ids, named, hashes⟩ := mapM_kmeId_of_identified kmeList listed
  exact ⟨ids, by simp only [openRound, named], hashes⟩

theorem closeRound_sound {kmeList oldKmeList fetched : List Json}
    (listed : ∀ status ∈ kmeList, Scanner.Identified status)
    (collected : ∀ status ∈ fetched, Scanner.Identified status)
    (old : oldKmeList.all hashable = true) (locked : Bool) :
    closeRound ⟨kmeList, locked⟩ oldKmeList fetched = (.ok (), ⟨kmeList ++ fetched, false⟩) := by
  have both : ∀ status ∈ kmeList ++ fetched, Scanner.Identified status :=
    List.forall_mem_append.mpr ⟨listed, collected⟩
  obtain ⟨ids, named, hashes⟩ := mapM_kmeId_of_identified _ both
  have all : (ids ++ oldKmeList).all hashable = true := by
    rw [List.all_append, hashes, old]
    rfl
  simp only [closeRound, named, all, ↓reduceIte]

theorem moved_sound {phase : Phase κ σ} (fine : phase.Sound) (request : Request κ σ) :
    (phase.moved request).Sound := by
  cases phase <;> exact fine

theorem answered_sound {phase : Phase κ σ} (fine : phase.Sound) {reply : Answer}
    (identified : reply.Identified) : (phase.answered reply).Sound := by
  cases phase with
  | asking request todo oldKmeList fetched =>
      refine ⟨fine.1, List.forall_mem_append.mpr ⟨fine.2, fun status member => ?_⟩⟩
      cases reply with
      | status value =>
          have is : status = value := by simpa [Answer.value?] using member
          exact identified status (by rw [is])
      | _ => simp [Answer.value?] at member
  | _ => exact fine

/-- No round is open, no request is on its way and no lock is held. -/
structure Settled (domain : Domain κ ι σ) : Prop where
  waits : ∀ kme, domain.scanner kme = .waiting
  free : ∀ kme, domain.lock kme = none
  answered : ∀ caller, domain.client caller = none

theorem Settled.disciplined {domain : Domain κ ι σ} (settled : Settled domain) :
    Disciplined holds domain := by
  intro kme holder
  rw [settled.free kme]
  refine iff_of_false (by simp) ?_
  cases holder with
  | own => simp [Domain.Inside, settled.waits kme, Phase.HoldsLock]
  | handler party =>
      cases party with
      | scanner sender => simp [Domain.Inside, Domain.request, settled.waits sender, Phase.request]
      | client caller => simp [Domain.Inside, Domain.request, settled.answered caller]

theorem Settled.sound {domain : Domain κ ι σ} (settled : Settled domain)
    (listed : ∀ kme, ∀ status ∈ domain.kmeList kme, Scanner.Identified status) : Sound domain :=
  ⟨listed, fun kme => by rw [settled.waits kme]; trivial⟩

/-- The KMEs before their first round. -/
def Domain.resting : Domain κ ι σ := ⟨fun _ => [], fun _ => none, fun _ => .waiting, fun _ => none⟩

theorem resting_settled : Settled (Domain.resting : Domain κ ι σ) :=
  ⟨fun _ => rfl, fun _ => rfl, fun _ => rfl⟩

section Safety

variable [DecidableEq κ]

theorem Sound.moveScanner {domain : Domain κ ι σ} (sound : Sound domain) (kme : κ) {phase : Phase κ σ}
    (fine : phase.Sound) : Sound (domain.moveScanner kme phase) := by
  refine ⟨sound.listed, fun other => ?_⟩
  by_cases same : other = kme
  · subst same
    simpa [Domain.moveScanner] using fine
  · simpa [Domain.moveScanner, same] using sound.phases other

theorem Sound.holdLock {domain : Domain κ ι σ} (sound : Sound domain) (kme : κ)
    (holder : Option (Holder κ ι)) : Sound (domain.holdLock kme holder) :=
  ⟨sound.listed, sound.phases⟩

theorem Sound.endSection {domain : Domain κ ι σ} (sound : Sound domain) (kme : κ) {left : Shared}
    {phase : Phase κ σ} (listed : ∀ status ∈ left.kmeList, Scanner.Identified status)
    (fine : phase.Sound) : Sound (domain.endSection kme left phase) := by
  refine ⟨fun other => ?_, fun other => ?_⟩
  · by_cases same : other = kme
    · subst same
      simpa [Domain.endSection] using listed
    · simpa [Domain.endSection, same] using sound.listed other
  · by_cases same : other = kme
    · subst same
      simpa [Domain.endSection] using fine
    · simpa [Domain.endSection, same] using sound.phases other

theorem moveScanner_request {domain : Domain κ ι σ} {kme : κ} {phase : Phase κ σ} {party : Party κ ι}
    (apart : party ≠ .scanner kme) :
    (domain.moveScanner kme phase).request party = domain.request party := by
  cases party with
  | client caller => rfl
  | scanner sender =>
      have other : sender ≠ kme := fun same => apart (by rw [same])
      simp [Domain.request, Domain.moveScanner, other]

theorem endSection_request {domain : Domain κ ι σ} {kme : κ} {left : Shared} {phase : Phase κ σ}
    {party : Party κ ι} (apart : party ≠ .scanner kme) :
    (domain.endSection kme left phase).request party = domain.request party := by
  have moved : (domain.moveScanner kme phase).request party = domain.request party :=
    moveScanner_request apart
  rw [← moved]
  cases party <;> rfl

variable [DecidableEq ι]

theorem Sound.goOn {domain : Domain κ ι σ} (sound : Sound domain) {change : Phase κ σ → Phase κ σ}
    {request : Option (Request κ σ)} {party : Party κ ι}
    (fine : ∀ kme, party = .scanner kme → (change (domain.scanner kme)).Sound) :
    Sound (domain.goOn change request party) := by
  cases party with
  | client caller => exact ⟨sound.listed, sound.phases⟩
  | scanner kme => exact sound.moveScanner kme (fine kme rfl)

/-- While every status can be handled, no scanner dies. -/
theorem step_sound {peers : κ → List κ} {domain next : Domain κ ι σ} {event : Event κ ι σ}
    (sound : Sound domain) (identified : event.Identified)
    (steps : step handlers peers domain event = some next) : Sound next := by
  cases step_moves steps with
  | wake waiting free =>
      have awake : (Phase.opening : Phase κ σ).Sound := trivial
      exact (sound.moveScanner _ awake).holdLock _ _
  | arrive target idle starts => exact sound.goOn fun kme is => by cases is
  | @clear kme _ _ opening ends =>
      obtain ⟨oldKmeList, fine, hashes⟩ := openRound_sound (sound.listed kme) true
      obtain ⟨same, rfl⟩ := Prod.mk.inj (ends.symm.trans fine)
      obtain rfl := Except.ok.inj same
      exact sound.endSection _ (List.forall_mem_nil _) ⟨hashes, List.forall_mem_nil _⟩
  | @clearFails kme _ _ opening ends =>
      obtain ⟨oldKmeList, fine, hashes⟩ := openRound_sound (sound.listed kme) true
      cases (Prod.mk.inj (ends.symm.trans fine)).1
  | @unreachable kme _ _ _ _ fetching =>
      have fine := sound.phases kme
      rw [fetching] at fine
      exact sound.moveScanner _ fine
  | @ask kme _ _ _ _ _ fetching starts =>
      have fine := sound.phases kme
      rw [fetching] at fine
      exact sound.moveScanner _ fine
  | acquire sent acts free =>
      exact (sound.goOn fun kme _ => moved_sound (sound.phases kme) _).holdLock _ _
  | release sent acts =>
      exact (sound.goOn fun kme _ => moved_sound (sound.phases kme) _).holdLock _ _
  | work sent acts => exact sound.goOn fun kme _ => moved_sound (sound.phases kme) _
  | answer reply sent acts =>
      refine sound.goOn fun kme is => answered_sound (sound.phases kme) ?_
      subst is
      exact identified
  | @close kme _ _ fetching free =>
      have fine := sound.phases kme
      rw [fetching] at fine
      have kept : Sound (domain.moveScanner kme (.closing _ _)) := sound.moveScanner kme fine
      exact kept.holdLock _ _
  | @extend kme _ _ _ closing ends =>
      have fine := sound.phases kme
      rw [closing] at fine
      have all := closeRound_sound (sound.listed kme) fine.2 fine.1 true
      obtain ⟨-, rfl⟩ := Prod.mk.inj (ends.symm.trans all)
      exact sound.endSection _ (List.forall_mem_append.mpr ⟨sound.listed kme, fine.2⟩) trivial
  | @extendFails kme _ _ _ _ closing ends =>
      have fine := sound.phases kme
      rw [closing] at fine
      have all := closeRound_sound (sound.listed kme) fine.2 fine.1 true
      cases (Prod.mk.inj (ends.symm.trans all)).1

/-- An event other than its own release leaves a handler in its critical section, and the
list as it is. -/
theorem step_undisturbed (tidy : Tidy handlers holds) {peers : κ → List κ}
    {domain next : Domain κ ι σ} {event : Event κ ι σ} {party : Party κ ι} {target : κ}
    (disciplined : Disciplined holds domain) (inside : domain.Inside holds target (.handler party))
    (stays : event ≠ .release party) (steps : step handlers peers domain event = some next) :
    next.Inside holds target (.handler party) ∧ next.kmeList target = domain.kmeList target := by
  have held : domain.lock target = some (.handler party) := (disciplined _ _).mpr inside
  have outside : ∀ kme, (domain.scanner kme).HoldsLock → target ≠ kme := by
    intro kme section_ same
    subst same
    have own := (disciplined target .own).mpr section_
    rw [held] at own
    cases own
  have silent : ∀ {kme phase}, domain.scanner kme = phase → phase.request = none →
      party ≠ .scanner kme := by
    intro kme phase is none_ same
    subst same
    rw [Domain.Inside, Domain.request, is, none_] at inside
    exact inside
  have different : ∀ {other at_ state}, domain.request other = some ⟨at_, state⟩ →
      ¬ holds state → party ≠ other := by
    intro other at_ state sent free same
    subst same
    rw [Domain.Inside, sent] at inside
    exact free inside.2
  have unmoved : ∀ {other : Domain κ ι σ}, other.request party = domain.request party →
      other.Inside holds target (.handler party) := by
    intro other same
    rw [Domain.Inside, same]
    exact inside
  cases step_moves steps with
  | wake waiting free =>
      refine ⟨unmoved ?_, rfl⟩
      rw [holdLock_request, moveScanner_request (silent waiting rfl)]
  | @arrive caller _ other idle starts =>
      have apart : party ≠ .client caller := by
        intro same
        subst same
        rw [Domain.Inside, Domain.request, idle] at inside
        exact inside
      exact ⟨unmoved (goOn_request_other _ _ _ apart), rfl⟩
  | @clear kme _ _ opening ends =>
      have elsewhere := outside kme (by rw [opening]; trivial)
      exact ⟨unmoved (endSection_request (silent opening rfl)), by simp [Domain.endSection, elsewhere]⟩
  | @clearFails kme _ _ opening ends =>
      have elsewhere := outside kme (by rw [opening]; trivial)
      exact ⟨unmoved (endSection_request (silent opening rfl)), by simp [Domain.endSection, elsewhere]⟩
  | unreachable fetching => exact ⟨unmoved (moveScanner_request (silent fetching rfl)), rfl⟩
  | ask fetching starts => exact ⟨unmoved (moveScanner_request (silent fetching rfl)), rfl⟩
  | acquire sent acts free =>
      have apart := different sent (tidy.acquires acts).1
      refine ⟨unmoved ?_, by rw [← goOn_kmeList domain]; rfl⟩
      rw [holdLock_request]
      exact goOn_request_other _ _ _ apart
  | @release other _ _ _ sent acts =>
      have apart : party ≠ other := fun same => stays (by rw [same])
      refine ⟨unmoved ?_, by rw [← goOn_kmeList domain]; rfl⟩
      rw [holdLock_request]
      exact goOn_request_other _ _ _ apart
  | @work other at_ state next sent acts =>
      refine ⟨?_, by rw [← goOn_kmeList domain]; rfl⟩
      by_cases same : party = other
      · subst same
        rw [Domain.Inside, sent] at inside
        rw [Domain.Inside, moveRequest_request sent]
        exact ⟨inside.1, (tidy.works acts).mpr inside.2⟩
      · exact unmoved (goOn_request_other _ _ _ same)
  | answer reply sent acts =>
      have apart := different sent (tidy.finishes acts)
      refine ⟨unmoved (goOn_request_other _ _ _ apart), ?_⟩
      rw [Domain.receive, goOn_kmeList]
  | close fetching free =>
      refine ⟨unmoved ?_, rfl⟩
      rw [holdLock_request, moveScanner_request (silent fetching rfl)]
  | @extend kme _ _ _ closing ends =>
      have elsewhere := outside kme (by rw [closing]; trivial)
      exact ⟨unmoved (endSection_request (silent closing rfl)), by simp [Domain.endSection, elsewhere]⟩
  | @extendFails kme _ _ _ _ closing ends =>
      have elsewhere := outside kme (by rw [closing]; trivial)
      exact ⟨unmoved (endSection_request (silent closing rfl)), by simp [Domain.endSection, elsewhere]⟩

/-- The discipline holds in every state that is reached from one at rest. -/
theorem run_disciplined (tidy : Tidy handlers holds) {peers : κ → List κ}
    {initial reached : Domain κ ι σ} {events : List (Event κ ι σ)} (rest : Settled initial)
    (runs : run (step handlers peers) initial events = some reached) : Disciplined holds reached :=
  run_invariant (step handlers peers) (Disciplined holds) (fun _ => True)
    (fun _ _ _ kept _ steps => step_disciplined tidy kept steps) rest.disciplined (by simp) runs

/-- While a handler is in its critical section, the list it sees stays the same and nobody
else is in a critical section of that KME, whatever the KMEs answer. -/
theorem section_undisturbed (tidy : Tidy handlers holds) {peers : κ → List κ}
    {initial entered final : Domain κ ι σ} {before during : List (Event κ ι σ)}
    {party : Party κ ι} {target : κ} (rest : Settled initial)
    (runs : run (step handlers peers) initial before = some entered)
    (inside : entered.Inside holds target (.handler party))
    (stays : Event.release party ∉ during)
    (later : run (step handlers peers) entered during = some final) :
    final.Inside holds target (.handler party) ∧ final.kmeList target = entered.kmeList target ∧
      ∀ holder, final.Inside holds target holder → holder = .handler party := by
  have disciplined : Disciplined holds entered := run_disciplined tidy rest runs
  have kept : Disciplined holds final ∧ final.Inside holds target (.handler party) ∧
      final.kmeList target = entered.kmeList target := by
    refine run_invariant (step handlers peers)
      (fun domain => Disciplined holds domain ∧ domain.Inside holds target (.handler party) ∧
        domain.kmeList target = entered.kmeList target)
      (fun event => event ≠ .release party) ?_ ⟨disciplined, inside, rfl⟩
      (fun event member same => stays (same ▸ member)) later
    rintro domain event next ⟨disciplined, inside, list⟩ other steps
    obtain ⟨still, same⟩ := step_undisturbed tidy disciplined inside other steps
    exact ⟨step_disciplined tidy disciplined steps, still, same.trans list⟩
  obtain ⟨orderly, still, list⟩ := kept
  refine ⟨still, list, fun holder also => ?_⟩
  have mine : final.lock target = some (.handler party) := (orderly _ _).mpr still
  have other := (orderly _ _).mpr also
  rw [mine] at other
  exact (Option.some.inj other).symm

/-- The stages of a handler that waits for the lock before a request and releases it after. -/
inductive Stage where
  | blocked
  | inside
  | released
deriving DecidableEq

def guarded : Handlers Stage where
  first state := state == .blocked
  act
    | .blocked => .acquire .inside
    | .inside => .release .released
    | .released => .finish

theorem guarded_tidy : Tidy guarded (· = .inside) where
  starts {state} first := by cases state <;> simp_all [guarded]
  acquires {state next} acts := by
    cases state <;> cases acts
    decide
  releases {state next} acts := by
    cases state <;> cases acts
    decide
  works {state next} acts := by cases state <;> simp_all [guarded]
  finishes {state} acts := by cases state <;> simp_all [guarded]

/-- The handler at the second KME answers the first one's scanner while a caller arrives. -/
theorem section_undisturbed_mutual :
    ∃ entered final : Domain Bool Unit Stage,
      run (step guarded fun kme => [!kme]) .resting
        [.wake true, .clear true, .ask true .blocked, .acquire (.scanner true)] = some entered ∧
      run (step guarded fun kme => [!kme]) entered [.arrive () false .blocked] = some final ∧
      final.kmeList false = entered.kmeList false :=
  ⟨_, _, rfl, rfl, (@section_undisturbed Bool Unit Stage _ _ _ _ guarded_tidy (fun kme => [!kme])
    .resting _ _ [.wake true, .clear true, .ask true .blocked, .acquire (.scanner true)]
    [.arrive () false .blocked] (.scanner true) false resting_settled rfl (by exact ⟨rfl, rfl⟩) (by simp)
    rfl).2.1⟩

/-- What can happen next: some work goes on. -/
def Goes (handlers : Handlers σ) (peers : κ → List κ) (domain : Domain κ ι σ) : Prop :=
  ∃ event, (event.IsWork ∧ event.Identified) ∧ (step handlers peers domain event).isSome

theorem act_goes (tidy : Tidy handlers holds) {peers : κ → List κ} {domain : Domain κ ι σ}
    (disciplined : Disciplined holds domain) {party : Party κ ι} {target : κ} {state : σ}
    (sent : domain.request party = some ⟨target, state⟩)
    (free : ¬ holds state → domain.lock target = none) : Goes handlers peers domain := by
  cases acts : handlers.act state with
  | acquire next =>
      have open_ := free (tidy.acquires acts).1
      exact ⟨.acquire party, ⟨trivial, trivial⟩, by simp [step, sent, acts, open_]⟩
  | release next =>
      have inside : domain.Inside holds target (.handler party) := by
        rw [Domain.Inside, sent]
        exact ⟨rfl, (tidy.releases acts).1⟩
      have held := (disciplined target (.handler party)).mpr inside
      exact ⟨.release party, ⟨trivial, trivial⟩, by simp [step, sent, acts, held]⟩
  | work next => exact ⟨.work party, ⟨trivial, trivial⟩, by simp [step, sent, acts]⟩
  | finish =>
      refine ⟨.answer party .requestError, ⟨trivial, ?_⟩, by simp [step, sent, acts]⟩
      cases party with
      | scanner kme => exact fun status is => by cases is
      | client caller => trivial

/-- Whoever holds a lock can go on: nobody waits for anything while holding one. -/
theorem holder_goes (tidy : Tidy handlers holds) {peers : κ → List κ} {domain : Domain κ ι σ}
    (disciplined : Disciplined holds domain) (sound : Sound domain) {kme : κ} {holder : Holder κ ι}
    (held : domain.lock kme = some holder) : Goes handlers peers domain := by
  have inside := (disciplined kme holder).mp held
  cases holder with
  | handler party =>
      rw [Domain.Inside] at inside
      cases sent : domain.request party with
      | none =>
          rw [sent] at inside
          exact inside.elim
      | some request =>
          rw [sent] at inside
          exact act_goes tidy disciplined sent fun without => (without inside.2).elim
  | own =>
      have holds : (domain.scanner kme).HoldsLock := inside
      have fine := sound.phases kme
      cases phase : domain.scanner kme with
      | opening =>
          obtain ⟨oldKmeList, ends, -⟩ := openRound_sound (sound.listed kme) true
          exact ⟨.clear kme, ⟨trivial, trivial⟩, by simp [step, phase, ends]⟩
      | closing oldKmeList fetched =>
          rw [phase] at fine
          have ends := closeRound_sound (sound.listed kme) fine.2 fine.1 true
          exact ⟨.extend kme, ⟨trivial, trivial⟩, by simp [step, phase, ends]⟩
      | dead =>
          rw [phase] at fine
          exact fine.elim
      | _ =>
          rw [phase] at holds
          exact holds.elim

/-- An open round can go on when no lock is held. -/
theorem scanner_goes (tidy : Tidy handlers holds) {peers : κ → List κ} {domain : Domain κ ι σ}
    (disciplined : Disciplined holds domain) (free : ∀ kme, domain.lock kme = none) {kme : κ}
    (busy : domain.scanner kme ≠ .waiting) : Goes handlers peers domain := by
  have outside : ¬ (domain.scanner kme).HoldsLock := by
    intro section_
    have held := (disciplined kme .own).mpr section_
    rw [free kme] at held
    cases held
  cases phase : domain.scanner kme with
  | waiting => exact (busy phase).elim
  | fetching todo oldKmeList fetched =>
      cases todo with
      | nil => exact ⟨.close kme, ⟨trivial, trivial⟩, by simp [step, phase, free kme]⟩
      | cons peer todo => exact ⟨.unreachable kme, ⟨trivial, trivial⟩, by simp [step, phase]⟩
  | asking request todo oldKmeList fetched =>
      exact act_goes tidy disciplined
        (request_scanner_iff.mpr ⟨todo, oldKmeList, fetched, phase⟩) fun _ => free _
  | _ =>
      rw [phase] at outside
      exact (outside trivial).elim

theorem busy_goes (tidy : Tidy handlers holds) {peers : κ → List κ} {domain : Domain κ ι σ}
    (disciplined : Disciplined holds domain) (sound : Sound domain) (busy : ¬ Settled domain) :
    Goes handlers peers domain := by
  by_cases free : ∀ kme, domain.lock kme = none
  · by_cases waits : ∀ kme, domain.scanner kme = .waiting
    · have sent : ∃ caller, domain.client caller ≠ none := by
        by_contra none_
        refine busy ⟨waits, free, fun caller => ?_⟩
        by_contra some_
        exact none_ ⟨caller, some_⟩
      obtain ⟨caller, some_⟩ := sent
      obtain ⟨request, is⟩ := Option.ne_none_iff_exists'.mp some_
      have asks : domain.request (.client caller) = some request := is
      exact act_goes tidy disciplined asks fun _ => free _
    · obtain ⟨kme, open_⟩ := not_forall.mp waits
      exact scanner_goes tidy disciplined free open_
  · obtain ⟨kme, taken⟩ := not_forall.mp free
    obtain ⟨holder, held⟩ := Option.ne_none_iff_exists'.mp taken
    exact holder_goes tidy disciplined sound held

end Safety

variable {rank : σ → Nat} {limit : Nat}

/-- The events a request still takes: what its handler does, and the answer. -/
def Request.work (rank : σ → Nat) (request : Request κ σ) : Nat := rank request.state + 1

/-- The events a scanner still takes in its round, when it has these peers. -/
def Phase.work (rank : σ → Nat) (limit : Nat) (peers : List κ) : Phase κ σ → Nat
  | .waiting => 0
  | .opening => (limit + 2) * peers.length + 3
  | .fetching todo _ _ => (limit + 2) * todo.length + 2
  | .asking request todo _ _ => (limit + 2) * todo.length + 2 + request.work rank
  | .closing _ _ => 1
  | .dead => 0

def clientWork (rank : σ → Nat) : Option (Request κ σ) → Nat
  | none => 0
  | some request => request.work rank

/-- A sum over a function goes down with the value at one point. -/
theorem sum_update_lt {α β : Type} [Fintype α] [DecidableEq α] (weight : α → β → Nat)
    (values : α → β) (point : α) {value : β} (less : weight point value < weight point (values point)) :
    ∑ at_, weight at_ (Function.update values point value at_) < ∑ at_, weight at_ (values at_) := by
  refine Finset.sum_lt_sum (fun other _ => ?_) ⟨point, Finset.mem_univ _, ?_⟩
  · by_cases same : other = point
    · subst same
      simpa using less.le
    · simp [same]
  · simpa using less

section Work

variable [Fintype κ] [Fintype ι]

/-- The events that are still under way. -/
def work (rank : σ → Nat) (limit : Nat) (peers : κ → List κ) (domain : Domain κ ι σ) : Nat :=
  ∑ kme, (domain.scanner kme).work rank limit (peers kme) +
    ∑ caller, clientWork rank (domain.client caller)

section Moves

variable [DecidableEq κ]

theorem work_scanner {peers : κ → List κ} {domain next : Domain κ ι σ} {kme : κ} {phase : Phase κ σ}
    (moved : next.scanner = Function.update domain.scanner kme phase)
    (clients : next.client = domain.client)
    (less : phase.work rank limit (peers kme) < (domain.scanner kme).work rank limit (peers kme)) :
    work rank limit peers next < work rank limit peers domain := by
  rw [work, work, moved, clients]
  have sum := sum_update_lt (fun at_ phase => Phase.work rank limit (peers at_) phase) domain.scanner kme less
  omega

end Moves

section Clients

variable [DecidableEq ι]

theorem work_client {peers : κ → List κ} {domain next : Domain κ ι σ} {caller : ι}
    {request : Option (Request κ σ)} (scanners : next.scanner = domain.scanner)
    (moved : next.client = Function.update domain.client caller request)
    (less : clientWork rank request < clientWork rank (domain.client caller)) :
    work rank limit peers next < work rank limit peers domain := by
  rw [work, work, moved, scanners]
  have sum := sum_update_lt (fun _ request => clientWork rank request) domain.client caller less
  omega

end Clients

variable [DecidableEq κ] [DecidableEq ι]

/-- A request that goes on takes work away from its party. -/
theorem work_goOn {peers : κ → List κ} {domain next : Domain κ ι σ} {party : Party κ ι}
    {before : Request κ σ} {change : Phase κ σ → Phase κ σ} {request : Option (Request κ σ)}
    (scanners : next.scanner = (domain.goOn change request party).scanner)
    (clients : next.client = (domain.goOn change request party).client)
    (sent : domain.request party = some before)
    (phases : ∀ todo oldKmeList fetched peers,
      (change (.asking before todo oldKmeList fetched)).work rank limit peers <
        (Phase.asking before todo oldKmeList fetched).work rank limit peers)
    (less : clientWork rank request < before.work rank) :
    work rank limit peers next < work rank limit peers domain := by
  cases party with
  | scanner kme =>
      obtain ⟨todo, oldKmeList, fetched, phase⟩ := request_scanner_iff.mp sent
      refine work_scanner scanners clients ?_
      rw [phase]
      exact phases todo oldKmeList fetched (peers kme)
  | client caller =>
      have is : domain.client caller = some before := sent
      refine work_client scanners clients ?_
      rw [is]
      exact less

/-- A handler that does something has less left to do. -/
theorem work_moveRequest {peers : κ → List κ} {domain next : Domain κ ι σ} {party : Party κ ι}
    {target : κ} {state later : σ} (sent : domain.request party = some ⟨target, state⟩)
    (less : rank later < rank state)
    (scanners : next.scanner = (domain.moveRequest ⟨target, later⟩ party).scanner)
    (clients : next.client = (domain.moveRequest ⟨target, later⟩ party).client) :
    work rank limit peers next < work rank limit peers domain := by
  refine work_goOn scanners clients sent (fun todo oldKmeList fetched peers => ?_) ?_
  · simpa [Phase.moved, Phase.work, Request.work] using less
  · simpa [clientWork, Request.work] using less

/-- Every event but a new round and a new request takes work away. -/
theorem step_work (bounded : Bounded handlers rank limit) {peers : κ → List κ}
    {domain next : Domain κ ι σ} {event : Event κ ι σ} (works : event.IsWork)
    (steps : step handlers peers domain event = some next) :
    work rank limit peers next < work rank limit peers domain := by
  cases step_moves steps with
  | wake waiting free => exact works.elim
  | arrive target idle starts => exact works.elim
  | clear opening ends =>
      refine work_scanner rfl rfl ?_
      simp [opening, Phase.work]
  | clearFails opening ends =>
      refine work_scanner rfl rfl ?_
      simp [opening, Phase.work]
  | unreachable fetching =>
      refine work_scanner rfl rfl ?_
      simp [fetching, Phase.work]
  | ask fetching starts =>
      have few := bounded.starts starts
      refine work_scanner rfl rfl ?_
      simp only [fetching, Phase.work, Request.work, List.length_cons, Nat.mul_add]
      omega
  | acquire sent acts free => exact work_moveRequest sent (bounded.acquires acts) rfl rfl
  | release sent acts => exact work_moveRequest sent (bounded.releases acts) rfl rfl
  | work sent acts => exact work_moveRequest sent (bounded.works acts) rfl rfl
  | answer reply sent acts =>
      refine work_goOn rfl rfl sent (fun todo oldKmeList fetched peers => ?_) ?_
      · simp [Phase.answered, Phase.work, Request.work]
      · simp [clientWork, Request.work]
  | close fetching free =>
      refine work_scanner rfl rfl ?_
      simp [fetching, Phase.work]
  | extend closing ends =>
      refine work_scanner rfl rfl ?_
      simp [closing, Phase.work]
  | extendFails closing ends =>
      refine work_scanner rfl rfl ?_
      simp [closing, Phase.work]

theorem work_lowers (tidy : Tidy handlers holds) (bounded : Bounded handlers rank limit)
    (peers : κ → List κ) :
    Lowers (step handlers peers)
      (fun domain : Domain κ ι σ => Disciplined holds domain ∧ Sound domain)
      (fun event => event.IsWork ∧ event.Identified) (work rank limit peers) := by
  intro domain event next ⟨disciplined, sound⟩ ⟨works, identified⟩ steps
  exact ⟨⟨step_disciplined tidy disciplined steps, step_sound sound identified steps⟩,
    step_work bounded works steps⟩

/-- Rounds and requests come to an end. Whatever has happened so far, in every order of the
steps that are under way at most `work` of them are left; when none is possible any more,
every scanner waits for its next round and every lock is free. -/
theorem rounds_complete (tidy : Tidy handlers holds) (bounded : Bounded handlers rank limit)
    {peers : κ → List κ} {initial reached : Domain κ ι σ} {events : List (Event κ ι σ)}
    (rest : Settled initial)
    (listed : ∀ kme, ∀ status ∈ initial.kmeList kme, Scanner.Identified status)
    (identified : ∀ event ∈ events, event.Identified)
    (runs : run (step handlers peers) initial events = some reached) :
    (∀ later final, (∀ event ∈ later, event.IsWork ∧ event.Identified) →
      run (step handlers peers) reached later = some final →
        later.length ≤ work rank limit peers reached ∧
        ((∀ event, event.IsWork → event.Identified → step handlers peers final event = none) →
          Settled final)) ∧
    ∃ later final, (∀ event ∈ later, event.IsWork ∧ event.Identified) ∧
      run (step handlers peers) reached later = some final ∧ Settled final := by
  have kept : Disciplined holds reached ∧ Sound reached := by
    refine run_invariant (step handlers peers) (fun domain => Disciplined holds domain ∧ Sound domain)
      Event.Identified ?_ ⟨rest.disciplined, rest.sound listed⟩ identified runs
    intro domain event next ⟨disciplined, sound⟩ fine steps
    exact ⟨step_disciplined tidy disciplined steps, step_sound sound fine steps⟩
  constructor
  · intro later final works continues
    obtain ⟨⟨disciplined, sound⟩, bound⟩ := (work_lowers tidy bounded peers).length_le kept works continues
    refine ⟨by omega, fun stuck => ?_⟩
    by_contra busy
    obtain ⟨event, ⟨works, fine⟩, possible⟩ := busy_goes tidy disciplined sound busy
    rw [stuck event works fine] at possible
    cases possible
  · refine (work_lowers tidy bounded peers).exists_run (fun domain kept busy => ?_) reached kept
    obtain ⟨event, works, possible⟩ := busy_goes tidy kept.1 kept.2 busy
    obtain ⟨next, steps⟩ := Option.isSome_iff_exists.mp possible
    exact ⟨event, next, works, steps⟩

theorem guarded_bounded :
    Bounded guarded (fun | .blocked => 2 | .inside => 1 | .released => 0) 2 where
  starts {state} first := by cases state <;> decide
  acquires {state next} acts := by
    cases state <;> cases acts
    decide
  releases {state next} acts := by
    cases state <;> cases acts
    decide
  works {state next} acts := by cases state <;> cases acts

/-- Two KMEs whose scanners ask each other at the same time. -/
theorem rounds_complete_mutual :
    ∃ reached : Domain Bool Unit Stage,
      run (step guarded fun kme => [!kme]) .resting [.wake true, .wake false, .clear true,
        .clear false, .ask true .blocked, .ask false .blocked] = some reached ∧
      ∃ later final, (∀ event ∈ later, event.IsWork ∧ event.Identified) ∧
        run (step guarded fun kme => [!kme]) reached later = some final ∧ Settled final :=
  ⟨_, rfl, (rounds_complete guarded_tidy guarded_bounded resting_settled
    (fun _ => List.forall_mem_nil _)
    (show ∀ event ∈ [Event.wake true, .wake false, .clear true, .clear false, .ask true Stage.blocked,
      .ask false Stage.blocked], event.Identified by simp [Event.Identified]) rfl).2⟩

end Work

end QuantumSafe.KmeDomain
