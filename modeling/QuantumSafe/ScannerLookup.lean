import QuantumSafe.Scanner

set_option autoImplicit false

/- `Scanner.find_kme` interleaved with the steps of the scanner loop: clearing
the list, fetching each peer and extending the list happen one at a time, and
lookups fall anywhere between them. -/
namespace QuantumSafe.Scanner

open PyText PyJson EventRun

/-- The environment variables that `find_kme` reads. -/
structure Env where
  attachedSaeId : Option Text
  kmeId : Option Text

/-- The value of `os.getenv`. -/
def getenv : Option Text → Json
  | some value => .str value
  | none => .null

/-- The loop of `find_kme` over the list. -/
def findListed (sae : Text) : List Json → Except PyError (Option (Json × Json))
  | [] => .ok none
  | value :: rest =>
      match saeId value with
      | .error reason => .error reason
      | .ok id =>
          if equalsText sae id then (kmeId value).map fun kme => some (kme, id)
          else findListed sae rest

def findKme (env : Env) (kmeList : List Json) (sae : Text) :
    Except PyError (Option (Json × Json)) :=
  if env.attachedSaeId = some sae then
    .ok (some (getenv env.kmeId, getenv env.attachedSaeId))
  else findListed sae kmeList

/-- Where the scanner thread is. `fetching` lies between the two critical
sections; `dead` is the thread after an exception. -/
inductive Phase where
  | waiting
  | fetching (todo : List Text) (oldKmeList fetched : List Json)
  | dead

structure System where
  shared : Shared
  phase : Phase

inductive Event where
  | clear
  | fetch (peer : Text) (answer : Answer)
  | extend
  | lookup (sae : Text)

/-- The next state, if the event can happen. `peers` is `OTHER_KMES`. -/
def step (peers : List Text) (system : System) : Event → Option System
  | .clear =>
      match system.phase with
      | .waiting =>
          match openRound system.shared with
          | (.error _, left) => some ⟨left, .dead⟩
          | (.ok oldKmeList, left) => some ⟨left, .fetching peers oldKmeList []⟩
      | _ => none
  | .fetch peer answer =>
      match system.phase with
      | .fetching (next :: todo) oldKmeList fetched =>
          if peer = next then
            some ⟨system.shared, .fetching todo oldKmeList (fetched ++ answer.value?.toList)⟩
          else none
      | _ => none
  | .extend =>
      match system.phase with
      | .fetching [] oldKmeList fetched =>
          match closeRound system.shared oldKmeList fetched with
          | (.error _, left) => some ⟨left, .dead⟩
          | (.ok _, left) => some ⟨left, .waiting⟩
      | _ => none
  | .lookup _ => some system

theorem step_clear {peers : List Text} {system next : System}
    (steps : step peers system .clear = some next) :
    system.phase = .waiting ∧
      ((next.shared.kmeList = system.shared.kmeList ∧ next.phase = .dead) ∨
        ∃ oldKmeList, next.shared.kmeList = [] ∧ next.phase = .fetching peers oldKmeList []) := by
  obtain ⟨⟨kmeList, locked⟩, phase⟩ := system
  cases phase with
  | waiting =>
      refine ⟨rfl, ?_⟩
      simp only [step, openRound] at steps
      cases old : kmeList.mapM kmeId with
      | error reason =>
          rw [old] at steps
          exact Or.inl ⟨by rw [← Option.some.inj steps], by rw [← Option.some.inj steps]⟩
      | ok ids =>
          rw [old] at steps
          exact Or.inr ⟨ids, by rw [← Option.some.inj steps], by rw [← Option.some.inj steps]⟩
  | fetching todo oldKmeList fetched => cases steps
  | dead => cases steps

theorem step_fetch {peers : List Text} {system next : System} {peer : Text} {answer : Answer}
    (steps : step peers system (.fetch peer answer) = some next) :
    ∃ todo oldKmeList fetched, system.phase = .fetching (peer :: todo) oldKmeList fetched ∧
      next = ⟨system.shared, .fetching todo oldKmeList (fetched ++ answer.value?.toList)⟩ := by
  obtain ⟨shared, phase⟩ := system
  cases phase with
  | waiting => cases steps
  | fetching todo oldKmeList fetched =>
      cases todo with
      | nil => cases steps
      | cons first todo =>
          simp only [step] at steps
          by_cases same : peer = first
          · subst same
            rw [if_pos rfl] at steps
            exact ⟨todo, oldKmeList, fetched, rfl, (Option.some.inj steps).symm⟩
          · rw [if_neg same] at steps
            cases steps
  | dead => cases steps

theorem closeRound_kmeList (shared : Shared) (oldKmeList fetched : List Json) :
    (closeRound shared oldKmeList fetched).2.kmeList = shared.kmeList ++ fetched := by
  unfold closeRound
  cases listed : (shared.kmeList ++ fetched).mapM kmeId with
  | error reason => simp only [listed]
  | ok ids =>
      simp only [listed]
      split <;> rfl

theorem step_extend {peers : List Text} {system next : System}
    (steps : step peers system .extend = some next) :
    ∃ oldKmeList fetched, system.phase = .fetching [] oldKmeList fetched ∧
      next.shared.kmeList = system.shared.kmeList ++ fetched ∧
      (next.phase = .waiting ∨ next.phase = .dead) := by
  obtain ⟨shared, phase⟩ := system
  cases phase with
  | waiting => cases steps
  | fetching todo oldKmeList fetched =>
      cases todo with
      | cons first todo => cases steps
      | nil =>
          have list := closeRound_kmeList shared oldKmeList fetched
          refine ⟨oldKmeList, fetched, rfl, ?_⟩
          simp only [step] at steps
          rcases closes : closeRound shared oldKmeList fetched with ⟨result, left⟩
          rw [closes] at steps list
          cases result with
          | error reason => exact Option.some.inj steps ▸ ⟨list, Or.inr rfl⟩
          | ok done => exact Option.some.inj steps ▸ ⟨list, Or.inl rfl⟩
  | dead => cases steps

/-- The events of one round in which nobody looks anything up. -/
def roundEvents (peers : List Text) (answers : List Answer) : List Event :=
  .clear :: (List.zipWith Event.fetch peers answers ++ [.extend])

theorem run_fetches (peers : List Text) (shared : Shared) (oldKmeList : List Json)
    (todo : List Text) (answers : List Answer) (fetched : List Json)
    (each : todo.length = answers.length) :
    run (step peers) ⟨shared, .fetching todo oldKmeList fetched⟩
        (List.zipWith Event.fetch todo answers) =
      some ⟨shared, .fetching [] oldKmeList (fetched ++ answers.filterMap Answer.value?)⟩ := by
  induction todo generalizing answers fetched with
  | nil =>
      have none : answers = [] := List.eq_nil_of_length_eq_zero each.symm
      subst none
      simp
  | cons peer todo ih =>
      cases answers with
      | nil => simp at each
      | cons answer answers =>
          have rest := ih answers (fetched ++ answer.value?.toList) (by simpa using each)
          simp only [List.zipWith_cons_cons, run_cons, step, ↓reduceIte, Option.bind_some, rest]
          cases answer <;> simp [Answer.value?, List.filterMap_cons]

/-- Without lookups in between, the events of a round do what one iteration of
the loop does. -/
theorem run_roundEvents (peers : List Text) (answers : List Answer) (shared : Shared)
    (each : peers.length = answers.length) (oldKmeList : List Json)
    (opens : shared.kmeList.mapM kmeId = .ok oldKmeList) :
    (run (step peers) ⟨shared, .waiting⟩ (roundEvents peers answers)).map System.shared =
      some (iteration answers shared).2 := by
  simp only [roundEvents, run_cons, step, openRound, opens, Option.bind_some, run_append,
    run_fetches peers _ oldKmeList peers answers [] each, List.nil_append, run_nil, iteration]
  obtain ⟨result, left⟩ := closeRound ⟨[], false⟩ oldKmeList (answers.filterMap Answer.value?)
  cases result <;> rfl

/-- The answer is a status that carries the given SAE. -/
def Serves (sae : Text) (answer : Answer) : Prop :=
  ∃ status, answer = .status status ∧ saeId status = .ok (.str sae)

/-- Some listed status carries the SAE. -/
def Lists (sae : Text) (statuses : List Json) : Prop :=
  ∃ status ∈ statuses, saeId status = .ok (.str sae)

theorem lists_append_left {sae : Text} {statuses : List Json} (more : List Json)
    (lists : Lists sae statuses) : Lists sae (statuses ++ more) := by
  obtain ⟨status, member, carries⟩ := lists
  exact ⟨status, List.mem_append_left more member, carries⟩

theorem lists_served {sae : Text} {answer : Answer} (statuses : List Json)
    (serves : Serves sae answer) : Lists sae (statuses ++ answer.value?.toList) := by
  obtain ⟨status, rfl, carries⟩ := serves
  exact ⟨status, by simp [Answer.value?], carries⟩

/-- A lookup in a list that carries the SAE finds an entry or raises. -/
theorem findListed_ne_none {sae : Text} {kmeList : List Json} (lists : Lists sae kmeList) :
    findListed sae kmeList ≠ .ok none := by
  induction kmeList with
  | nil =>
      obtain ⟨status, member, -⟩ := lists
      cases member
  | cons value rest ih =>
      unfold findListed
      cases known : saeId value with
      | error reason => simp
      | ok id =>
          by_cases same : equalsText sae id = true
          · simp only [same, ↓reduceIte]
            cases kmeId value <;> simp [Except.map]
          · simp only [same, Bool.false_eq_true, ↓reduceIte]
            obtain ⟨status, member, carries⟩ := lists
            refine ih ⟨status, ?_, carries⟩
            rcases List.mem_cons.mp member with rfl | inside
            · rw [known] at carries
              exact absurd ((equalsText_iff sae id).mpr (Except.ok.inj carries)) same
            · exact inside

/-- The scanner is between the clear and the extend of a round. -/
def System.InWindow (system : System) : Prop :=
  ∃ todo oldKmeList fetched, system.phase = .fetching todo oldKmeList fetched

/-- What a served peer leaves behind: outside the window its SAE is listed, and
inside it the list is empty while the status is fetched or still to be fetched. -/
def Retains (peer sae : Text) (system : System) : Prop :=
  match system.phase with
  | .fetching todo _ fetched =>
      system.shared.kmeList = [] ∧ (peer ∈ todo ∨ Lists sae fetched)
  | _ => Lists sae system.shared.kmeList

theorem retains_step {peers : List Text} {peer sae : Text} (known : peer ∈ peers)
    (system : System) (event : Event) (next : System) (retains : Retains peer sae system)
    (serves : ∀ answer, event = .fetch peer answer → Serves sae answer)
    (steps : step peers system event = some next) : Retains peer sae next := by
  cases event with
  | clear =>
      obtain ⟨waiting, ⟨list, dead⟩ | ⟨oldKmeList, list, fetching⟩⟩ := step_clear steps
      · simpa only [Retains, waiting, dead, list] using retains
      · simp only [Retains, fetching]
        exact ⟨list, Or.inl known⟩
  | fetch other answer =>
      obtain ⟨todo, oldKmeList, fetched, phase, rfl⟩ := step_fetch steps
      simp only [Retains, phase] at retains
      obtain ⟨empty, pending⟩ := retains
      refine ⟨empty, ?_⟩
      rcases pending with pending | lists
      · rcases List.mem_cons.mp pending with same | later
        · subst same
          exact Or.inr (lists_served fetched (serves answer rfl))
        · exact Or.inl later
      · exact Or.inr (lists_append_left _ lists)
  | extend =>
      obtain ⟨oldKmeList, fetched, phase, list, ended⟩ := step_extend steps
      simp only [Retains, phase] at retains
      obtain ⟨empty, pending⟩ := retains
      have lists : Lists sae fetched := pending.resolve_left (by simp)
      have listed : Lists sae next.shared.kmeList := by
        rw [list, empty]
        exact lists
      rcases ended with ended | ended <;> simpa only [Retains, ended] using listed
  | lookup other => exact Option.some.inj steps ▸ retains

/-- After a served round, a lookup comes back empty exactly in the window. -/
theorem findKme_none_iff {env : Env} {peer sae : Text} {system : System}
    (retains : Retains peer sae system) :
    findKme env system.shared.kmeList sae = .ok none ↔
      system.InWindow ∧ env.attachedSaeId ≠ some sae := by
  obtain ⟨⟨kmeList, locked⟩, phase⟩ := system
  by_cases attached : env.attachedSaeId = some sae
  · simp [findKme, attached]
  · rw [findKme, if_neg attached]
    cases phase with
    | waiting =>
        have listed := findListed_ne_none retains
        simp [listed, System.InWindow]
    | fetching todo oldKmeList fetched =>
        have empty : kmeList = [] := retains.1
        subst empty
        simp [findListed, System.InWindow, attached]
    | dead =>
        have listed := findListed_ne_none retains
        simp [listed, System.InWindow]

/-- Neither critical section happens. -/
def Event.Plain (event : Event) : Prop := event ≠ .clear ∧ event ≠ .extend

theorem fetched_step {peers : List Text} {sae : Text} (system : System) (event : Event)
    (next : System)
    (lists : ∃ todo oldKmeList fetched,
      system.phase = .fetching todo oldKmeList fetched ∧ Lists sae fetched)
    (plain : event.Plain) (steps : step peers system event = some next) :
    ∃ todo oldKmeList fetched,
      next.phase = .fetching todo oldKmeList fetched ∧ Lists sae fetched := by
  cases event with
  | clear => exact absurd rfl plain.1
  | fetch peer answer =>
      obtain ⟨todo, oldKmeList, fetched, phase, rfl⟩ := step_fetch steps
      obtain ⟨todo', old', fetched', phase', lists⟩ := lists
      rw [phase] at phase'
      cases phase'
      exact ⟨_, _, _, rfl, lists_append_left _ lists⟩
  | extend => exact absurd rfl plain.2
  | lookup other => exact Option.some.inj steps ▸ lists

/-- A served fetch inside a round is still there when the round closes, and the
peer was one of those still to be fetched. -/
theorem round_fetched {peers : List Text} {peer sae : Text} {answer : Answer}
    {system final : System} {round : List Event} (plain : ∀ event ∈ round, event.Plain)
    (fetched : .fetch peer answer ∈ round) (serves : Serves sae answer)
    (runs : run (step peers) system round = some final) :
    (∃ todo oldKmeList statuses,
      final.phase = .fetching todo oldKmeList statuses ∧ Lists sae statuses) ∧
    ∀ todo oldKmeList statuses, system.phase = .fetching todo oldKmeList statuses →
      peer ∈ todo := by
  induction round generalizing system with
  | nil => cases fetched
  | cons event rest ih =>
      obtain ⟨next, first, others⟩ := Option.bind_eq_some_iff.mp runs
      have plainRest : ∀ e ∈ rest, e.Plain := fun e member => plain e (by simp [member])
      rcases List.mem_cons.mp fetched with rfl | inside
      · obtain ⟨todo, oldKmeList, statuses, phase, rfl⟩ := step_fetch first
        constructor
        · exact run_invariant (step peers) _ Event.Plain fetched_step
            ⟨_, _, _, rfl, lists_served statuses serves⟩ plainRest others
        · intro todo' old' statuses' phase'
          rw [phase] at phase'
          cases phase'
          simp
      · obtain ⟨after, pending⟩ := ih plainRest inside others
        refine ⟨after, ?_⟩
        intro todo oldKmeList statuses phase
        cases event with
        | clear => exact absurd rfl (plain .clear (by simp)).1
        | fetch other given =>
            obtain ⟨todo', old', statuses', phase', rfl⟩ := step_fetch first
            rw [phase] at phase'
            cases phase'
            exact List.mem_cons_of_mem _ (pending _ _ _ rfl)
        | extend => exact absurd rfl (plain .extend (by simp)).2
        | lookup other => exact pending todo oldKmeList statuses (Option.some.inj first ▸ phase)

/-- Once a round that fetched the peer has closed, and as long as later fetches
serve it, every reachable state retains the peer. -/
theorem retains_after_round {peers : List Text} {peer sae : Text} {start final : System}
    {earlier round later : List Event} (plain : ∀ event ∈ round, event.Plain)
    (served : ∃ answer, .fetch peer answer ∈ round ∧ Serves sae answer)
    (serves : ∀ answer, .fetch peer answer ∈ later → Serves sae answer)
    (runs : run (step peers) start (earlier ++ .clear :: round ++ .extend :: later) = some final) :
    Retains peer sae final := by
  obtain ⟨answer, inside, answers⟩ := served
  obtain ⟨beforeExtend, opening, closing⟩ := run_split (step peers) runs
  obtain ⟨beforeClear, -, roundRuns⟩ := run_split (step peers) opening
  obtain ⟨opened, clears, fetches⟩ := Option.bind_eq_some_iff.mp roundRuns
  obtain ⟨closed, extends_, laterRuns⟩ := Option.bind_eq_some_iff.mp closing
  obtain ⟨⟨todo, old, statuses, phase, lists⟩, pending⟩ :=
    round_fetched plain inside answers fetches
  have known : peer ∈ peers := by
    obtain ⟨-, ⟨-, dead⟩ | ⟨oldKmeList, -, fetching⟩⟩ := step_clear clears
    · -- a dead scanner fetches nothing, so the round would not contain the fetch
      exfalso
      have stuck : ∀ system event next, system.phase = Phase.dead → Event.Plain event →
          step peers system event = some next → next.phase = Phase.dead := by
        intro system event next isDead plainEvent steps
        cases event with
        | clear => exact absurd rfl plainEvent.1
        | fetch other given =>
            obtain ⟨_, _, _, fetching, -⟩ := step_fetch steps
            rw [isDead] at fetching
            cases fetching
        | extend => exact absurd rfl plainEvent.2
        | lookup other => exact Option.some.inj steps ▸ isDead
      have still := run_invariant (step peers) _ Event.Plain stuck dead plain fetches
      rw [still] at phase
      cases phase
    · exact pending peers oldKmeList [] fetching
  have retained : Retains peer sae closed := by
    obtain ⟨old', statuses', phase', list, ended⟩ := step_extend extends_
    rw [phase] at phase'
    cases phase'
    have listed : Lists sae closed.shared.kmeList := by
      rw [list]
      obtain ⟨status, member, carries⟩ := lists
      exact ⟨status, List.mem_append_right _ member, carries⟩
    rcases ended with ended | ended <;> simpa only [Retains, ended] using listed
  refine run_invariant (step peers) (Retains peer sae)
    (fun event => event ∈ later) ?_ retained (fun _ member => member) laterRuns
  intro system event next retains member steps
  exact retains_step known system event next retains
    (fun given same => serves given (same ▸ member)) steps

/-- Every lookup of the SAE in the later part of the run finds an entry. -/
def LookupsFound (env : Env) (peers : List Text) (start : System) (before later : List Event)
    (sae : Text) : Prop :=
  ∀ middle rest system, later = middle ++ .lookup sae :: rest →
    run (step peers) start (before ++ middle) = some system →
    findKme env system.shared.kmeList sae ≠ .ok none

/-- Every lookup of the SAE in the later part of the run falls outside the
window, unless the SAE is the attached one. -/
def LookupsOutside (env : Env) (peers : List Text) (start : System) (before later : List Event)
    (sae : Text) : Prop :=
  ∀ middle rest system, later = middle ++ .lookup sae :: rest →
    run (step peers) start (before ++ middle) = some system →
    system.InWindow → env.attachedSaeId = some sae

/-- For every interleaving in which a round has served the peer and later
fetches keep serving it, no lookup of its SAE comes back empty exactly when none
of them falls between the clear and the extend of a round. -/
theorem lookupsFound_iff (env : Env) (peers : List Text) (start : System)
    (earlier round later : List Event) (peer sae : Text)
    (plain : ∀ event ∈ round, event.Plain)
    (served : ∃ answer, .fetch peer answer ∈ round ∧ Serves sae answer)
    (serves : ∀ answer, .fetch peer answer ∈ later → Serves sae answer) :
    LookupsFound env peers start (earlier ++ .clear :: round ++ [.extend]) later sae ↔
      LookupsOutside env peers start (earlier ++ .clear :: round ++ [.extend]) later sae := by
  have retained : ∀ middle rest system, later = middle ++ .lookup sae :: rest →
      run (step peers) start (earlier ++ .clear :: round ++ [.extend] ++ middle) = some system →
      Retains peer sae system := by
    intro middle rest system split runs
    have through : run (step peers) start (earlier ++ .clear :: round ++ .extend :: middle) =
        some system := by
      simpa only [List.append_assoc, List.singleton_append] using runs
    refine retains_after_round plain served (fun answer member => serves answer ?_) through
    rw [split]
    exact List.mem_append_left _ member
  constructor
  · intro found middle rest system split runs window
    by_contra other
    exact found middle rest system split runs
      ((findKme_none_iff (retained middle rest system split runs)).mpr ⟨window, other⟩)
  · intro outside middle rest system split runs none
    obtain ⟨window, other⟩ :=
      (findKme_none_iff (retained middle rest system split runs)).mp none
    exact other (outside middle rest system split runs window)

private def peerStatus : Json :=
  .object [(text "KME_ID", .str (text "kme-b")), (text "SAE_ID", .str (text "sae-b"))]

private def servedRound : List Event := [.fetch (text "https://kme-b") (.status peerStatus)]

theorem lookupsFound_iff_served_once :
    LookupsFound ⟨none, none⟩ [text "https://kme-b"] ⟨⟨[], false⟩, .waiting⟩
        ([] ++ .clear :: servedRound ++ [.extend]) [.lookup (text "sae-b")] (text "sae-b") ↔
      LookupsOutside ⟨none, none⟩ [text "https://kme-b"] ⟨⟨[], false⟩, .waiting⟩
        ([] ++ .clear :: servedRound ++ [.extend]) [.lookup (text "sae-b")] (text "sae-b") :=
  lookupsFound_iff _ _ _ [] servedRound _ (text "https://kme-b") _
    (by simp [servedRound, Event.Plain])
    ⟨.status peerStatus, by simp [servedRound], peerStatus, rfl, rfl⟩ (by simp)

/-- A lookup right after the next round has cleared the list comes back empty,
although the peer has answered every request. -/
theorem lookup_lost_in_window :
    ¬ ∀ (env : Env) (peers : List Text) (start : System) (earlier round later : List Event)
      (peer sae : Text), (∀ event ∈ round, event.Plain) →
      (∃ answer, .fetch peer answer ∈ round ∧ Serves sae answer) →
      (∀ answer, .fetch peer answer ∈ later → Serves sae answer) →
      LookupsFound env peers start (earlier ++ .clear :: round ++ [.extend]) later sae := by
  intro noneLost
  have found := noneLost ⟨none, none⟩ [text "https://kme-b"] ⟨⟨[], false⟩, .waiting⟩ [] servedRound
    [.clear, .lookup (text "sae-b")] (text "https://kme-b") (text "sae-b")
    (by simp [servedRound, Event.Plain])
    ⟨.status peerStatus, by simp [servedRound], peerStatus, rfl, rfl⟩ (by simp)
  exact found [.clear] [] ⟨⟨[], false⟩, .fetching [text "https://kme-b"] [.str (text "kme-b")] []⟩
    rfl rfl rfl

end QuantumSafe.Scanner
