import QuantumSafe.MkaParticipants

set_option autoImplicit false

/- Whose CKN `check_mka_participants` returns, and whose `extract_ckn_from_json` does. -/
namespace QuantumSafe.MkaParticipants

open PyText PyJson CeosJson Polling

section Polled

/-- An entry of the tree that carries a CKN: it stands under it in a dictionary of
participants, or has it in a `ckn` field. -/
inductive Carries (tree : Json) (ckn : Text) : Json → Prop
  | keyed {name : Text} {items : List (Text × Json)} {entry : Json}
      (collection : lower name = text "participants") (field : HasField tree name (.object items))
      (member : (ckn, entry) ∈ items) : Carries tree ckn entry
  | fielded {name : Text} {fields : List (Text × Json)} (inside : .object fields ∈ tree.subtrees)
      (named : lower name = text "ckn") (member : (name, .str ckn) ∈ fields) :
      Carries tree ckn (.object fields)

/-- One entry carries the CKN, is successful and has a live peer. -/
def HasLiveParticipant (tree : Json) (ckn : Text) : Prop :=
  ∃ entry, Carries tree ckn entry ∧ succeeded entry = true ∧ ∃ peers ∈ livePeerLists entry, peers ≠ []

variable {ε : Type} (node : Text) (shown : Nat → Except ε Json)

/-- The poll with which the loop is left. -/
def LastPoll (index : Nat) (tree : Json) : Prop :=
  shown index = .ok tree ∧ (∀ earlier < index, ∃ reason, attempt node shown earlier = .again reason) ∧
    ∃ result, attempt node shown index = .left result

/-- A returned CKN is that of a successful participant with a live peer in the last poll. -/
def ReturnsLive : Prop :=
  ∀ ckn, checkMkaParticipants node shown = .ok ckn →
    ∃ index < mkaPollAttempts, ∃ tree, LastPoll node shown index tree ∧ HasLiveParticipant tree ckn

/-- A tree on which the loop goes on. -/
def Inconclusive (tree : Json) : Prop :=
  reportsSuccess tree = false ∨ mkaHasLivePeers tree = false ∨ ∀ ckn, ¬ Offers tree ckn

/-- A tree that has all that the loop looks for, and puts this CKN first. -/
def Conclusive (tree : Json) (ckn : Text) : Prop :=
  reportsSuccess tree = true ∧ mkaHasLivePeers tree = true ∧ Offers tree ckn

theorem examine_left_iff {tree : Json} {result : Except (MkaRaised ε) Text} :
    examine node tree = .left result ↔ ∃ ckn, Conclusive tree ckn ∧ result = .ok ckn := by
  unfold examine Conclusive
  by_cases success : reportsSuccess tree = true
  · by_cases live : mkaHasLivePeers tree = true
    · cases extracted : extractCknFromJson tree with
      | error reason =>
          have none (ckn : Text) : ¬ Offers tree ckn := by
            rw [← extractCknFromJson_ok, extracted]
            simp
          simp [success, live, none]
      | ok found =>
          have only (ckn : Text) : Offers tree ckn ↔ found = ckn := by
            rw [← extractCknFromJson_ok, extracted, Except.ok.injEq]
          simp [success, live, only, eq_comm]
    · simp [success, live]
  · simp [success]

theorem examine_again_iff {tree : Json} :
    (∃ reason, examine (ε := ε) node tree = .again reason) ↔ Inconclusive tree := by
  have ends (result : Except (MkaRaised ε) Text) :
      examine node tree = .left result ↔ ∃ ckn, Conclusive tree ckn ∧ result = .ok ckn :=
    examine_left_iff node
  have inconclusive : Inconclusive tree ↔ ∀ ckn, ¬ Conclusive tree ckn := by
    simp only [Inconclusive, Conclusive, not_and]
    by_cases success : reportsSuccess tree = true
    · by_cases live : mkaHasLivePeers tree = true <;> simp [success, live]
    · simp [success]
  rw [inconclusive]
  cases examined : examine (ε := ε) node tree with
  | left result =>
      obtain ⟨ckn, conclusive, -⟩ := (ends result).mp examined
      exact iff_of_false (by simp) fun none => none ckn conclusive
  | again reason =>
      refine iff_of_true ⟨reason, rfl⟩ fun ckn conclusive => ?_
      have other := (ends (.ok ckn)).mpr ⟨ckn, conclusive, rfl⟩
      rw [examined] at other
      cases other

theorem attempt_again_iff {index : Nat} :
    (∃ reason, attempt node shown index = .again reason) ↔
      ∃ tree, shown index = .ok tree ∧ Inconclusive tree := by
  unfold attempt
  split
  · next reason failed => simp [failed]
  · next tree seen => simp [seen, examine_again_iff]

theorem attempt_ok_iff {index : Nat} {ckn : Text} :
    attempt node shown index = .left (.ok ckn) ↔ ∃ tree, shown index = .ok tree ∧ Conclusive tree ckn := by
  unfold attempt
  split
  · next reason failed => simp [failed]
  · next tree seen => simp [seen, examine_left_iff]

/-- A CKN is returned at the first conclusive poll. -/
theorem checkMkaParticipants_ok {ckn : Text} :
    checkMkaParticipants node shown = .ok ckn ↔
      ∃ index < mkaPollAttempts,
        (∀ earlier < index, ∃ tree, shown earlier = .ok tree ∧ Inconclusive tree) ∧
          ∃ tree, shown index = .ok tree ∧ Conclusive tree ckn := by
  have polled : checkMkaParticipants node shown = .ok ckn ↔
      poll (attempt node shown) mkaPollAttempts 0 none = .inr (.ok ckn) := by
    unfold checkMkaParticipants
    split <;> simp [*]
  simp only [polled, poll_left_iff, Nat.zero_add, attempt_again_iff, attempt_ok_iff]

/-- The polled CKN is right exactly when in the first conclusive poll the CKN that the
tree puts first is that of a successful participant with a live peer. -/
theorem returnsLive_iff :
    ReturnsLive node shown ↔
      ∀ index < mkaPollAttempts, ∀ tree ckn,
        (∀ earlier < index, ∃ before, shown earlier = .ok before ∧ Inconclusive before) →
          shown index = .ok tree → Conclusive tree ckn → HasLiveParticipant tree ckn := by
  constructor
  · intro live index small tree ckn before seen conclusive
    obtain ⟨last, -, other, ⟨seen', before', result, ends⟩, participant⟩ :=
      live ckn ((checkMkaParticipants_ok node shown).mpr ⟨index, small, before, tree, seen, conclusive⟩)
    have ends' : attempt node shown index = .left (.ok ckn) :=
      (attempt_ok_iff node shown).mpr ⟨tree, seen, conclusive⟩
    have same : last = index := by
      rcases Nat.lt_trichotomy last index with sooner | same | later
      · obtain ⟨reason, again⟩ := (attempt_again_iff node shown).mpr (before last sooner)
        rw [again] at ends
        cases ends
      · exact same
      · obtain ⟨reason, again⟩ := before' index later
        rw [again] at ends'
        cases ends'
    have shows : other = tree := by
      rw [same, seen] at seen'
      exact (Except.ok.inj seen').symm
    exact shows ▸ participant
  · intro settled ckn returned
    obtain ⟨index, small, before, tree, seen, conclusive⟩ := (checkMkaParticipants_ok node shown).mp returned
    refine ⟨index, small, tree, ⟨seen, fun earlier sooner => ?_, .ok ckn, ?_⟩,
      settled index small tree ckn before seen conclusive⟩
    · exact (attempt_again_iff node shown).mpr (before earlier sooner)
    · exact (attempt_ok_iff node shown).mpr ⟨tree, seen, conclusive⟩

/-- The successful participant has lost its peers, and the other one is stale. -/
def mixedParticipants : Json :=
  .object [(text "participants", .object
    [(text "aa", .object [(text "success", .bool true), (text "livePeerList", .list [])]),
      (text "bb", .object [(text "success", .bool false),
        (text "livePeerList", .list [.str (text "peer1")])])])]

/-- The tree has one collection of participants and no `ckn` field. -/
theorem hasField_mixedParticipants {name : Text} {value : Json} (found : HasField mixedParticipants name value) :
    lower name ≠ text "ckn" ∧
      (lower name = text "participants" → mixedParticipants = .object [(name, value)]) := by
  obtain ⟨fields, inside, member⟩ := found
  simp only [mixedParticipants, Json.subtrees, entrySubtrees, itemSubtrees, List.append_nil,
    List.cons_append, List.nil_append, List.mem_cons, Json.object.injEq, reduceCtorEq, List.not_mem_nil,
    or_false, false_or] at inside
  rcases inside with rfl | rfl | rfl | rfl
  · obtain ⟨rfl, rfl⟩ := Prod.mk.inj (List.mem_singleton.mp member)
    exact ⟨by decide, fun _ => rfl⟩
  all_goals
    simp only [List.mem_cons, Prod.mk.injEq, List.not_mem_nil, or_false] at member
    rcases member with ⟨rfl, -⟩ | ⟨rfl, -⟩ <;> exact ⟨by decide, fun same => absurd same (by decide)⟩

theorem not_returnsLive_mixed :
    ¬ ReturnsLive (text "ceos1-both") fun _ => (.ok mixedParticipants : Except Empty Json) := by
  intro live
  obtain ⟨index, -, tree, ⟨seen, -⟩, entry, carries, success, peers, inside, filled⟩ :=
    live (text "aa") rfl
  have same : mixedParticipants = tree := Except.ok.inj seen
  subst same
  cases carries with
  | @keyed name items _ collection field member =>
      have whole := (hasField_mixedParticipants field).2 collection
      obtain ⟨rfl, rfl⟩ : text "participants" = name ∧ _ = items := by simpa [mixedParticipants] using whole
      obtain rfl : entry = _ := by simpa [text] using member
      simp only [livePeerLists, entryPeerLists, itemPeerLists, List.append_nil, List.nil_append] at inside
      exact filled (List.mem_singleton.mp inside)
  | @fielded name fields within named member =>
      exact (hasField_mixedParticipants ⟨fields, within, member⟩).1 named

end Polled

section Forms

/-- A participant of MKA. -/
structure Participant where
  ckn : Text
  success : Bool
  sakTransmit : Bool
deriving DecidableEq, Repr

/-- An entry of a dictionary of participants with a hex key. -/
def keyedParticipant (entry : Text × Json) : Option Participant :=
  if isHex entry.1 then some ⟨entry.1, succeeded entry.2, transmits entry.2⟩ else none

/-- An entry of a list of participants with a hex CKN. -/
def listedParticipant (entry : Json) : Option Participant :=
  (entryCkn entry).map fun ckn => ⟨ckn, succeeded entry, transmits entry⟩

/-- The CKN is that of a successful participant, and of a transmitting one if there is one. -/
def Preferred (participants : List Participant) (ckn : Text) : Prop :=
  ∃ chosen ∈ participants, chosen.ckn = ckn ∧ chosen.success = true ∧
    ((∃ other ∈ participants, other.success = true ∧ other.sakTransmit = true) → chosen.sakTransmit = true)

/-- The tree has this value as its collection of participants. -/
def HasCollection (tree collection : Json) : Prop :=
  ∃ name, lower name = text "participants" ∧ HasField tree name collection

/-- Two trees with the same participants, one of which is successful, as a dictionary
and as a list. -/
structure SameParticipants (dictTree listTree : Json) (items : List (Text × Json)) (entries : List Json)
    (participants : List Participant) : Prop where
  dict : HasCollection dictTree (.object items)
  keyed : items.map keyedParticipant = participants.map some
  list : HasCollection listTree (.list entries)
  listed : entries.map listedParticipant = participants.map some
  success : ∃ participant ∈ participants, participant.success = true

/-- A preferred participant's CKN is extracted from both, and the same one. -/
structure ChoosesPreferred (dictTree listTree : Json) (participants : List Participant) : Prop where
  fromDict : ∃ ckn, extractCknFromJson dictTree = .ok ckn ∧ Preferred participants ckn
  fromList : ∃ ckn, extractCknFromJson listTree = .ok ckn ∧ Preferred participants ckn
  same : extractCknFromJson dictTree = extractCknFromJson listTree

/-- The first successful participant that transmits, else the first successful one. -/
def Leading (participants : List Participant) (participant : Participant) : Prop :=
  FirstWith (fun found => found.success = true ∧ found.sakTransmit = true) participants participant ∨
    (∀ found ∈ participants, found.success = true → found.sakTransmit = false) ∧
      FirstWith (fun found => found.success = true) participants participant

/-- What a tree with a given collection of participants puts first. -/
inductive Puts (tree collection : Json) (participants : List Participant) (ckn : Text) : Prop
  /-- A `ckn` field, wherever it stands. -/
  | field (first : CknField tree ckn)
  /-- In a dictionary, the participant that should be chosen. -/
  | leading (none : ∀ other, ¬ CknField tree other)
      (found : jsonFindValue (text "participants") tree = some collection)
      (dict : ∃ items, collection = .object items) (participant : Participant)
      (leads : Leading participants participant) (named : participant.ckn = ckn)
  /-- In a list, the participant listed first, successful or not. -/
  | head (none : ∀ other, ¬ CknField tree other)
      (found : jsonFindValue (text "participants") tree = some collection)
      (list : ∃ entries, collection = .list entries) (participant : Participant)
      (first : participants.head? = some participant) (named : participant.ckn = ckn)
  /-- Another collection of participants comes first. -/
  | elsewhere (none : ∀ other, ¬ CknField tree other) (other : Json)
      (found : jsonFindValue (text "participants") tree = some other) (different : other ≠ collection)
      (offered : Offered other ckn)

theorem keyed_eq {items : List (Text × Json)} {participants : List Participant}
    (keyed : items.map keyedParticipant = participants.map some) :
    participants = items.map fun entry => ⟨entry.1, succeeded entry.2, transmits entry.2⟩ := by
  induction items generalizing participants with
  | nil => simpa using keyed.symm
  | cons entry rest ih =>
      cases participants with
      | nil => cases keyed
      | cons participant others =>
          obtain ⟨here, later⟩ := List.cons.inj keyed
          have same : participant = ⟨entry.1, succeeded entry.2, transmits entry.2⟩ := by
            unfold keyedParticipant at here
            split at here
            · exact (Option.some.inj here).symm
            · cases here
          rw [List.map_cons, ← ih later, same]

theorem offered_dict_iff {items : List (Text × Json)} {participants : List Participant} {ckn : Text}
    (keyed : items.map keyedParticipant = participants.map some)
    (success : ∃ participant ∈ participants, participant.success = true) :
    Offered (.object items) ckn ↔ ∃ participant, Leading participants participant ∧ participant.ckn = ckn := by
  obtain rfl := keyed_eq keyed
  simp only [Leading, firstWith_map, List.forall_mem_map]
  constructor
  · intro offered
    cases offered with
    | @transmitting _ entry first => exact ⟨_, Or.inl ⟨entry, rfl, first⟩, rfl⟩
    | @successful _ entry silent first => exact ⟨_, Or.inr ⟨silent, entry, rfl, first⟩, rfl⟩
    | @keyed _ entry none first =>
        obtain ⟨participant, member, succeeds⟩ := success
        obtain ⟨found, inside, rfl⟩ := List.mem_map.mp member
        have fails := none found inside
        simp [fails] at succeeds
  · rintro ⟨participant, ⟨entry, rfl, first⟩ | ⟨silent, entry, rfl, first⟩, rfl⟩
    · exact .transmitting first
    · exact .successful silent first

theorem offered_list_iff {entries : List Json} {participants : List Participant} {ckn : Text}
    (listed : entries.map listedParticipant = participants.map some) :
    Offered (.list entries) ckn ↔ ∃ participant, participants.head? = some participant ∧ participant.ckn = ckn := by
  rw [← listCkn_iff, listCkn]
  cases entries with
  | nil =>
      have empty : participants = [] := by simpa using listed.symm
      simp [empty]
  | cons entry rest =>
      cases participants with
      | nil => cases listed
      | cons participant others =>
          have here : listedParticipant entry = some participant := (List.cons.inj listed).1
          obtain ⟨found, named, rfl⟩ := Option.map_eq_some_iff.mp here
          simp [named]

section Collection

variable {tree collection : Json} {participants : List Participant}

/-- For the participants of a tree, `Puts` says which CKN is extracted. -/
theorem extractCknFromJson_ok_puts
    (given : (∃ items, collection = .object items ∧ items.map keyedParticipant = participants.map some) ∨
      ∃ entries, collection = .list entries ∧ entries.map listedParticipant = participants.map some)
    (success : ∃ participant ∈ participants, participant.success = true) {ckn : Text} :
    extractCknFromJson tree = .ok ckn ↔ Puts tree collection participants ckn := by
  rw [extractCknFromJson_ok]
  constructor
  · intro offers
    cases offers with
    | field first => exact .field first
    | collection none other found offered =>
        by_cases same : other = collection
        · subst same
          rcases given with ⟨items, rfl, keyed⟩ | ⟨entries, rfl, listed⟩
          · obtain ⟨participant, leads, named⟩ := (offered_dict_iff keyed success).mp offered
            exact .leading none found ⟨items, rfl⟩ participant leads named
          · obtain ⟨participant, first, named⟩ := (offered_list_iff listed).mp offered
            exact .head none found ⟨entries, rfl⟩ participant first named
        · exact .elsewhere none other found same offered
  · intro puts
    cases puts with
    | field first => exact .field first
    | leading none found dict participant leads named =>
        rcases given with ⟨items, rfl, keyed⟩ | ⟨entries, rfl, listed⟩
        · exact .collection none _ found ((offered_dict_iff keyed success).mpr ⟨participant, leads, named⟩)
        · obtain ⟨items, other⟩ := dict
          cases other
    | head none found list participant first named =>
        rcases given with ⟨items, rfl, keyed⟩ | ⟨entries, rfl, listed⟩
        · obtain ⟨entries, other⟩ := list
          cases other
        · exact .collection none _ found ((offered_list_iff listed).mpr ⟨participant, first, named⟩)
    | elsewhere none other found different offered => exact .collection none other found offered

end Collection

variable {dictTree listTree : Json} {items : List (Text × Json)} {entries : List Json}
  {participants : List Participant}

/-- The choice is right exactly when both trees put the same preferred participant first. -/
theorem choosesPreferred_iff (given : SameParticipants dictTree listTree items entries participants) :
    ChoosesPreferred dictTree listTree participants ↔
      ∃ ckn, Preferred participants ckn ∧ Puts dictTree (.object items) participants ckn ∧
        Puts listTree (.list entries) participants ckn := by
  have fromDict (ckn : Text) :
      extractCknFromJson dictTree = .ok ckn ↔ Puts dictTree (.object items) participants ckn :=
    extractCknFromJson_ok_puts (Or.inl ⟨items, rfl, given.keyed⟩) given.success
  have fromList (ckn : Text) :
      extractCknFromJson listTree = .ok ckn ↔ Puts listTree (.list entries) participants ckn :=
    extractCknFromJson_ok_puts (Or.inr ⟨entries, rfl, given.listed⟩) given.success
  constructor
  · intro chooses
    obtain ⟨ckn, extracted, preferred⟩ := chooses.fromDict
    have again : extractCknFromJson listTree = .ok ckn := chooses.same ▸ extracted
    exact ⟨ckn, preferred, (fromDict ckn).mp extracted, (fromList ckn).mp again⟩
  · rintro ⟨ckn, preferred, dict, list⟩
    have first := (fromDict ckn).mpr dict
    have second := (fromList ckn).mpr list
    exact ⟨⟨ckn, first, preferred⟩, ⟨ckn, second, preferred⟩, first.trans second.symm⟩

def staleEntry : List (Text × Json) := [(text "success", .bool false)]

def currentEntry : List (Text × Json) :=
  [(text "success", .bool true), (text "details", .object [(text "sakTransmit", .bool true)])]

def stale : Participant := ⟨text "aa", false, false⟩

def current : Participant := ⟨text "bb", true, true⟩

def showsDict (items : List (Text × Json)) : Json := .object [(text "participants", .object items)]

def showsList (entries : List Json) : Json := .object [(text "participants", .list entries)]

theorem hasCollection_top (collection : Json) :
    HasCollection (.object [(text "participants", collection)]) collection :=
  ⟨text "participants", rfl, _, self_mem_subtrees _, List.mem_singleton_self _⟩

/-- The list form of a stale and a current participant gives the stale one. -/
theorem not_choosesPreferred_staleFirst :
    let items := [(text "aa", Json.object staleEntry), (text "bb", Json.object currentEntry)]
    let entries := [Json.object ((text "ckn", .str (text "aa")) :: staleEntry),
      Json.object ((text "ckn", .str (text "bb")) :: currentEntry)]
    SameParticipants (showsDict items) (showsList entries) items entries [stale, current] ∧
      ¬ ChoosesPreferred (showsDict items) (showsList entries) [stale, current] := by
  intro items entries
  refine ⟨⟨hasCollection_top _, by decide, hasCollection_top _, by decide, current, by simp, rfl⟩, ?_⟩
  intro chooses
  have differs : extractCknFromJson (showsDict items) ≠ extractCknFromJson (showsList entries) := by decide
  exact differs chooses.same

/-- With the current participant in front, both forms give it. -/
theorem choosesPreferred_currentFirst :
    let items := [(text "bb", Json.object currentEntry), (text "aa", Json.object staleEntry)]
    let entries := [Json.object ((text "ckn", .str (text "bb")) :: currentEntry),
      Json.object ((text "ckn", .str (text "aa")) :: staleEntry)]
    ChoosesPreferred (showsDict items) (showsList entries) [current, stale] := by
  intro items entries
  have given : SameParticipants (showsDict items) (showsList entries) items entries [current, stale] :=
    ⟨hasCollection_top _, by decide, hasCollection_top _, by decide, current, by simp, rfl⟩
  have preferred : Preferred [current, stale] (text "bb") := ⟨current, by simp, rfl, rfl, fun _ => rfl⟩
  have leads : Leading [current, stale] current := Or.inl ⟨[], [stale], rfl, ⟨rfl, rfl⟩, by simp⟩
  have none (other : Text) : ¬ CknField (showsDict items) other := by
    rintro ⟨found, -⟩
    cases found
  have dict : Puts (showsDict items) (.object items) [current, stale] (text "bb") :=
    .leading none rfl ⟨items, rfl⟩ current leads rfl
  have list : Puts (showsList entries) (.list entries) [current, stale] (text "bb") := .field ⟨rfl, rfl⟩
  exact (choosesPreferred_iff given).mpr ⟨text "bb", preferred, dict, list⟩

end Forms

end QuantumSafe.MkaParticipants
