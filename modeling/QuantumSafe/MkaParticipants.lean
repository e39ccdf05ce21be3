import QuantumSafe.CeosJson
import QuantumSafe.Polling

set_option autoImplicit false

/- The participants of MKA: `extract_ckn_from_json` and `mka_has_live_peers` of
`lab/ceos_json.py`, and `check_mka_participants` of `lab/test_macsec_dot1x.py`. -/
namespace QuantumSafe.MkaParticipants

open PyText PyJson CeosJson Polling

/-- `[0-9a-f]` with `re.IGNORECASE`. -/
def isHexDigit (c : Char) : Bool := c.isDigit || decide ('a' ≤ c.toLower ∧ c.toLower ≤ 'f')

/-- `re.fullmatch(r"[0-9a-f]+", s, re.IGNORECASE)`. -/
def isHex (s : Text) : Bool := !s.isEmpty && s.all isHexDigit

/-- A string value that is a hex number. -/
def hexText : Json → Option Text
  | .str value => if isHex value then some value else none
  | _ => none

/-- `isinstance(entry, dict) and entry.get("success") is True`. -/
def succeeded : Json → Bool
  | .object fields => (field (text "success") fields).isTrue
  | _ => false

/-- `details.get("sakTransmit") is True`, for the `details` of an entry. -/
def transmits : Json → Bool
  | .object fields =>
      match field (text "details") fields with
      | .object details => (field (text "sakTransmit") details).isTrue
      | _ => false
  | _ => false

/-- The branch of `extract_ckn_from_json` for a dictionary of participants. -/
def dictCkn (items : List (Text × Json)) : Option Text :=
  match items.filter fun entry => succeeded entry.2 with
  | [] => (items.find? fun entry => isHex entry.1).map Prod.fst
  | first :: rest =>
      match (first :: rest).find? fun entry => transmits entry.2 with
      | some entry => some entry.1
      | none => some first.1

/-- The hex CKN in `entry.get("ckn") or entry.get("CKN")`. -/
def entryCkn : Json → Option Text
  | .object fields =>
      let lowerCase := field (text "ckn") fields
      hexText (if lowerCase.truthy then lowerCase else field (text "CKN") fields)
  | _ => none

/-- The branch for a list of participants. -/
def listCkn (items : List Json) : Option Text := items.findSome? entryCkn

/-- The two branches behind the search for a `ckn` field. -/
def participantsCkn (tree : Json) : Option Text :=
  match jsonFindValue (text "participants") tree with
  | some (.object items) => dictCkn items
  | some (.list items) => listCkn items
  | _ => none

def extractCknFromJson (tree : Json) : Except CeosJsonError Text :=
  match (jsonFindValue (text "ckn") tree).bind hexText with
  | some ckn => .ok ckn
  | none =>
      match participantsCkn tree with
      | some ckn => .ok ckn
      | none => .error .expectedCkn

mutual

/-- `_live_peer_lists`. -/
def livePeerLists : Json → List (List Json)
  | .object items => entryPeerLists items
  | .list items => itemPeerLists items
  | _ => []

def itemPeerLists : List Json → List (List Json)
  | [] => []
  | item :: rest => livePeerLists item ++ itemPeerLists rest

def entryPeerLists : List (Text × Json) → List (List Json)
  | [] => []
  | (key, value) :: rest =>
      let here := match value with
        | .list peers =>
            if lower key == text "livepeerlist" || lower key == text "livepeers" then [peers] else []
        | _ => []
      here ++ livePeerLists value ++ entryPeerLists rest

end

def mkaHasLivePeers (tree : Json) : Bool :=
  if (livePeerLists tree).any fun peers => !peers.isEmpty then true
  else jsonTreeContains tree (text "Live peer list:") && !jsonTreeContains tree (text "Live peer list: []")

def mkaPollAttempts : Nat := 15

/-- What a `MacsecCheckError` of the polling loop reports. -/
inductive MkaError where
  | notSuccessful (node : Text)
  | noLivePeers (node : Text)
  | ckn (error : CeosJsonError)
  | checkFailed (node : Text)
deriving DecidableEq, Repr

/-- The exceptions of `check_mka_participants`; `ε` are those of `ceos_show_json`. -/
inductive MkaRaised (ε : Type) where
  | show (error : ε)
  | check (error : MkaError)

section Poll

variable {ε : Type}

/-- The test for a successful participant. -/
def reportsSuccess (tree : Json) : Bool :=
  jsonTruthy tree (text "success") || jsonTreeContains tree (text "Success") false

/-- The body of the polling loop on one parsed output. -/
def examine (node : Text) (tree : Json) : Step MkaError (Except (MkaRaised ε) Text) :=
  if !reportsSuccess tree then .again (.notSuccessful node)
  else if !mkaHasLivePeers tree then .again (.noLivePeers node)
  else
    match extractCknFromJson tree with
    | .error reason => .again (.ckn reason)
    | .ok ckn => .left (.ok ckn)

def attempt (node : Text) (shown : Nat → Except ε Json) (index : Nat) :
    Step MkaError (Except (MkaRaised ε) Text) :=
  match shown index with
  | .error reason => .left (.error (.show reason))
  | .ok tree => examine node tree

/-- `check_mka_participants`, with the outcome of each `ceos_show_json` in order. -/
def checkMkaParticipants (node : Text) (shown : Nat → Except ε Json) : Except (MkaRaised ε) Text :=
  match poll (attempt node shown) mkaPollAttempts 0 none with
  | .inr result => result
  | .inl last => .error (.check (last.getD (.checkFailed node)))

end Poll

/-- The CKN that a collection of participants puts first. -/
inductive Offered : Json → Text → Prop
  /-- The first successful participant with `sakTransmit`. -/
  | transmitting {items : List (Text × Json)} {entry : Text × Json}
      (first : FirstWith (fun found => succeeded found.2 = true ∧ transmits found.2 = true) items entry) :
      Offered (.object items) entry.1
  /-- No successful participant transmits, and this is the first successful one. -/
  | successful {items : List (Text × Json)} {entry : Text × Json}
      (silent : ∀ found ∈ items, succeeded found.2 = true → transmits found.2 = false)
      (first : FirstWith (fun found => succeeded found.2 = true) items entry) :
      Offered (.object items) entry.1
  /-- No participant is successful, and this is the first hex key. -/
  | keyed {items : List (Text × Json)} {entry : Text × Json}
      (none : ∀ found ∈ items, succeeded found.2 = false)
      (first : FirstWith (fun found => isHex found.1 = true) items entry) : Offered (.object items) entry.1
  /-- The first entry with a hex CKN, successful or not. -/
  | listed {items : List Json} {entry : Json} {ckn : Text}
      (first : FirstWith (fun found => (entryCkn found).isSome = true) items entry)
      (named : entryCkn entry = some ckn) : Offered (.list items) ckn

/-- The first `ckn` field of the tree holds this hex string. -/
def CknField (tree : Json) (ckn : Text) : Prop :=
  jsonFindValue (text "ckn") tree = some (.str ckn) ∧ isHex ckn = true

/-- The CKN that a tree puts first. -/
inductive Offers (tree : Json) (ckn : Text) : Prop
  | field (first : CknField tree ckn)
  | collection (none : ∀ other, ¬ CknField tree other) (participants : Json)
      (found : jsonFindValue (text "participants") tree = some participants)
      (offered : Offered participants ckn)

/-- The three preferences of the dictionary branch, one after another. -/
theorem dictCkn_eq (items : List (Text × Json)) :
    dictCkn items = (((items.find? fun entry => decide (succeeded entry.2 = true ∧ transmits entry.2 = true)).or
      (items.find? fun entry => succeeded entry.2)).or (items.find? fun entry => isHex entry.1)).map
        Prod.fst := by
  have both : (items.filter fun entry => succeeded entry.2).find? (fun entry => transmits entry.2) =
      items.find? fun entry => decide (succeeded entry.2 = true ∧ transmits entry.2 = true) :=
    List.find?_filter
  have head : (items.filter fun entry => succeeded entry.2).head? =
      items.find? fun entry => succeeded entry.2 := List.head?_filter
  unfold dictCkn
  split
  · next none =>
      rw [none] at both head
      rw [← both, ← head]
      rfl
  · next first rest some =>
      rw [some] at both head
      rw [← both, ← head, List.head?_cons]
      cases (first :: rest).find? fun entry => transmits entry.2 <;> rfl

theorem dictCkn_iff {items : List (Text × Json)} {ckn : Text} :
    dictCkn items = some ckn ↔ Offered (.object items) ckn := by
  simp only [dictCkn_eq, Option.map_eq_some_iff, Option.or_eq_some_iff, Option.or_eq_none_iff,
    find?_eq_some_iff_firstWith, List.find?_eq_none, decide_eq_true_eq, Bool.not_eq_true]
  constructor
  · rintro ⟨entry, (first | ⟨silent, first⟩) | ⟨⟨-, none⟩, first⟩, rfl⟩
    · exact .transmitting first
    · exact .successful (fun found member success => by simpa [success] using silent found member) first
    · exact .keyed none first
  · intro offered
    cases offered with
    | @transmitting _ entry first => exact ⟨entry, Or.inl (Or.inl first), rfl⟩
    | @successful _ entry silent first =>
        refine ⟨entry, Or.inl (Or.inr ⟨fun found member both => ?_, first⟩), rfl⟩
        have quiet := silent found member both.1
        rw [quiet] at both
        cases both.2
    | @keyed _ entry none first =>
        refine ⟨entry, Or.inr ⟨⟨fun found member both => ?_, none⟩, first⟩, rfl⟩
        have other := none found member
        rw [other] at both
        cases both.1

theorem listCkn_iff {items : List Json} {ckn : Text} :
    listCkn items = some ckn ↔ Offered (.list items) ckn := by
  rw [listCkn, List.findSome?_eq_some_iff]
  constructor
  · rintro ⟨before, entry, after, split, named, others⟩
    refine .listed ⟨before, after, split, by simp [named], fun other member => ?_⟩ named
    simp [others other member]
  · intro offered
    cases offered with
    | @listed _ entry _ first named =>
        obtain ⟨before, after, split, -, others⟩ := first
        exact ⟨before, entry, after, split, named, fun other member => by simpa using others other member⟩

theorem participantsCkn_iff {tree : Json} {ckn : Text} :
    participantsCkn tree = some ckn ↔
      ∃ participants, jsonFindValue (text "participants") tree = some participants ∧
        Offered participants ckn := by
  unfold participantsCkn
  split
  · next items found => simp [found, dictCkn_iff]
  · next items found => simp [found, listCkn_iff]
  · next noDict noList =>
      refine iff_of_false (by simp) ?_
      rintro ⟨participants, found, offered⟩
      cases offered with
      | transmitting | successful | keyed => exact noDict _ found
      | listed => exact noList _ found

theorem cknField_iff {tree : Json} {ckn : Text} :
    (jsonFindValue (text "ckn") tree).bind hexText = some ckn ↔ CknField tree ckn := by
  rw [Option.bind_eq_some_iff]
  constructor
  · rintro ⟨value, found, hex⟩
    cases value with
    | str value =>
        obtain ⟨holds, rfl⟩ : isHex value = true ∧ value = ckn := by simpa [hexText] using hex
        exact ⟨found, holds⟩
    | null | bool | int | float | list | object => cases hex
  · rintro ⟨found, hex⟩
    exact ⟨_, found, by simp [hexText, hex]⟩

/-- What `extract_ckn_from_json` returns is the CKN that the tree puts first. -/
theorem extractCknFromJson_ok {tree : Json} {ckn : Text} :
    extractCknFromJson tree = .ok ckn ↔ Offers tree ckn := by
  unfold extractCknFromJson
  split
  · next found here =>
      have first := cknField_iff.mp here
      rw [Except.ok.injEq]
      constructor
      · rintro rfl
        exact .field first
      · intro offers
        cases offers with
        | field other => exact Option.some.inj (here.symm.trans (cknField_iff.mpr other))
        | collection none => exact absurd first (none found)
  · next absent =>
      have none (other : Text) : ¬ CknField tree other := by
        intro first
        rw [← cknField_iff, absent] at first
        cases first
      have rest : participantsCkn tree = some ckn ↔ Offers tree ckn := by
        rw [participantsCkn_iff]
        constructor
        · rintro ⟨participants, found, offered⟩
          exact .collection none participants found offered
        · intro offers
          cases offers with
          | field first => exact absurd first (none ckn)
          | collection _ participants found offered => exact ⟨participants, found, offered⟩
      rw [← rest]
      cases participantsCkn tree <;> simp

end QuantumSafe.MkaParticipants
