import QuantumSafe.JsonTree
import QuantumSafe.LabConstants
import QuantumSafe.Polling
import QuantumSafe.PyInt
import QuantumSafe.PyRegex

set_option autoImplicit false

/- `lab/wait_kme_pool.py`: the wait for the first key of the KME pool, from the moment
both KME containers run. -/
namespace QuantumSafe.KmePool

open PyText PyJson PyRegex PyInt Polling
open PyIpAddress (isHexDigit)
open CeosContract (kmeBSaeId)

/-- A call of `_docker_curl`. -/
structure CurlCall where
  container : Text
  url : Text
  cert : Text
  key : Text
  method : Text
  body : Option Text

/-- How `docker exec ... curl` ends. -/
inductive Outcome where
  | timeoutExpired
  | completed (returncode : Int) (stdout stderr : Text)

/-- How `json.loads` refuses a text: it is not JSON, it has an integer with too many
digits, or it is nested too deeply. -/
inductive LoadsError where
  | jsonDecodeError
  | valueError
  | recursionError
deriving DecidableEq

inductive PyException where
  | kmePoolWaitError (message : Text)
  | timeoutExpired
  | loads (error : LoadsError)
  | valueError
  | typeError
  | attributeError
  | overflowError
deriving DecidableEq

/-- `except (KmePoolWaitError, json.JSONDecodeError, TypeError, ValueError)`. -/
def PyException.handled : PyException → Bool
  | .kmePoolWaitError _ => true
  | .loads error => error != .recursionError
  | .valueError => true
  | .typeError => true
  | .timeoutExpired => false
  | .attributeError => false
  | .overflowError => false

/-- The classes of `[0-9a-f]{8}-[0-9a-f]{4}-[0-9a-f]{4}-[0-9a-f]{4}-[0-9a-f]{12}`, in
either case. -/
def uuidClasses : List (Char → Bool) :=
  List.replicate 8 isHexDigit ++ [(· == '-')] ++ List.replicate 4 isHexDigit ++ [(· == '-')] ++
    List.replicate 4 isHexDigit ++ [(· == '-')] ++ List.replicate 4 isHexDigit ++ [(· == '-')] ++
    List.replicate 12 isHexDigit

/-- `UUID_RE`, between `^` and `$`. -/
def uuidRe : Regex := .seq .lineStart (Regex.classes uuidClasses Regex.dollar)

def isUuid (s : Text) : Bool := Regex.fits uuidClasses s

def kmeKeySizeBits : Nat := 256

def saeCert : Text := text "/certs/sae.crt.pem"
def saeKey : Text := text "/certs/sae.key.pem"

def keysUrl (kmeAIp slaveSaeId call : Text) : Text :=
  text "https://" ++ kmeAIp ++ text ":8010/api/v1/keys/" ++ slaveSaeId ++ text "/" ++ call

def statusCall (kmeAContainer kmeAIp slaveSaeId : Text) : CurlCall :=
  ⟨kmeAContainer, keysUrl kmeAIp slaveSaeId (text "status"), saeCert, saeKey, text "GET", none⟩

def encKeysCall (kmeAContainer kmeAIp slaveSaeId : Text) : CurlCall :=
  ⟨kmeAContainer, keysUrl kmeAIp slaveSaeId (text "enc_keys"), saeCert, saeKey, text "POST",
    some (text "\x7b\"number\": 1, \"size\": " ++ natText kmeKeySizeBits ++ text "\x7d")⟩

/-- The first of the texts that is not empty. -/
def firstFilled (texts : List Text) : Text := (texts.find? fun s => !s.isEmpty).getD []

section

variable (loads : Text → Except LoadsError Json)

/-- `fetch_slave_status` on how its call ends. -/
def fetchSlaveStatus : Outcome → Except PyException (List (Text × Json))
  | .timeoutExpired => .error .timeoutExpired
  | .completed returncode stdout stderr =>
      if returncode ≠ 0 then
        let detail := firstFilled [strip stderr, strip stdout]
        .error (.kmePoolWaitError (text "status request failed" ++
          if detail.isEmpty then [] else text ": " ++ detail))
      else
        match loads stdout with
        | .error error => .error (.loads error)
        | .ok (.object payload) => .ok payload
        | .ok _ => .error (.kmePoolWaitError (text "status response is not a JSON object"))

/-- `probe_enc_keys` on how its call ends. -/
def probeEncKeys : Outcome → Except PyException (Option Text × Option Text)
  | .timeoutExpired => .error .timeoutExpired
  | .completed returncode stdout stderr =>
      if returncode ≠ 0 then
        .ok (none, some (firstFilled [strip stderr, strip stdout, text "exit " ++ intText returncode]))
      else
        let missingKeyId : Except PyException (Option Text × Option Text) :=
          .ok (none, some (firstFilled [strip stdout, text "enc_keys response missing key_ID"]))
        match loads stdout with
        | .error .jsonDecodeError => .ok (none, some (text "enc_keys response is not valid JSON"))
        | .error error => .error (.loads error)
        | .ok (.object payload) =>
            match payload.lookup (text "keys") with
            | some (.list (.object entry :: _)) =>
                match entry.lookup (text "key_ID") with
                | some (.str keyId) =>
                    if (Regex.matchStart uuidRe keyId).isSome then .ok (some keyId, none) else missingKeyId
                | _ => missingKeyId
            | some (.list (_ :: _)) => .error .attributeError
            | _ => .ok (none, some (text "enc_keys response missing keys[]"))
        | .ok _ => .error .attributeError

/-- `int(value)`, as a value that has this integer. -/
def intOf : Json → Except PyException Json
  | .float shown order =>
      if shown = text "inf" ∨ shown = text "-inf" then .error .overflowError
      else if shown = text "nan" then .error .valueError
      else .ok (.float shown order)
  | .str s =>
      match parseInt s with
      | some n => .ok (.int n)
      | none => .error .valueError
  | .null => .error .typeError
  | .list _ => .error .typeError
  | .object _ => .error .typeError
  | value => .ok value

/-- `int(status.get("stored_key_count", 0) or 0)`. -/
def storedKeyCount (status : List (Text × Json)) : Except PyException Json :=
  let count := (status.lookup (text "stored_key_count")).getD (.int 0)
  if count.truthy then intOf count else .ok (.int 0)

/-- How `wait_for_kme_pool` ends. The error after the last poll quotes the number of polls,
the last count (here the value with that integer) and the last error. -/
inductive Ending where
  | ready (keyId : Text)
  | notReady (polls : Nat) (lastCount : Option Json) (lastError : Option Text)
  | raised (exception : PyException)

/-- The body of the loop. -/
def pollOnce (kmeAContainer kmeAIp : Text) (curl : CurlCall → Outcome) :
    Step (Option Json × Option Text) Ending :=
  match probeEncKeys loads (curl (encKeysCall kmeAContainer kmeAIp kmeBSaeId)) with
  | .error exception => .left (.raised exception)
  | .ok (some (c :: keyId), _) => .left (.ready (c :: keyId))
  | .ok (_, encError) =>
      match (fetchSlaveStatus loads (curl (statusCall kmeAContainer kmeAIp kmeBSaeId))).bind storedKeyCount with
      | .ok count => .again (some count, encError)
      | .error exception =>
          if exception.handled then .again (none, encError) else .left (.raised exception)

/-- `wait_for_kme_pool`, where `curl` says how the calls of each poll end and `polls` how
many polls start before the deadline. -/
def waitForKmePool (kmeAContainer kmeAIp : Text) (curl : Nat → CurlCall → Outcome) (polls : Nat) : Ending :=
  match poll (fun index => pollOnce loads kmeAContainer kmeAIp (curl index)) polls 0 none with
  | .inr ending => ending
  | .inl last => .notReady polls (last.bind Prod.fst) (last.bind Prod.snd)

end

/- What a call answers -/

/-- `$` matches before a last line feed too. -/
theorem uuidRe_matches (s : Text) :
    (Regex.matchStart uuidRe s).isSome = true ↔
      isUuid s = true ∨ ∃ uuid, isUuid uuid = true ∧ s = uuid ++ ['\n'] := by
  have some : (Regex.matchStart uuidRe s).isSome = true ↔
      Regex.runs (Regex.classes uuidClasses Regex.dollar) ⟨[], s, []⟩ ≠ [] := by
    have start : Regex.runs uuidRe ⟨[], s, []⟩ =
        Regex.runs (Regex.classes uuidClasses Regex.dollar) ⟨[], s, []⟩ := List.append_nil _
    rw [Regex.matchStart, start]
    cases Regex.runs (Regex.classes uuidClasses Regex.dollar) ⟨[], s, []⟩ <;> simp
  rw [some, Regex.runs_classes]
  simp only [Regex.runs_dollar]
  constructor
  · rintro ⟨uuid, rest, rfl, fit, rfl | rfl⟩
    · exact Or.inl (by rwa [List.append_nil])
    · exact Or.inr ⟨uuid, fit, rfl⟩
  · rintro (fit | ⟨uuid, fit, rfl⟩)
    · exact ⟨s, [], (List.append_nil s).symm, fit, Or.inl rfl⟩
    · exact ⟨uuid, ['\n'], rfl, fit, Or.inr rfl⟩

/-- A key id with a UUID, or an error and no key id. -/
def Answered (result : Except PyException (Option Text × Option Text)) : Prop :=
  (∃ keyId, result = .ok (some keyId, none) ∧ isUuid keyId = true) ∨ ∃ error, result = .ok (none, some error)

section

variable {loads : Text → Except LoadsError Json}

variable (loads) in
/-- The response has this text as the key id of its first key. -/
def Delivers (outcome : Outcome) (keyId : Text) : Prop :=
  ∃ stdout stderr payload entry others, outcome = .completed 0 stdout stderr ∧
    loads stdout = .ok (.object payload) ∧
    payload.lookup (text "keys") = some (.list (.object entry :: others)) ∧
    entry.lookup (text "key_ID") = some (.str keyId)

theorem Delivers.unique {outcome : Outcome} {keyId other : Text} (delivers : Delivers loads outcome keyId)
    (also_ : Delivers loads outcome other) : keyId = other := by
  obtain ⟨stdout, stderr, payload, entry, others, rfl, loaded, listed, named⟩ := delivers
  obtain ⟨_, _, payload', entry', others', same, loaded', listed', named'⟩ := also_
  cases same
  rw [loaded] at loaded'
  cases loaded'
  rw [listed] at listed'
  cases listed'
  rw [named] at named'
  cases named'
  rfl

variable (loads) in
/-- The ends of an enc_keys call that `probe_enc_keys` does not foresee. -/
inductive Unforeseen : Outcome → Prop where
  | timeout : Unforeseen .timeoutExpired
  | refused (stdout stderr : Text) (error : LoadsError) (loaded : loads stdout = .error error)
      (other : error ≠ .jsonDecodeError) : Unforeseen (.completed 0 stdout stderr)
  | notObject (stdout stderr : Text) (value : Json) (loaded : loads stdout = .ok value)
      (other : ∀ payload, value ≠ .object payload) : Unforeseen (.completed 0 stdout stderr)
  | entryNotObject (stdout stderr : Text) (payload : List (Text × Json)) (first : Json) (others : List Json)
      (loaded : loads stdout = .ok (.object payload))
      (listed : payload.lookup (text "keys") = some (.list (first :: others)))
      (other : ∀ entry, first ≠ .object entry) : Unforeseen (.completed 0 stdout stderr)
  | lineFeed (outcome : Outcome) (uuid : Text) (isUuid : isUuid uuid = true)
      (delivers : Delivers loads outcome (uuid ++ ['\n'])) : Unforeseen outcome

theorem not_uuid_lineFeed {uuid : Text} (fit : isUuid uuid = true) : isUuid (uuid ++ ['\n']) ≠ true := by
  intro longer
  have own := Regex.length_of_fits fit
  have other := Regex.length_of_fits longer
  rw [List.length_append, own] at other
  exact absurd other (by decide)

/-- What `probe_enc_keys` makes of a key id in the response. -/
theorem probeEncKeys_delivers {outcome : Outcome} {keyId : Text} (delivers : Delivers loads outcome keyId) :
    (((Regex.matchStart uuidRe keyId).isSome = true ∧ probeEncKeys loads outcome = .ok (some keyId, none)) ∨
      ((Regex.matchStart uuidRe keyId).isSome = false ∧
        ∃ error, probeEncKeys loads outcome = .ok (none, some error))) := by
  obtain ⟨stdout, stderr, payload, entry, others, rfl, loaded, listed, named⟩ := delivers
  cases matches_ : (Regex.matchStart uuidRe keyId).isSome with
  | true => exact Or.inl ⟨rfl, by simp [probeEncKeys, loaded, listed, named, matches_]⟩
  | false => exact Or.inr ⟨rfl, by simp [probeEncKeys, loaded, listed, named, matches_]⟩

theorem probeEncKeys_unforeseen {outcome : Outcome} (unforeseen : Unforeseen loads outcome) :
    (∃ exception, probeEncKeys loads outcome = .error exception) ∨
      ∃ uuid, probeEncKeys loads outcome = .ok (some (uuid ++ ['\n']), none) ∧ isUuid (uuid ++ ['\n']) ≠ true := by
  cases unforeseen with
  | timeout => exact Or.inl ⟨_, rfl⟩
  | refused stdout stderr error loaded other =>
      refine Or.inl ⟨.loads error, ?_⟩
      cases error <;> simp_all [probeEncKeys]
  | notObject stdout stderr value loaded other =>
      refine Or.inl ⟨.attributeError, ?_⟩
      cases value <;> simp_all [probeEncKeys]
  | entryNotObject stdout stderr payload first others loaded listed other =>
      refine Or.inl ⟨.attributeError, ?_⟩
      cases first <;> simp_all [probeEncKeys]
  | lineFeed outcome uuid isUuid delivers =>
      have matched := (uuidRe_matches (uuid ++ ['\n'])).mpr (Or.inr ⟨uuid, isUuid, rfl⟩)
      rcases probeEncKeys_delivers delivers with ⟨-, answer⟩ | ⟨missed, -⟩
      · exact Or.inr ⟨_, answer, not_uuid_lineFeed isUuid⟩
      · rw [matched] at missed
        cases missed

/-- Every other call is answered: with the key id that the response has, or with an error. -/
theorem probeEncKeys_foreseen {outcome : Outcome} (foreseen : ¬ Unforeseen loads outcome) :
    (∃ keyId, Delivers loads outcome keyId ∧ isUuid keyId = true ∧
        probeEncKeys loads outcome = .ok (some keyId, none)) ∨
      (∀ keyId, Delivers loads outcome keyId → isUuid keyId ≠ true) ∧
        ∃ error, probeEncKeys loads outcome = .ok (none, some error) := by
  by_cases named : ∃ keyId, Delivers loads outcome keyId
  · obtain ⟨keyId, delivers⟩ := named
    rcases probeEncKeys_delivers delivers with ⟨matched, answer⟩ | ⟨missed, answer⟩
    · rcases (uuidRe_matches keyId).mp matched with fit | ⟨uuid, fit, rfl⟩
      · exact Or.inl ⟨keyId, delivers, fit, answer⟩
      · exact absurd (.lineFeed outcome uuid fit delivers) foreseen
    · refine Or.inr ⟨fun other also_ fit => ?_, answer⟩
      rw [also_.unique delivers] at fit
      rw [(uuidRe_matches keyId).mpr (Or.inl fit)] at missed
      cases missed
  · refine Or.inr ⟨fun keyId delivers => absurd ⟨keyId, delivers⟩ named, ?_⟩
    cases outcome with
    | timeoutExpired => exact absurd .timeout foreseen
    | completed returncode stdout stderr =>
        by_cases exit : returncode = 0
        · subst exit
          cases loaded : loads stdout with
          | error error =>
              by_cases decoding : error = .jsonDecodeError
              · subst decoding
                simp [probeEncKeys, loaded]
              · exact absurd (.refused stdout stderr error loaded decoding) foreseen
          | ok value =>
              by_cases isObject : ∃ payload, value = .object payload
              · obtain ⟨payload, rfl⟩ := isObject
                rw [probeEncKeys, if_neg (not_not_intro rfl)]
                simp only [loaded]
                split
                · rename_i entry others listed
                  split
                  · rename_i keyId given
                    exact absurd ⟨keyId, stdout, stderr, payload, entry, others, rfl, loaded, listed, given⟩
                      named
                  · exact ⟨_, rfl⟩
                · rename_i first others other listed
                  exact absurd (.entryNotObject stdout stderr payload first others loaded listed
                    other) foreseen
                · exact ⟨_, rfl⟩
              · exact absurd (.notObject stdout stderr value loaded fun payload same =>
                  isObject ⟨payload, same⟩) foreseen
        · simp [probeEncKeys, exit]

/-- `probe_enc_keys` answers each call that does not end in one of these ways. -/
theorem probeEncKeys_answered_iff (outcome : Outcome) :
    Answered (probeEncKeys loads outcome) ↔ ¬ Unforeseen loads outcome := by
  constructor
  · intro answered unforeseen
    rcases probeEncKeys_unforeseen unforeseen with ⟨exception, raised⟩ | ⟨keyId, returned, other⟩
    · rcases answered with ⟨keyId, answer, -⟩ | ⟨error, answer⟩
      · rw [raised] at answer
        cases answer
      · rw [raised] at answer
        cases answer
    · rcases answered with ⟨keyId', answer, fit⟩ | ⟨error, answer⟩
      · rw [returned] at answer
        cases answer
        exact other fit
      · rw [returned] at answer
        cases answer
  · intro foreseen
    rcases probeEncKeys_foreseen foreseen with ⟨keyId, -, fit, answer⟩ | ⟨-, error, answer⟩
    · exact Or.inl ⟨keyId, answer, fit⟩
    · exact Or.inr ⟨error, answer⟩

/- What the loop does with the answers -/

variable (loads) in
/-- The ends of a status call whose exception the loop does not catch. -/
inductive Uncounted : Outcome → Prop where
  | timeout : Uncounted .timeoutExpired
  | recursion (stdout stderr : Text) (loaded : loads stdout = .error .recursionError) :
      Uncounted (.completed 0 stdout stderr)
  | infinite (stdout stderr : Text) (payload : List (Text × Json)) (shown : Text) (order : Option Ordering)
      (loaded : loads stdout = .ok (.object payload))
      (listed : payload.lookup (text "stored_key_count") = some (.float shown order))
      (filled : order ≠ some .eq) (isInfinite : shown = text "inf" ∨ shown = text "-inf") :
      Uncounted (.completed 0 stdout stderr)

theorem intOf_unhandled {value : Json} {exception : PyException} (raised : intOf value = .error exception)
    (uncaught : exception.handled = false) :
    ∃ shown order, value = .float shown order ∧ (shown = text "inf" ∨ shown = text "-inf") := by
  cases value with
  | float shown order =>
      rw [intOf] at raised
      split at raised
      · rename_i isInfinite
        exact ⟨shown, order, rfl, isInfinite⟩
      · split at raised
        · cases raised
          cases uncaught
        · cases raised
  | str s =>
      rw [intOf] at raised
      split at raised
      · cases raised
      · cases raised
        cases uncaught
  | bool value => cases raised
  | int value => cases raised
  | null =>
      cases raised
      cases uncaught
  | list items =>
      cases raised
      cases uncaught
  | object items =>
      cases raised
      cases uncaught

variable (loads) in
/-- The count that a poll reads from its status call. -/
def countOf (outcome : Outcome) : Except PyException Json := (fetchSlaveStatus loads outcome).bind storedKeyCount

theorem countOf_uncounted {outcome : Outcome} (uncounted : Uncounted loads outcome) :
    ∃ exception, countOf loads outcome = .error exception ∧ exception.handled = false := by
  cases uncounted with
  | timeout => exact ⟨.timeoutExpired, rfl, rfl⟩
  | recursion stdout stderr loaded =>
      refine ⟨.loads .recursionError, ?_, rfl⟩
      simp [countOf, fetchSlaveStatus, loaded, Except.bind]
  | infinite stdout stderr payload shown order loaded listed filled isInfinite =>
      refine ⟨.overflowError, ?_, rfl⟩
      simp [countOf, fetchSlaveStatus, loaded, Except.bind, storedKeyCount, listed, Json.truthy, filled, intOf,
        isInfinite]

theorem uncounted_of_countOf {outcome : Outcome} {exception : PyException}
    (raised : countOf loads outcome = .error exception) (uncaught : exception.handled = false) :
    Uncounted loads outcome := by
  cases outcome with
  | timeoutExpired => exact .timeout
  | completed returncode stdout stderr =>
      rw [countOf, fetchSlaveStatus] at raised
      by_cases exit : returncode = 0
      · subst exit
        rw [if_neg (not_not_intro rfl)] at raised
        split at raised
        · rename_i error loaded
          cases raised
          cases error with
          | recursionError => exact .recursion stdout stderr loaded
          | jsonDecodeError => cases uncaught
          | valueError => cases uncaught
        · rename_i payload loaded
          rw [Except.bind, storedKeyCount] at raised
          split at raised
          · rename_i filled
            obtain ⟨shown, order, count, isInfinite⟩ := intOf_unhandled raised uncaught
            cases listed : payload.lookup (text "stored_key_count") with
            | none =>
                rw [listed] at count
                cases count
            | some value =>
                rw [listed, Option.getD_some] at count filled
                subst count
                exact .infinite stdout stderr payload shown order loaded listed (by simpa [Json.truthy] using filled)
                  isInfinite
          · cases raised
        · cases raised
          cases uncaught
      · rw [if_pos exit] at raised
        cases raised
        cases uncaught

/-- A UUID, or the error after the last poll before the deadline. -/
def EndsWell (polls : Nat) : Ending → Prop
  | .ready keyId => isUuid keyId = true
  | .notReady made _ _ => made = polls
  | .raised _ => False

variable (loads) (kmeAContainer kmeAIp : Text)

def encKeysEnd (curl : CurlCall → Outcome) : Outcome := curl (encKeysCall kmeAContainer kmeAIp kmeBSaeId)

def statusEnd (curl : CurlCall → Outcome) : Outcome := curl (statusCall kmeAContainer kmeAIp kmeBSaeId)

/-- The enc_keys call of a poll delivers a UUID. -/
def GivesKey (curl : CurlCall → Outcome) : Prop :=
  ∃ keyId, Delivers loads (encKeysEnd kmeAContainer kmeAIp curl) keyId ∧ isUuid keyId = true

/-- The calls of a poll end in ways that the loop is prepared for. -/
structure Prepared (curl : CurlCall → Outcome) : Prop where
  encKeys : ¬ Unforeseen loads (encKeysEnd kmeAContainer kmeAIp curl)
  status : ¬ GivesKey loads kmeAContainer kmeAIp curl →
    ¬ Uncounted loads (statusEnd kmeAContainer kmeAIp curl)

variable {loads kmeAContainer kmeAIp} {curl : CurlCall → Outcome}

/-- A poll whose enc_keys call has no key goes on to the status call. -/
theorem pollOnce_status {key error : Option Text} (keyless : key = none ∨ key = some [])
    (answer : probeEncKeys loads (encKeysEnd kmeAContainer kmeAIp curl) = .ok (key, error)) :
    pollOnce loads kmeAContainer kmeAIp curl =
      match countOf loads (statusEnd kmeAContainer kmeAIp curl) with
      | .ok count => .again (some count, error)
      | .error exception => if exception.handled then .again (none, error) else .left (.raised exception) := by
  rw [encKeysEnd] at answer
  rw [pollOnce, answer]
  rcases keyless with rfl | rfl <;> rfl

theorem pollOnce_ready {keyId : Text} (filled : keyId ≠ [])
    (answer : probeEncKeys loads (encKeysEnd kmeAContainer kmeAIp curl) = .ok (some keyId, none)) :
    pollOnce loads kmeAContainer kmeAIp curl = .left (.ready keyId) := by
  obtain ⟨c, rest, rfl⟩ := List.exists_cons_of_ne_nil filled
  rw [encKeysEnd] at answer
  rw [pollOnce, answer]

theorem ne_nil_of_isUuid {keyId : Text} (fit : isUuid keyId = true) : keyId ≠ [] := by
  rintro rfl
  cases fit

theorem pollOnce_givesKey (foreseen : ¬ Unforeseen loads (encKeysEnd kmeAContainer kmeAIp curl))
    (gives : GivesKey loads kmeAContainer kmeAIp curl) :
    ∃ keyId, pollOnce loads kmeAContainer kmeAIp curl = .left (.ready keyId) ∧ isUuid keyId = true := by
  obtain ⟨given, delivers, isGiven⟩ := gives
  rcases probeEncKeys_foreseen foreseen with ⟨keyId, -, fit, answer⟩ | ⟨other, -⟩
  · exact ⟨keyId, pollOnce_ready (ne_nil_of_isUuid fit) answer, fit⟩
  · exact absurd isGiven (other given delivers)

theorem pollOnce_again (prepared : Prepared loads kmeAContainer kmeAIp curl)
    (none : ¬ GivesKey loads kmeAContainer kmeAIp curl) :
    ∃ reason, pollOnce loads kmeAContainer kmeAIp curl = .again reason := by
  rcases probeEncKeys_foreseen prepared.encKeys with ⟨keyId, delivers, fit, -⟩ | ⟨-, error, answer⟩
  · exact absurd ⟨keyId, delivers, fit⟩ none
  · rw [pollOnce_status (Or.inl rfl) answer]
    cases counted : countOf loads (statusEnd kmeAContainer kmeAIp curl) with
    | ok count => exact ⟨_, rfl⟩
    | error exception =>
        cases caught : exception.handled with
        | true => exact ⟨(Option.none, error), if_pos caught⟩
        | false => exact absurd (uncounted_of_countOf counted caught) (prepared.status none)

theorem pollOnce_unprepared (unprepared : ¬ Prepared loads kmeAContainer kmeAIp curl) (polls : Nat) :
    ∃ ending, pollOnce loads kmeAContainer kmeAIp curl = .left ending ∧ ¬ EndsWell polls ending := by
  by_cases unforeseen : Unforeseen loads (encKeysEnd kmeAContainer kmeAIp curl)
  · rcases probeEncKeys_unforeseen unforeseen with ⟨exception, raised⟩ | ⟨uuid, returned, other⟩
    · refine ⟨.raised exception, ?_, id⟩
      rw [encKeysEnd] at raised
      rw [pollOnce, raised]
    · exact ⟨.ready (uuid ++ ['\n']), pollOnce_ready (by simp) returned, other⟩
  · have statusBad : ¬ GivesKey loads kmeAContainer kmeAIp curl ∧
        Uncounted loads (statusEnd kmeAContainer kmeAIp curl) := by
      by_contra fine
      refine unprepared ⟨unforeseen, fun none uncounted => fine ⟨none, uncounted⟩⟩
    obtain ⟨none, uncounted⟩ := statusBad
    obtain ⟨exception, counted, uncaught⟩ := countOf_uncounted uncounted
    rcases probeEncKeys_foreseen unforeseen with ⟨keyId, delivers, fit, -⟩ | ⟨-, error, answer⟩
    · exact absurd ⟨keyId, delivers, fit⟩ none
    · refine ⟨.raised exception, ?_, id⟩
      rw [pollOnce_status (Or.inl rfl) answer, counted]
      simp only [uncaught, Bool.false_eq_true, if_false]

/-- The wait ends well exactly when the loop is prepared for each poll that it reaches:
each with no UUID in an earlier one. -/
theorem waitForKmePool_endsWell_iff (loads : Text → Except LoadsError Json) (kmeAContainer kmeAIp : Text)
    (curl : Nat → CurlCall → Outcome) (polls : Nat) :
    EndsWell polls (waitForKmePool loads kmeAContainer kmeAIp curl polls) ↔
      ∀ index < polls, (∀ earlier < index, ¬ GivesKey loads kmeAContainer kmeAIp (curl earlier)) →
        Prepared loads kmeAContainer kmeAIp (curl index) := by
  have left := poll_left_iff (fun index => pollOnce loads kmeAContainer kmeAIp (curl index)) polls 0 none
  simp only [Nat.zero_add] at left
  constructor
  · intro well index
    induction index using Nat.strongRecOn with
    | ind index ih =>
        intro reached keyless
        by_contra unprepared
        obtain ⟨ending, ends, bad⟩ := pollOnce_unprepared unprepared polls
        have goesOn : ∀ earlier < index, ∃ reason,
            pollOnce loads kmeAContainer kmeAIp (curl earlier) = .again reason := by
          intro earlier sooner
          apply pollOnce_again _ (keyless earlier sooner)
          exact ih earlier sooner (by omega) fun first before => keyless first (by omega)
        have loop := (left ending).mpr ⟨index, reached, goesOn, ends⟩
        rw [waitForKmePool, loop] at well
        exact bad well
  · intro prepared
    rw [waitForKmePool]
    split
    · rename_i ending loop
      obtain ⟨index, reached, goesOn, ends⟩ := (left ending).mp loop
      have keyless : ∀ earlier < index, ¬ GivesKey loads kmeAContainer kmeAIp (curl earlier) := by
        intro earlier
        induction earlier using Nat.strongRecOn with
        | ind earlier ih =>
            intro sooner gives
            have here := prepared earlier (by omega) fun first before => ih first before (by omega)
            obtain ⟨keyId, leaves, -⟩ := pollOnce_givesKey here.encKeys gives
            obtain ⟨reason, again⟩ := goesOn earlier sooner
            rw [leaves] at again
            cases again
      have here := prepared index reached keyless
      by_cases gives : GivesKey loads kmeAContainer kmeAIp (curl index)
      · obtain ⟨keyId, leaves, fit⟩ := pollOnce_givesKey here.encKeys gives
        rw [leaves] at ends
        cases ends
        exact fit
      · obtain ⟨reason, again⟩ := pollOnce_again here gives
        rw [again] at ends
        cases ends
    · rfl

end

/-- Every call is answered, and every wait ends well, exactly where no call that is reached
ends in a way that the code does not foresee. -/
theorem keepsPolling_iff (loads : Text → Except LoadsError Json) (kmeAContainer kmeAIp : Text) :
    (∀ outcome, Answered (probeEncKeys loads outcome) ↔ ¬ Unforeseen loads outcome) ∧
      ∀ (curl : Nat → CurlCall → Outcome) (polls : Nat),
        EndsWell polls (waitForKmePool loads kmeAContainer kmeAIp curl polls) ↔
          ∀ index < polls, (∀ earlier < index, ¬ GivesKey loads kmeAContainer kmeAIp (curl earlier)) →
            Prepared loads kmeAContainer kmeAIp (curl index) := by
  constructor
  · intro outcome
    exact probeEncKeys_answered_iff outcome
  · intro curl polls
    exact waitForKmePool_endsWell_iff loads kmeAContainer kmeAIp curl polls

private def emptyList (stdout : Text) : Except LoadsError Json :=
  if stdout = text "[]" then .ok (.list []) else .error .jsonDecodeError

/-- An empty JSON list, and a call that takes too long: both leave the wait as other exceptions. -/
theorem not_keepsPolling_emptyList :
    probeEncKeys emptyList (.completed 0 (text "[]") []) = .error .attributeError ∧
      ¬ Answered (probeEncKeys emptyList (.completed 0 (text "[]") [])) ∧
      ¬ Answered (probeEncKeys emptyList .timeoutExpired) ∧
      ¬ EndsWell 18 (waitForKmePool emptyList (text "clab-quantum-safe-kme-a") (text "172.20.127.51")
        (fun _ _ => .completed 0 (text "[]") []) 18) ∧
      ¬ EndsWell 18 (waitForKmePool emptyList (text "clab-quantum-safe-kme-a") (text "172.20.127.51")
        (fun _ _ => .timeoutExpired) 18) := by
  refine ⟨rfl, ?_, ?_, id, id⟩
  · rintro (⟨keyId, answer, -⟩ | ⟨error, answer⟩) <;> cases answer
  · rintro (⟨keyId, answer, -⟩ | ⟨error, answer⟩) <;> cases answer

end QuantumSafe.KmePool
