import QuantumSafe.PyBase64
import QuantumSafe.PyJson
import QuantumSafe.TopologyContract

set_option autoImplicit false

/- `lab/kme_sae_client.py`: key delivery between the two KMEs. -/
namespace QuantumSafe.KmeSaeClient

open PyText PyJson PyBase64

structure KmeKey where
  keyId : Text
  keyBytes : Bytes
deriving DecidableEq

structure KmeRadiusConfig where
  kmeAHost : Text
  kmeAPort : Int
  kmeBHost : Text
  kmeBPort : Int
  masterSaeId : Text
  slaveSaeId : Text
  keySize : Int
  masterCert : Text
  masterKey : Text
  slaveCert : Text
  slaveKey : Text
  caCert : Text

/-- `KmeSaeError` with its message, or an exception of any other class. -/
inductive Failure where
  | kmeSaeError (message : Text)
  | uncaught
deriving DecidableEq

structure Client where
  host : Text
  port : Int
  certPath : Text
  keyPath : Text
  caPath : Text

structure Request where
  method : Text
  url : Text
  body : Option Json

/-- What reading and parsing a response body gives. `raises` is a body on which
`decode` or `json.loads` raises something other than `JSONDecodeError`. -/
inductive Body where
  | empty
  | raises
  | notJson
  | json (value : Json)

/-- How a request ends. `breaks` is an exception other than the two that
`_request` catches. -/
inductive Reply where
  | httpError (code : Nat) (detail reason : Text)
  | urlError (reason : Text)
  | breaks
  | payload (body : Body)

/-- The two KMEs: the reply to each request. -/
abbrev Kmes := Client → Request → Reply

def fail {α : Type} (message : Text) : Except Failure α := .error (.kmeSaeError message)

def requestObject (reply : Reply) (url : Text) : Except Failure (List (Text × Json)) :=
  match reply with
  | .httpError code detail reason =>
      let shown := if strip detail = [] then reason else strip detail
      fail (text "KME HTTP " ++ natText code ++ text " for " ++ url ++ text ": " ++ shown)
  | .urlError reason => fail (text "KME request failed for " ++ url ++ text ": " ++ reason)
  | .breaks => .error .uncaught
  | .payload .empty => .ok []
  | .payload .raises => .error .uncaught
  | .payload .notJson => fail (text "KME returned non-JSON from " ++ url)
  | .payload (.json (.object fields)) => .ok fields
  | .payload (.json _) => fail (text "KME returned unexpected JSON type from " ++ url)

/-- The body of the loop of `_parse_key_container`. -/
def parseKey (expectedSize : Option Int) : Json → Except Failure KmeKey
  | .object fields =>
      match fields.lookup (text "key_ID") with
      | some (.str (c :: id)) =>
          let keyId := c :: id
          match fields.lookup (text "key") with
          | some (.str (d :: encoded)) =>
              match b64decode (d :: encoded) with
              | none => fail (text "KME key " ++ keyId ++ text " is not valid base64")
              | some keyBytes =>
                  match expectedSize with
                  | none => .ok ⟨keyId, keyBytes⟩
                  | some size =>
                      if (keyBytes.length : Int) ≠ size then
                        fail (text "KME key " ++ keyId ++ text " size " ++ natText keyBytes.length ++
                          text " != expected " ++ intText size)
                      else .ok ⟨keyId, keyBytes⟩
          | _ => fail (text "KME key " ++ keyId ++ text " missing key material")
      | _ => fail (text "KME keys[] entry missing key_ID")
  | _ => fail (text "KME keys[] entry is not an object")

def parseKeyContainer (payload : List (Text × Json)) (expectedSize : Option Int) :
    Except Failure (List KmeKey) :=
  match payload.lookup (text "keys") with
  | some (.list (item :: items)) => (item :: items).mapM (parseKey expectedSize)
  | _ => fail (text "KME response missing keys[]")

def Client.keysUrl (client : Client) (saeId call : Text) : Text :=
  text "https://" ++ client.host ++ text ":" ++ intText client.port ++ text "/api/v1/keys/" ++
    saeId ++ text "/" ++ call

def encKeysRequest (client : Client) (slaveSaeId : Text) (number sizeBytes : Int) : Request where
  method := text "POST"
  url := client.keysUrl slaveSaeId (text "enc_keys")
  body := some (.object [(text "number", .int number), (text "size", .int (sizeBytes * 8))])

def encKeys (kmes : Kmes) (client : Client) (slaveSaeId : Text) (number sizeBytes : Int) :
    Except Failure (List KmeKey) :=
  let request := encKeysRequest client slaveSaeId number sizeBytes
  (requestObject (kmes client request) request.url).bind fun payload =>
    parseKeyContainer payload (some sizeBytes)

def decKeysRequest (client : Client) (masterSaeId : Text) (keyIds : List Text) : Request where
  method := text "POST"
  url := client.keysUrl masterSaeId (text "dec_keys")
  body := some (.object [(text "key_IDs",
    .list (keyIds.map fun keyId => .object [(text "key_ID", .str keyId)]))])

def decKeys (kmes : Kmes) (client : Client) (masterSaeId : Text) (keyIds : List Text) :
    Except Failure (List KmeKey) :=
  let request := decKeysRequest client masterSaeId keyIds
  (requestObject (kmes client request) request.url).bind fun payload =>
    parseKeyContainer payload none

def KmeRadiusConfig.master (cfg : KmeRadiusConfig) : Client :=
  ⟨cfg.kmeAHost, cfg.kmeAPort, cfg.masterCert, cfg.masterKey, cfg.caCert⟩

def KmeRadiusConfig.slave (cfg : KmeRadiusConfig) : Client :=
  ⟨cfg.kmeBHost, cfg.kmeBPort, cfg.slaveCert, cfg.slaveKey, cfg.caCert⟩

def roundtripKeys (cfg : KmeRadiusConfig) (kmes : Kmes) : Except Failure (Text × Bytes) :=
  match encKeys kmes cfg.master cfg.slaveSaeId 1 cfg.keySize with
  | .error failure => .error failure
  | .ok [] => .error .uncaught
  | .ok (enc :: _) =>
      match decKeys kmes cfg.slave cfg.masterSaeId [enc.keyId] with
      | .error failure => .error failure
      | .ok [dec] =>
          if dec.keyBytes ≠ enc.keyBytes then
            fail (text "dec_keys material does not match enc_keys")
          else .ok (enc.keyId, dec.keyBytes)
      | .ok keys =>
          fail (text "dec_keys returned " ++ natText keys.length ++ text " keys, expected 1")

/-- An exception other than `KmeSaeError` leaves `_request` on this reply. -/
def Reply.Escapes (reply : Reply) : Prop := reply = .breaks ∨ reply = .payload .raises

/-- The `keys[]` of a reply whose body is a JSON object with such a list. -/
def Reply.entries : Reply → Option (List Json)
  | .payload (.json (.object fields)) =>
      match fields.lookup (text "keys") with
      | some (.list items) => some items
      | _ => none
  | _ => none

/-- An entry of `keys[]` gives this identifier and, in base64, these bytes. -/
def Carries (item : Json) (key : KmeKey) : Prop :=
  ∃ fields encoded, item = .object fields ∧
    fields.lookup (text "key_ID") = some (.str key.keyId) ∧ key.keyId ≠ [] ∧
    fields.lookup (text "key") = some (.str encoded) ∧ encoded ≠ [] ∧
    b64decode encoded = some key.keyBytes

/-- The length that the caller expects, where it expects one. -/
def SizeMet (expectedSize : Option Int) (key : KmeKey) : Prop :=
  ∀ size, expectedSize = some size → (key.keyBytes.length : Int) = size

theorem Carries.unique {item : Json} {key other : KmeKey} (carries : Carries item key)
    (also_ : Carries item other) : key = other := by
  obtain ⟨fields, encoded, rfl, id, -, material, -, decoded⟩ := carries
  obtain ⟨fields', encoded', object, id', -, material', -, decoded'⟩ := also_
  cases object
  rw [material] at material'
  cases material'
  rw [id] at id'
  rw [decoded] at decoded'
  cases key
  cases other
  cases id'
  cases decoded'
  rfl

theorem parseKey_ok_iff (expectedSize : Option Int) (item : Json) (key : KmeKey) :
    parseKey expectedSize item = .ok key ↔ Carries item key ∧ SizeMet expectedSize key := by
  constructor
  · intro parsed
    unfold parseKey at parsed
    split at parsed <;> try cases parsed
    rename_i fields
    split at parsed <;> try cases parsed
    rename_i c id found
    dsimp only at parsed
    split at parsed <;> try cases parsed
    rename_i d encoded material
    split at parsed <;> try cases parsed
    rename_i keyBytes decoded
    have carries : Carries (.object fields) ⟨c :: id, keyBytes⟩ :=
      ⟨fields, d :: encoded, rfl, found, by simp, material, by simp, decoded⟩
    cases expectedSize with
    | none =>
        cases parsed
        exact ⟨carries, fun size given => by cases given⟩
    | some size =>
        by_cases met : (keyBytes.length : Int) = size
        · simp only [met, ne_eq, not_true_eq_false, ↓reduceIte, Except.ok.injEq] at parsed
          subst parsed
          exact ⟨carries, fun size' given => Option.some.inj given ▸ met⟩
        · simp [met, fail] at parsed
  · rintro ⟨⟨fields, encoded, rfl, found, named, material, filled, decoded⟩, met⟩
    obtain ⟨keyId, keyBytes⟩ := key
    cases keyId with
    | nil => exact absurd rfl named
    | cons c id =>
        cases encoded with
        | nil => exact absurd rfl filled
        | cons d encoded =>
            simp only [parseKey, found, material, decoded]
            cases expectedSize with
            | none => rfl
            | some size =>
                have same : (keyBytes.length : Int) = size := met size rfl
                simp [same]

theorem parseKey_ne_uncaught (expectedSize : Option Int) (item : Json) :
    parseKey expectedSize item ≠ .error .uncaught := by
  intro raised
  unfold parseKey fail at raised
  dsimp only at raised
  repeat' split at raised
  all_goals cases raised

/-- The keys that a caller of `_request` and `_parse_key_container` reads. -/
def replyKeys (reply : Reply) (url : Text) (expectedSize : Option Int) :
    Except Failure (List KmeKey) :=
  (requestObject reply url).bind fun payload => parseKeyContainer payload expectedSize

theorem parseKeyContainer_ne_uncaught (payload : List (Text × Json)) (expectedSize : Option Int) :
    parseKeyContainer payload expectedSize ≠ .error .uncaught := by
  intro raised
  unfold parseKeyContainer at raised
  split at raised
  · obtain ⟨item, -, raised⟩ := mapM_error _ raised
    exact parseKey_ne_uncaught expectedSize item raised
  · cases raised

theorem parseKeyContainer_ok_iff (payload : List (Text × Json)) (expectedSize : Option Int)
    (keys : List KmeKey) :
    parseKeyContainer payload expectedSize = .ok keys ↔
      ∃ item items, payload.lookup (text "keys") = some (.list (item :: items)) ∧
        List.Forall₂ (fun item key => Carries item key ∧ SizeMet expectedSize key)
          (item :: items) keys := by
  unfold parseKeyContainer
  split
  · rename_i item items found
    simp only [mapM_ok_iff, parseKey_ok_iff, found, Option.some.injEq, Json.list.injEq,
      List.cons.injEq]
    constructor
    · intro each
      exact ⟨item, items, ⟨rfl, rfl⟩, each⟩
    · rintro ⟨_, _, ⟨rfl, rfl⟩, each⟩
      exact each
  · rename_i other
    constructor
    · intro parsed
      cases parsed
    · rintro ⟨item, items, found, -⟩
      exact absurd found (other item items)

theorem replyKeys_uncaught_iff (reply : Reply) (url : Text) (expectedSize : Option Int) :
    replyKeys reply url expectedSize = .error .uncaught ↔ reply.Escapes := by
  have caught (payload : List (Text × Json)) :
      parseKeyContainer payload expectedSize ≠ .error .uncaught :=
    parseKeyContainer_ne_uncaught payload expectedSize
  cases reply with
  | httpError code detail reason => simp [replyKeys, requestObject, fail, Except.bind, Reply.Escapes]
  | urlError reason => simp [replyKeys, requestObject, fail, Except.bind, Reply.Escapes]
  | breaks => simp [replyKeys, requestObject, Except.bind, Reply.Escapes]
  | payload body =>
      cases body with
      | empty => simp [replyKeys, requestObject, Except.bind, Reply.Escapes, caught]
      | raises => simp [replyKeys, requestObject, Except.bind, Reply.Escapes]
      | notJson => simp [replyKeys, requestObject, fail, Except.bind, Reply.Escapes]
      | json value =>
          cases value <;>
            simp [replyKeys, requestObject, fail, Except.bind, Reply.Escapes, caught]

/-- One accepted key for each entry, in order, and at least one entry. -/
theorem replyKeys_ok_iff (reply : Reply) (url : Text) (expectedSize : Option Int)
    (keys : List KmeKey) :
    replyKeys reply url expectedSize = .ok keys ↔
      ∃ items, reply.entries = some items ∧ items ≠ [] ∧
        List.Forall₂ (fun item key => Carries item key ∧ SizeMet expectedSize key) items keys := by
  have container (fields : List (Text × Json)) :
      parseKeyContainer fields expectedSize = .ok keys ↔
        ∃ items, (Reply.payload (.json (.object fields))).entries = some items ∧ items ≠ [] ∧
          List.Forall₂ (fun item key => Carries item key ∧ SizeMet expectedSize key) items keys := by
    rw [parseKeyContainer_ok_iff]
    unfold Reply.entries
    dsimp only
    constructor
    · rintro ⟨item, items, found, each⟩
      exact ⟨item :: items, by rw [found], by simp, each⟩
    · rintro ⟨items, found, filled, each⟩
      obtain ⟨item, rest, rfl⟩ := List.exists_cons_of_ne_nil filled
      split at found
      · rename_i given
        cases found
        exact ⟨item, rest, given, each⟩
      · cases found
  cases reply with
  | payload body =>
      cases body with
      | json value =>
          cases value with
          | object fields => exact container fields
          | _ => simp [replyKeys, requestObject, fail, Except.bind, Reply.entries]
      | empty => simp [replyKeys, requestObject, Except.bind, Reply.entries, parseKeyContainer, fail]
      | _ => simp [replyKeys, requestObject, fail, Except.bind, Reply.entries]
  | _ => simp [replyKeys, requestObject, fail, Except.bind, Reply.entries]

/-- The two replies that `roundtrip_keys` reads. -/
def encReply (cfg : KmeRadiusConfig) (kmes : Kmes) : Reply :=
  kmes cfg.master (encKeysRequest cfg.master cfg.slaveSaeId 1 cfg.keySize)

def decReply (cfg : KmeRadiusConfig) (kmes : Kmes) (keyId : Text) : Reply :=
  kmes cfg.slave (decKeysRequest cfg.slave cfg.masterSaeId [keyId])

/-- A returned pair was delivered by both KMEs, and every other end is a
`KmeSaeError`. -/
def Delivered (cfg : KmeRadiusConfig) (kmes : Kmes) : Prop :=
  match roundtripKeys cfg kmes with
  | .ok (keyId, keyBytes) =>
      (∃ items, (encReply cfg kmes).entries = some items ∧
        ∃ item ∈ items, Carries item ⟨keyId, keyBytes⟩ ∧ (keyBytes.length : Int) = cfg.keySize) ∧
      ∃ item, (decReply cfg kmes keyId).entries = some [item] ∧ Carries item ⟨keyId, keyBytes⟩
  | .error failure => failure ≠ .uncaught

/-- The first key of an enc_keys reply that the client accepts as a whole. -/
def EncAccepted (cfg : KmeRadiusConfig) (kmes : Kmes) (enc : KmeKey) : Prop :=
  ∃ items rest, (encReply cfg kmes).entries = some items ∧
    List.Forall₂ (fun item key => Carries item key ∧ SizeMet (some cfg.keySize) key)
      items (enc :: rest)

/-- What the code relies on: no reply that it reads breaks off or defeats the
decoder, and kme-b does not return the requested bytes under another key_ID. -/
def Matched (cfg : KmeRadiusConfig) (kmes : Kmes) : Prop :=
  ¬ (encReply cfg kmes).Escapes ∧
    ∀ enc, EncAccepted cfg kmes enc →
      ¬ (decReply cfg kmes enc.keyId).Escapes ∧
        ∀ item dec, (decReply cfg kmes enc.keyId).entries = some [item] → Carries item dec →
          dec.keyBytes = enc.keyBytes → dec.keyId = enc.keyId

theorem encAccepted_of_ok {cfg : KmeRadiusConfig} {kmes : Kmes} {enc : KmeKey}
    {rest : List KmeKey}
    (accepted : encKeys kmes cfg.master cfg.slaveSaeId 1 cfg.keySize = .ok (enc :: rest)) :
    EncAccepted cfg kmes enc := by
  obtain ⟨items, entries, -, each⟩ := (replyKeys_ok_iff _ _ _ _).mp accepted
  exact ⟨items, rest, entries, each⟩

theorem EncAccepted.enc_ok {cfg : KmeRadiusConfig} {kmes : Kmes} {enc : KmeKey}
    (accepted : EncAccepted cfg kmes enc) :
    ∃ rest, encKeys kmes cfg.master cfg.slaveSaeId 1 cfg.keySize = .ok (enc :: rest) := by
  obtain ⟨items, rest, entries, each⟩ := accepted
  refine ⟨rest, (replyKeys_ok_iff _ _ _ _).mpr ⟨items, entries, ?_, each⟩⟩
  rintro rfl
  cases each

theorem delivered_of_matched {cfg : KmeRadiusConfig} {kmes : Kmes} (matched : Matched cfg kmes) :
    Delivered cfg kmes := by
  obtain ⟨encKept, decMatched⟩ := matched
  unfold Delivered roundtripKeys
  rcases encEnds : encKeys kmes cfg.master cfg.slaveSaeId 1 cfg.keySize with
    failure | (_ | ⟨enc, rest⟩)
  · rintro rfl
    exact encKept ((replyKeys_uncaught_iff _ _ _).mp encEnds)
  · obtain ⟨items, -, filled, each⟩ := (replyKeys_ok_iff _ _ _ _).mp encEnds
    exact absurd (List.forall₂_nil_right_iff.mp each) filled
  · have accepted : EncAccepted cfg kmes enc := encAccepted_of_ok encEnds
    obtain ⟨decKept, sameId⟩ := decMatched enc accepted
    obtain ⟨items, rest, entries, each⟩ := accepted
    cases each with
    | @cons item _ others _ first tail =>
        rcases decEnds : decKeys kmes cfg.slave cfg.masterSaeId [enc.keyId] with
          failure | (_ | ⟨dec, _ | ⟨second, more⟩⟩)
        · simp only [decEnds]
          rintro rfl
          exact decKept ((replyKeys_uncaught_iff _ _ _).mp decEnds)
        · simp [decEnds, fail]
        · simp only [decEnds]
          by_cases same : dec.keyBytes = enc.keyBytes
          · obtain ⟨decItems, decEntries, -, decEach⟩ := (replyKeys_ok_iff _ _ _ _).mp decEnds
            cases decEach with
            | @cons decItem _ _ _ decFirst none =>
                rw [List.forall₂_nil_right_iff.mp none] at decEntries
                have keyId : dec.keyId = enc.keyId := sameId decItem dec decEntries decFirst.1 same
                have key : dec = enc := by
                  cases dec
                  cases enc
                  cases keyId
                  cases same
                  rfl
                subst key
                simp only [ne_eq, not_true_eq_false, ↓reduceIte]
                exact ⟨⟨item :: others, entries, item, by simp, first.1, first.2 _ rfl⟩,
                  decItem, decEntries, decFirst.1⟩
          · simp [same, fail]
        · simp [decEnds, fail]

theorem matched_of_delivered {cfg : KmeRadiusConfig} {kmes : Kmes}
    (delivered : Delivered cfg kmes) : Matched cfg kmes := by
  unfold Delivered roundtripKeys at delivered
  constructor
  · intro escapes
    have encEnds : encKeys kmes cfg.master cfg.slaveSaeId 1 cfg.keySize = .error .uncaught :=
      (replyKeys_uncaught_iff _ _ _).mpr escapes
    rw [encEnds] at delivered
    exact delivered rfl
  · intro enc accepted
    obtain ⟨rest, encEnds⟩ := accepted.enc_ok
    rw [encEnds] at delivered
    constructor
    · intro escapes
      have decEnds : decKeys kmes cfg.slave cfg.masterSaeId [enc.keyId] = .error .uncaught :=
        (replyKeys_uncaught_iff _ _ _).mpr escapes
      simp only [decEnds] at delivered
      exact delivered rfl
    · intro item dec entries carries same
      have decEnds : decKeys kmes cfg.slave cfg.masterSaeId [enc.keyId] = .ok [dec] :=
        (replyKeys_ok_iff _ _ _ _).mpr
          ⟨[item], entries, by simp, .cons ⟨carries, fun size given => by cases given⟩ .nil⟩
      simp only [decEnds, same, ne_eq, not_true_eq_false, ↓reduceIte] at delivered
      obtain ⟨-, item', entries', carries'⟩ := delivered
      rw [entries] at entries'
      cases entries'
      exact congrArg KmeKey.keyId (carries.unique carries')

/-- For every pair of replies, `roundtrip_keys` returns only what both KMEs
delivered and otherwise raises `KmeSaeError` exactly when the replies match. -/
theorem roundtripKeys_delivered_iff (cfg : KmeRadiusConfig) (kmes : Kmes) :
    Delivered cfg kmes ↔ Matched cfg kmes :=
  ⟨matched_of_delivered, delivered_of_matched⟩

private def exampleConfig : KmeRadiusConfig where
  kmeAHost := text "172.20.127.51"
  kmeAPort := 8020
  kmeBHost := text "172.20.127.52"
  kmeBPort := 8020
  masterSaeId := text "sae-1"
  slaveSaeId := text "sae-2"
  keySize := 3
  masterCert := []
  masterKey := []
  slaveCert := []
  slaveKey := []
  caCert := []

private def exampleContainer (keyId : Text) : Reply :=
  .payload (.json (.object [(text "keys", .list [.object
    [(text "key_ID", .str keyId), (text "key", .str (text "QUJD"))]])]))

/-- kme-a under the identifier `first` and kme-b under `second`, with the same bytes. -/
private def exampleKmes : Kmes := fun client _ =>
  exampleContainer (if client.host = text "172.20.127.51" then text "first" else text "second")

/-- A key that kme-b delivers under another identifier is returned as a success. -/
theorem roundtripKeys_other_id :
    roundtripKeys exampleConfig exampleKmes = .ok (text "first", [65, 66, 67]) ∧
      ¬ Delivered exampleConfig exampleKmes := by
  have ends : roundtripKeys exampleConfig exampleKmes = .ok (text "first", [65, 66, 67]) := by
    decide +kernel
  refine ⟨ends, fun delivered => ?_⟩
  unfold Delivered at delivered
  rw [ends] at delivered
  obtain ⟨-, item, entries, fields, encoded, object, id, -⟩ := delivered
  cases entries
  cases object
  have same : Json.str (text "second") = .str (text "first") := Option.some.inj id
  exact absurd (Json.str.inj same) (by decide)

/- Containers that a KME writes -/

/-- A key as a KME delivers it: with an identifier and with material. -/
structure DeliveredKey extends KmeKey where
  named : keyId ≠ []
  filled : keyBytes ≠ []

def DeliveredKey.entry (key : DeliveredKey) : Json :=
  .object [(text "key_ID", .str key.keyId), (text "key", .str (b64encode key.keyBytes))]

/-- The ETSI container of the keys. -/
def keyContainer (keys : List DeliveredKey) : List (Text × Json) :=
  [(text "keys", .list (keys.map DeliveredKey.entry))]

theorem DeliveredKey.entry_carries (key : DeliveredKey) : Carries key.entry key.toKmeKey := by
  exact ⟨_, b64encode key.keyBytes, rfl, rfl, key.named, rfl, b64encode_ne_nil key.filled,
    b64decode_b64encode key.keyBytes⟩

theorem parseKeyContainer_error {payload : List (Text × Json)} {expectedSize : Option Int}
    (refused : ∀ keys, parseKeyContainer payload expectedSize ≠ .ok keys) :
    ∃ message, parseKeyContainer payload expectedSize = .error (.kmeSaeError message) := by
  rcases ends : parseKeyContainer payload expectedSize with (message | _) | keys
  · exact ⟨message, rfl⟩
  · exact absurd ends (parseKeyContainer_ne_uncaught payload expectedSize)
  · exact absurd ends (refused keys)

/-- What an accepted container of delivered keys gives, and what its sizes were. -/
theorem parse_keyContainer_ok_iff (first : DeliveredKey) (rest : List DeliveredKey)
    (expectedSize : Option Int) (keys : List KmeKey) :
    parseKeyContainer (keyContainer (first :: rest)) expectedSize = .ok keys ↔
      keys = (first :: rest).map DeliveredKey.toKmeKey ∧
        ∀ key ∈ first :: rest, SizeMet expectedSize key.toKmeKey := by
  have each (delivered : List DeliveredKey) : ∀ keys : List KmeKey,
      List.Forall₂ (fun item key => Carries item key ∧ SizeMet expectedSize key)
          (delivered.map DeliveredKey.entry) keys ↔
        keys = delivered.map DeliveredKey.toKmeKey ∧
          ∀ key ∈ delivered, SizeMet expectedSize key.toKmeKey := by
    induction delivered with
    | nil => simp
    | cons key others ih =>
        intro keys
        simp only [List.map_cons, List.forall₂_cons_left_iff, ih, List.forall_mem_cons]
        constructor
        · rintro ⟨other, keys, ⟨carries, met⟩, ⟨rfl, metAll⟩, rfl⟩
          cases carries.unique key.entry_carries
          exact ⟨rfl, met, metAll⟩
        · rintro ⟨rfl, met, metAll⟩
          exact ⟨_, _, ⟨key.entry_carries, met⟩, ⟨rfl, metAll⟩, rfl⟩
  rw [parseKeyContainer_ok_iff, ← each]
  simp [keyContainer]

/-- A container of any delivered keys is read back as exactly these keys where
their sizes are the expected one, and raises `KmeSaeError` where one is not;
every payload gives one key for each entry of its `keys[]` or `KmeSaeError`. -/
theorem parseKeyContainer_complete (expectedSize : Option Int) :
    (∀ (first : DeliveredKey) (rest : List DeliveredKey),
      let keys := first :: rest
      let parsed := parseKeyContainer (keyContainer keys) expectedSize
      ((∀ key ∈ keys, SizeMet expectedSize key.toKmeKey) →
        parsed = .ok (keys.map DeliveredKey.toKmeKey)) ∧
      ((∃ key ∈ keys, ¬ SizeMet expectedSize key.toKmeKey) →
        ∃ message, parsed = .error (.kmeSaeError message))) ∧
    ∀ payload : List (Text × Json),
      (∃ items keys, payload.lookup (text "keys") = some (.list items) ∧
        parseKeyContainer payload expectedSize = .ok keys ∧ keys.length = items.length) ∨
      ∃ message, parseKeyContainer payload expectedSize = .error (.kmeSaeError message) := by
  constructor
  · intro first rest keys parsed
    constructor
    · intro met
      exact (parse_keyContainer_ok_iff first rest expectedSize _).mpr ⟨rfl, met⟩
    · rintro ⟨key, given, unmet⟩
      apply parseKeyContainer_error
      intro results accepted
      have met := (parse_keyContainer_ok_iff first rest expectedSize _).mp accepted
      exact unmet (met.2 key given)
  · intro payload
    rcases ends : parseKeyContainer payload expectedSize with failure | keys
    · refine .inr ?_
      rw [← ends]
      apply parseKeyContainer_error
      intro keys accepted
      rw [ends] at accepted
      cases accepted
    · obtain ⟨item, items, found, each⟩ := (parseKeyContainer_ok_iff _ _ _).mp ends
      exact .inl ⟨item :: items, keys, found, rfl, each.length_eq.symm⟩

end QuantumSafe.KmeSaeClient
