import QuantumSafe.PyInt
import QuantumSafe.PyIpAddress
import QuantumSafe.PyRegex
import QuantumSafe.TextLines

set_option autoImplicit false

/- `lab/test_macsec_qkd.py`: the static SAK profiles of the two QuaDRA switches, read
from a configuration, and the checks of one against the other. -/
namespace QuantumSafe.StaticSak

open PyText PyRegex PyInt
open PyIpAddress (isHexDigit isSpace_hexDigit)

structure SakChannel where
  identifier : Text
  an : Int
  key : Text
  encrypted : Bool
deriving DecidableEq

structure StaticSakProfile where
  rx : SakChannel
  tx : SakChannel
deriving DecidableEq

/-- The `QkdCheckError`s, and the `ValueError` of `int`. -/
inductive Failure where
  | missingProfile (profile : Text)
  | missingChannel (profile marker : Text)
  | incompleteChannel (profile direction : Text)
  | expected (profile wanted : Text)
  | scIdMismatch (side : Text) (master slave : Text)
  | anMismatch (side : Text) (master slave : Int)
  | keyMismatch (message : Text)
  | valueError
deriving DecidableEq

/-- `IDENTIFIER_RE`: `identifier\s+(\S+)`. -/
def identifierRe : Regex :=
  .seq (.literal (text "identifier")) (.seq (.many 1 isSpace) (.group 1 (.many 1 nonSpace)))

/-- `.` without `re.DOTALL`. -/
def notNewline (c : Char) : Bool := c != '\n'

/-- `(?:\s+(\d))?\s+(.+)`. -/
def sakKeyRe : Regex :=
  .seq (.either (.seq (.many 1 isSpace) (.group 2 (.char isDecimal))) .empty)
    (.seq (.many 1 isSpace) (.group 3 (.many 1 notNewline)))

/-- `SAK_KEY_LINE_RE`: `an\s+(\d+)\s+key(?:\s+(\d))?\s+(.+)`. -/
def sakKeyLineRe : Regex :=
  .seq (.literal (text "an")) (.seq (.many 1 isSpace) (.seq (.group 1 (.many 1 isDecimal))
    (.seq (.many 1 isSpace) (.seq (.literal (text "key")) sakKeyRe))))

/-- The words at which a profile's block ends. -/
def stops : List Text :=
  [text "profile ", text "interface ", text "daemon ", text "dot1x ", text "mac security\n"]

/-- `_profile_config_block`. -/
def profileConfigBlock (configText profile : Text) : Except Failure Text :=
  let marker := text "profile " ++ profile
  if !contains marker configText then .error (.missingProfile profile)
  else
    .ok (stops.foldl (fun block stop => if contains stop block then splitHead stop block else block)
      (splitTail marker configText))

/-- `_parse_sak_channel`. -/
def parseSakChannel (block direction profile : Text) : Except Failure SakChannel :=
  let marker := text "secure channel " ++ direction
  if !contains marker block then .error (.missingChannel profile marker)
  else
    let rest := splitTail marker block
    let channel := if contains (text "secure channel") rest then splitHead (text "secure channel") rest
      else rest
    match Regex.search identifierRe channel, Regex.search sakKeyLineRe channel with
    | some idMatch, some keyMatch =>
        match parseInt (keyMatch.group 1) with
        | none => .error .valueError
        | some an =>
            .ok
              { identifier := idMatch.group 1
                an := an
                key := strip (keyMatch.group 3)
                encrypted := keyMatch.group 2 = text "7" }
    | _, _ => .error (.incompleteChannel profile direction)

/-- `parse_static_sak_profile`. -/
def parseStaticSakProfile (configText profile : Text) : Except Failure StaticSakProfile := do
  let block ← profileConfigBlock configText profile
  if !contains (text "key source sak static") block then
    .error (.expected profile (text "key source sak static"))
  else if !contains (text "cipher aes256-gcm-xpn") block then
    .error (.expected profile (text "cipher aes256-gcm-xpn"))
  else
    let rx ← parseSakChannel block (text "rx") profile
    let tx ← parseSakChannel block (text "tx") profile
    return ⟨rx, tx⟩

/-- `assert_static_sak_peer_mapping`. -/
def assertStaticSakPeerMapping (master slave : StaticSakProfile) : Except Failure Unit :=
  if master.rx.identifier ≠ slave.tx.identifier then
    .error (.scIdMismatch (text "master rx") master.rx.identifier slave.tx.identifier)
  else if master.tx.identifier ≠ slave.rx.identifier then
    .error (.scIdMismatch (text "master tx") master.tx.identifier slave.rx.identifier)
  else if master.rx.an ≠ slave.tx.an then
    .error (.anMismatch (text "master rx") master.rx.an slave.tx.an)
  else if master.tx.an ≠ slave.rx.an then
    .error (.anMismatch (text "master tx") master.tx.an slave.rx.an)
  else .ok ()

/-- `assert_plain_sak_key_exchange`. -/
def assertPlainSakKeyExchange (master slave : StaticSakProfile) : Except Failure Unit :=
  if master.rx.key ≠ slave.tx.key then
    .error (.keyMismatch (text "plain SAK mismatch: master rx key != slave tx key"))
  else if master.tx.key ≠ slave.rx.key then
    .error (.keyMismatch (text "plain SAK mismatch: master tx key != slave rx key"))
  else .ok ()

theorem assertStaticSakPeerMapping_of_eq {master slave : StaticSakProfile}
    (rxId : master.rx.identifier = slave.tx.identifier)
    (txId : master.tx.identifier = slave.rx.identifier) (rxAn : master.rx.an = slave.tx.an)
    (txAn : master.tx.an = slave.rx.an) : assertStaticSakPeerMapping master slave = .ok () := by
  rw [assertStaticSakPeerMapping, if_neg (not_not_intro rxId), if_neg (not_not_intro txId),
    if_neg (not_not_intro rxAn), if_neg (not_not_intro txAn)]

theorem assertPlainSakKeyExchange_of_eq {master slave : StaticSakProfile}
    (rxKey : master.rx.key = slave.tx.key) (txKey : master.tx.key = slave.rx.key) :
    assertPlainSakKeyExchange master slave = .ok () := by
  rw [assertPlainSakKeyExchange, if_neg (not_not_intro rxKey), if_neg (not_not_intro txKey)]

/- The lines of a channel -/

/-- A name that a profile line or a channel line can show. -/
structure IsToken (token : Text) : Prop where
  filled : token ≠ []
  visible : ∀ c ∈ token, isSpace c = false

theorem runs_literal_other {c d : Char} (other : d ≠ c) (s passed rest : Text) (next : Regex)
    (groups : List (Nat × Text)) :
    Regex.runs (.seq (.literal (c :: s)) next) ⟨passed, d :: rest, groups⟩ = [] := by
  have absent : ¬ (c :: s).isPrefixOf (d :: rest) = true := by
    rw [List.isPrefixOf_iff_prefix, List.cons_prefix_cons]
    exact fun starts => other starts.1.symm
  rw [Regex.runs_seq, Regex.runs_literal, if_neg absent, List.flatMap_nil]

theorem stops_of_head {accepts : Char → Bool} {c : Char} {rest : Text} (refused : accepts c = false) :
    Regex.Stops accepts (c :: rest) := by
  intro d head
  cases head
  exact refused

theorem runs_blank {ahead : Text} (passed : Text) (groups : List (Nat × Text))
    (visible : Regex.Stops isSpace ahead) :
    Regex.runs (.many 1 isSpace) ⟨passed, ' ' :: ahead, groups⟩ = [⟨' ' :: passed, ahead, groups⟩] := by
  rw [Regex.runs, Regex.spans, if_pos (by decide), Regex.spans_stops visible]
  rfl

theorem runs_many_stopped {accepts : Char → Bool} {ahead : Text} (stopped : Regex.Stops accepts ahead)
    (passed : Text) (groups : List (Nat × Text)) :
    Regex.runs (.many 1 accepts) ⟨passed, ahead, groups⟩ = [] := by
  rw [Regex.runs, Regex.spans_stops stopped]
  rfl

/-- A captured class first takes all the characters it can. -/
theorem runs_group_many {accepts : Char → Bool} {inside rest : Text} (filled : inside ≠ [])
    (all : ∀ c ∈ inside, accepts c = true) (ended : Regex.Stops accepts rest) (passed : Text)
    (groups : List (Nat × Text)) (index : Nat) :
    ∃ others, Regex.runs (.group index (.many 1 accepts)) ⟨passed, inside ++ rest, groups⟩ =
      ⟨inside.reverse ++ passed, rest, (index, inside) :: groups⟩ :: others := by
  obtain ⟨shorter, longest, -⟩ := Regex.runs_many_head passed inside rest groups all ended
    (List.length_pos_iff.mpr filled)
  rw [Regex.runs_group, longest, List.map_cons, Regex.between_append]
  exact ⟨_, rfl⟩

theorem IsToken.stops {token : Text} (isToken : IsToken token) (rest : Text) :
    Regex.Stops isSpace (token ++ rest) := by
  obtain ⟨c, tail, split⟩ := List.exists_cons_of_ne_nil isToken.filled
  rw [split, List.cons_append]
  exact stops_of_head (isToken.visible c (split ▸ List.mem_cons_self))

/-- A token after one blank. -/
theorem runs_blank_token {token : Text} (isToken : IsToken token) {rest : Text}
    (ended : Regex.Stops nonSpace rest) (passed : Text) (groups : List (Nat × Text)) (index : Nat) :
    ∃ others, Regex.runs (.seq (.many 1 isSpace) (.group index (.many 1 nonSpace)))
        ⟨passed, ' ' :: (token ++ rest), groups⟩ =
      ⟨token.reverse ++ ' ' :: passed, rest, (index, token) :: groups⟩ :: others := by
  have inToken : ∀ d ∈ token, nonSpace d = true := fun d member => by
    rw [nonSpace, isToken.visible d member]
    rfl
  obtain ⟨others, word⟩ := runs_group_many isToken.filled inToken ended (' ' :: passed) groups index
  exact Regex.runs_seq_first (runs_blank passed groups (isToken.stops rest)) word

/-- No match of a pattern that starts with a character starts where that character is not. -/
theorem searchFrom_without {c : Char} {s kept : Text} {next : Regex} (absent : c ∉ kept)
    (passed rest : Text) :
    Regex.searchFrom (.seq (.literal (c :: s)) next) passed (kept ++ rest) =
      Regex.searchFrom (.seq (.literal (c :: s)) next) (kept.reverse ++ passed) rest := by
  apply Regex.searchFrom_passed
  intro before after split filled
  obtain ⟨d, tail, same⟩ := List.exists_cons_of_ne_nil filled
  have other : d ≠ c := by
    intro here
    apply absent
    rw [split, same, here]
    exact List.mem_append_right before List.mem_cons_self
  rw [same, List.cons_append]
  exact runs_literal_other other _ _ _ _ _

/-- The white space in front of a channel line. -/
def indent : Text := text "\n         "

/-- A line feed, and the blanks that a line starts with. -/
def newLine (blanks : Nat) : Text := '\n' :: List.replicate blanks ' '

theorem mem_newLine {blanks : Nat} {c : Char} (member : c ∈ newLine blanks) : c = '\n' ∨ c = ' ' := by
  rcases List.mem_cons.mp member with feed | blank
  · exact Or.inl feed
  · exact Or.inr (List.eq_of_mem_replicate blank)

theorem notMem_newLine {blanks : Nat} {c : Char} (visible : isSpace c = false) : c ∉ newLine blanks := by
  intro member
  rcases mem_newLine member with rfl | rfl <;> cases visible

theorem identifier_search {blanks : Nat} {id rest : Text} (token : IsToken id)
    (ended : Regex.Stops nonSpace rest) :
    ∃ finish, Regex.search identifierRe (newLine blanks ++ (text "identifier " ++ (id ++ rest))) =
        some finish ∧
      finish.group 1 = id := by
  have passed : Regex.searchFrom identifierRe [] (newLine blanks ++ (text "identifier " ++ (id ++ rest))) =
      _ := searchFrom_without (notMem_newLine rfl) [] _
  obtain ⟨others, line⟩ :=
    runs_blank_token token ended ((text "identifier").reverse ++ ((newLine blanks).reverse ++ [])) [] 1
  obtain ⟨others', run⟩ := Regex.runs_seq_first (Regex.runs_literal_append (text "identifier")
    ((newLine blanks).reverse ++ []) (' ' :: (id ++ rest)) []) line
  have found : Regex.searchFrom identifierRe _ (text "identifier" ++ ' ' :: (id ++ rest)) = some _ :=
    Regex.searchFrom_here run
  exact ⟨_, passed.trans found, rfl⟩

/-- A hexadecimal key of two digits or more. -/
structure IsHexKey (key : Text) : Prop where
  long : 2 ≤ key.length
  digits : ∀ c ∈ key, isHexDigit c = true

theorem IsHexKey.token {key : Text} (hexKey : IsHexKey key) : IsToken key where
  filled := List.ne_nil_of_length_pos (Nat.lt_of_lt_of_le (by decide) hexKey.long)
  visible := fun c member => isSpace_hexDigit (hexKey.digits c member)

theorem isDecimal_of_isDigit {c : Char} (digit : c.isDigit = true) : isDecimal c = true := by
  have range : 0x30 ≤ c.toNat ∧ c.toNat ≤ 0x30 + 9 := by
    simp only [Char.isDigit, Bool.and_eq_true, decide_eq_true_eq, ge_iff_le, UInt32.le_iff_toNat_le] at digit
    exact digit
  rw [isDecimal, decimal, zeros, List.find?_cons_of_pos (by simpa using range)]
  rfl

/-- The two lines of a secure channel. -/
structure ChannelLines where
  identifier : Text
  number : Text
  an : Int
  keyType : Option Char
  key : Text
  identifierToken : IsToken identifier
  filled : number ≠ []
  digits : ∀ c ∈ number, c.isDigit = true
  value : parseInt number = some an
  typeDigit : ∀ d ∈ keyType, d.isDigit = true
  keyToken : IsToken key
  /-- A key of one digit would stand where a type does. -/
  notType : keyType = none → ∀ d, key = [d] → isDecimal d = false

/-- A channel with its number 0 and a plain key. -/
def plainLines {id key : Text} (token : IsToken id) (hexKey : IsHexKey key) : ChannelLines where
  identifier := id
  number := text "0"
  an := 0
  keyType := none
  key := key
  identifierToken := token
  filled := List.cons_ne_nil '0' []
  digits := List.forall_mem_singleton.mpr rfl
  value := by decide +kernel
  typeDigit := fun _ none => by cases none
  keyToken := hexKey.token
  notType := fun _ d one => by
    have long := hexKey.long
    rw [one, List.length_singleton] at long
    omega

def ChannelLines.channel (lines : ChannelLines) : SakChannel :=
  { identifier := lines.identifier
    an := lines.an
    key := lines.key
    encrypted := lines.keyType = some '7' }

/-- The type of a key, and a blank behind it. -/
def typeText : Option Char → Text
  | none => []
  | some d => [d, ' ']

def ChannelLines.written (lines : ChannelLines) (blanks : Nat) : Text :=
  newLine blanks ++ (text "identifier " ++ (lines.identifier ++ (newLine blanks ++
    (text "an " ++ (lines.number ++ (text " key " ++ (typeText lines.keyType ++ lines.key)))))))

/-- What follows the key: its own type, if it has one. -/
def typeGroup : Option Char → List (Nat × Text)
  | none => []
  | some d => [(2, [d])]

theorem notNewline_of_visible {c : Char} (visible : isSpace c = false) : notNewline c = true := by
  rw [notNewline, bne_iff_ne]
  rintro rfl
  cases visible

/-- The ways through the optional type come before the way without it. -/
theorem runs_sakKeyRe_eq (start : Cursor) : Regex.runs sakKeyRe start =
    (Regex.runs (.seq (.many 1 isSpace) (.group 2 (.char isDecimal))) start ++ [start]).flatMap
      (Regex.runs (.seq (.many 1 isSpace) (.group 3 (.many 1 notNewline)))) := rfl

/-- The key itself. -/
theorem runs_key {key rest : Text} (token : IsToken key) (ended : Regex.Stops notNewline rest)
    (passed : Text) (groups : List (Nat × Text)) :
    ∃ others, Regex.runs (.seq (.many 1 isSpace) (.group 3 (.many 1 notNewline)))
        ⟨passed, ' ' :: (key ++ rest), groups⟩ =
      ⟨key.reverse ++ ' ' :: passed, rest, (3, key) :: groups⟩ :: others := by
  have inKey : ∀ d ∈ key, notNewline d = true := fun d member =>
    notNewline_of_visible (token.visible d member)
  obtain ⟨others, digits⟩ := runs_group_many token.filled inKey ended (' ' :: passed) groups 3
  exact Regex.runs_seq_first (runs_blank passed groups (token.stops rest)) digits

/-- Without a type, the optional one does not take the first digit of the key: the key goes
on behind it. -/
theorem runs_sakKeyRe_untyped {key rest : Text} (token : IsToken key)
    (notType : ∀ d, key = [d] → isDecimal d = false) (ended : Regex.Stops notNewline rest)
    (passed : Text) (groups : List (Nat × Text)) :
    ∃ others, Regex.runs sakKeyRe ⟨passed, ' ' :: (key ++ rest), groups⟩ =
      ⟨key.reverse ++ ' ' :: passed, rest, (3, key) :: groups⟩ :: others := by
  have typed : ∀ cursor ∈ Regex.runs (.seq (.many 1 isSpace) (.group 2 (.char isDecimal)))
      ⟨passed, ' ' :: (key ++ rest), groups⟩,
      Regex.runs (.seq (.many 1 isSpace) (.group 3 (.many 1 notNewline))) cursor = [] := by
    obtain ⟨c, tail, split⟩ := List.exists_cons_of_ne_nil token.filled
    intro cursor member
    rw [Regex.runs_seq, runs_blank passed groups (token.stops rest), List.flatMap_cons, List.flatMap_nil,
      List.append_nil, Regex.runs_group, split, List.cons_append, Regex.runs_char_cons] at member
    split at member
    · rename_i digit
      have several : tail ≠ [] := by
        rintro rfl
        rw [notType c split] at digit
        cases digit
      have second : IsToken tail :=
        ⟨several, fun d inside => token.visible d (split ▸ List.mem_cons_of_mem c inside)⟩
      rw [List.map_cons, List.map_nil, List.mem_singleton] at member
      rw [member, Regex.runs_seq, runs_many_stopped (second.stops rest), List.flatMap_nil]
    · cases member
  obtain ⟨others, plain⟩ := runs_key token ended passed groups
  refine ⟨others, ?_⟩
  rw [runs_sakKeyRe_eq, List.flatMap_append, List.flatMap_eq_nil_iff.mpr typed, List.nil_append,
    List.flatMap_cons, List.flatMap_nil, List.append_nil, plain]

theorem runs_sakKeyRe_typed {d : Char} {key rest : Text} (digit : d.isDigit = true) (token : IsToken key)
    (ended : Regex.Stops notNewline rest) (passed : Text) (groups : List (Nat × Text)) :
    ∃ others, Regex.runs sakKeyRe ⟨passed, ' ' :: d :: ' ' :: (key ++ rest), groups⟩ =
      ⟨key.reverse ++ ' ' :: d :: ' ' :: passed, rest, (3, key) :: (2, [d]) :: groups⟩ :: others := by
  have visible : Regex.Stops isSpace (d :: ' ' :: (key ++ rest)) := stops_of_head (isSpace_of_isDigit digit)
  have typed : Regex.runs (.seq (.many 1 isSpace) (.group 2 (.char isDecimal)))
      ⟨passed, ' ' :: d :: ' ' :: (key ++ rest), groups⟩ =
        [⟨d :: ' ' :: passed, ' ' :: (key ++ rest), (2, [d]) :: groups⟩] := by
    have between : Regex.between ⟨' ' :: passed, d :: ' ' :: (key ++ rest), groups⟩
        ⟨d :: ' ' :: passed, ' ' :: (key ++ rest), groups⟩ = [d] :=
      Regex.between_append (' ' :: passed) [d] _ _ groups groups
    rw [Regex.runs_seq, runs_blank passed groups visible, List.flatMap_cons, List.flatMap_nil,
      List.append_nil, Regex.runs_group, Regex.runs_char_cons, if_pos (isDecimal_of_isDigit digit),
      List.map_cons, List.map_nil, between]
  obtain ⟨others, plain⟩ := runs_key token ended (d :: ' ' :: passed) ((2, [d]) :: groups)
  rw [runs_sakKeyRe_eq, typed, List.singleton_append, List.flatMap_cons, plain]
  exact ⟨_, rfl⟩

theorem ChannelLines.runs_sakKeyRe (lines : ChannelLines) {rest : Text}
    (ended : Regex.Stops notNewline rest) (passed : Text) (groups : List (Nat × Text)) :
    ∃ finish others,
      Regex.runs sakKeyRe ⟨passed, ' ' :: (typeText lines.keyType ++ (lines.key ++ rest)), groups⟩ =
        finish :: others ∧
      finish.groups = (3, lines.key) :: (typeGroup lines.keyType ++ groups) := by
  cases type : lines.keyType with
  | none =>
      obtain ⟨others, run⟩ :=
        runs_sakKeyRe_untyped lines.keyToken (lines.notType type) ended passed groups
      exact ⟨_, others, run, rfl⟩
  | some d =>
      obtain ⟨others, run⟩ :=
        runs_sakKeyRe_typed (lines.typeDigit d type) lines.keyToken ended passed groups
      exact ⟨_, others, run, rfl⟩

/-- What follows `an` in `SAK_KEY_LINE_RE`. -/
def numberRe : Regex :=
  .seq (.many 1 isSpace) (.seq (.group 1 (.many 1 isDecimal))
    (.seq (.many 1 isSpace) (.seq (.literal (text "key")) sakKeyRe)))

theorem runs_numberRe_visible {ahead : Text} (visible : Regex.Stops isSpace ahead) (passed : Text) :
    Regex.runs numberRe ⟨passed, ahead, []⟩ = [] := by
  rw [numberRe, Regex.runs_seq, runs_many_stopped visible, List.flatMap_nil]

/-- Between an identifier and the next line there is no number. -/
theorem runs_numberRe_newLine (blanks : Nat) (passed line : Text) :
    Regex.runs numberRe ⟨passed, newLine blanks ++ 'a' :: line, []⟩ = [] := by
  have blank (c : Char) (member : c ∈ newLine blanks) : isSpace c = true ∧ isDecimal c = false := by
    rcases mem_newLine member with rfl | rfl <;> decide
  apply Regex.runs_many_then_nil passed (newLine blanks) ('a' :: line) []
    (fun c member => (blank c member).1) (stops_of_head (by decide))
  intro before after split
  have noDigit : Regex.Stops isDecimal (after ++ 'a' :: line) := by
    cases after with
    | nil => exact stops_of_head (by decide)
    | cons c after =>
        apply stops_of_head (blank c _).2
        rw [split]
        exact List.mem_append_right before List.mem_cons_self
  rw [Regex.runs_seq, Regex.runs_group, runs_many_stopped noDigit, List.map_nil, List.flatMap_nil]

/-- The white space behind an identifier is followed by a word, so an identifier that
ends in `an` starts no match. -/
theorem runs_sakKeyLineRe_identifier {after : Text} (visible : ∀ c ∈ after, isSpace c = false)
    (filled : after ≠ []) (blanks : Nat) (passed line : Text) :
    Regex.runs sakKeyLineRe ⟨passed, after ++ (newLine blanks ++ 'a' :: line), []⟩ = [] := by
  by_cases starts : text "an" <+: after ++ (newLine blanks ++ 'a' :: line)
  · obtain ⟨rest, whole⟩ := starts
    have next : Regex.runs numberRe ⟨(text "an").reverse ++ passed, rest, []⟩ = [] := by
      match after, filled with
      | [c], _ =>
          have second := congrArg (fun s => s[1]?) whole
          cases second
      | [c, d], _ =>
          have same : rest = newLine blanks ++ 'a' :: line := (List.cons.inj (List.cons.inj whole).2).2
          rw [same]
          exact runs_numberRe_newLine blanks _ _
      | c :: d :: e :: tail, _ =>
          have same : rest = e :: tail ++ (newLine blanks ++ 'a' :: line) :=
            (List.cons.inj (List.cons.inj whole).2).2
          rw [same]
          exact runs_numberRe_visible (stops_of_head (visible e (by simp))) _
    rw [← whole, sakKeyLineRe, Regex.runs_seq, Regex.runs_literal_append, List.flatMap_cons,
      List.flatMap_nil, List.append_nil]
    exact next
  · rw [sakKeyLineRe, Regex.runs_seq, Regex.runs_literal,
      if_neg (fun found => starts (List.isPrefixOf_iff_prefix.mp found)), List.flatMap_nil]

/-- The first match of `SAK_KEY_LINE_RE` is in the second line. -/
theorem ChannelLines.keyLine_search (lines : ChannelLines) (blanks : Nat) {rest : Text}
    (ended : Regex.Stops notNewline rest) :
    ∃ finish, Regex.search sakKeyLineRe (lines.written blanks ++ rest) = some finish ∧
      finish.group 1 = lines.number ∧ finish.group 2 = lines.keyType.toList ∧
        finish.group 3 = lines.key := by
  let keyed := typeText lines.keyType ++ (lines.key ++ rest)
  let numbered := text "an" ++ ' ' :: (lines.number ++ ' ' :: (text "key" ++ ' ' :: keyed))
  have shown : lines.written blanks ++ rest =
      newLine blanks ++ (text "identifier " ++ (lines.identifier ++ (newLine blanks ++ numbered))) := by
    simp only [written, numbered, keyed, List.append_assoc]
    rfl
  have first : Regex.searchFrom sakKeyLineRe [] (newLine blanks ++ (text "identifier " ++
      (lines.identifier ++ (newLine blanks ++ numbered)))) = _ :=
    searchFrom_without (notMem_newLine rfl) [] _
  have second : Regex.searchFrom sakKeyLineRe ((newLine blanks).reverse ++ []) (text "identifier " ++
      (lines.identifier ++ (newLine blanks ++ numbered))) = _ := searchFrom_without (by decide) _ _
  have third := Regex.searchFrom_passed sakKeyLineRe
    ((text "identifier ").reverse ++ ((newLine blanks).reverse ++ [])) lines.identifier
    (newLine blanks ++ numbered) (by
      intro before after split filled
      apply runs_sakKeyLineRe_identifier _ filled
      intro c member
      exact lines.identifierToken.visible c (split ▸ List.mem_append_right before member))
  have fourth : Regex.searchFrom sakKeyLineRe
      (lines.identifier.reverse ++ ((text "identifier ").reverse ++ ((newLine blanks).reverse ++ [])))
      (newLine blanks ++ numbered) = _ := searchFrom_without (notMem_newLine rfl) _ _
  generalize (newLine blanks).reverse ++ (lines.identifier.reverse ++
    ((text "identifier ").reverse ++ ((newLine blanks).reverse ++ []))) = passed at fourth
  have word : Regex.Stops isSpace (text "key" ++ ' ' :: keyed) :=
    stops_of_head (show isSpace 'k' = false by decide)
  have afterNumber : Regex.Stops isDecimal (' ' :: (text "key" ++ ' ' :: keyed)) :=
    stops_of_head (show isDecimal ' ' = false by decide)
  have number : Regex.Stops isSpace (lines.number ++ ' ' :: (text "key" ++ ' ' :: keyed)) := by
    have token : IsToken lines.number :=
      ⟨lines.filled, fun c member => isSpace_of_isDigit (lines.digits c member)⟩
    exact token.stops _
  have digits : ∀ c ∈ lines.number, isDecimal c = true := fun c member =>
    isDecimal_of_isDigit (lines.digits c member)
  let front := lines.number.reverse ++ ' ' :: ((text "an").reverse ++ passed)
  obtain ⟨finish, _, keyRun, groups⟩ := lines.runs_sakKeyRe ended ((text "key").reverse ++ ' ' :: front)
    [(1, lines.number)]
  obtain ⟨_, wordRun⟩ := Regex.runs_seq_first (Regex.runs_literal_append (text "key") (' ' :: front)
    (' ' :: keyed) [(1, lines.number)]) keyRun
  obtain ⟨_, blankRun⟩ := Regex.runs_seq_first (runs_blank front [(1, lines.number)] word) wordRun
  obtain ⟨_, digitsRun⟩ := runs_group_many lines.filled digits afterNumber
    (' ' :: ((text "an").reverse ++ passed)) [] 1
  obtain ⟨_, numberRun⟩ := Regex.runs_seq_first digitsRun blankRun
  obtain ⟨_, afterAn⟩ := Regex.runs_seq_first (runs_blank ((text "an").reverse ++ passed) [] number) numberRun
  obtain ⟨_, run⟩ := Regex.runs_seq_first (Regex.runs_literal_append (text "an") passed
    (' ' :: (lines.number ++ ' ' :: (text "key" ++ ' ' :: keyed))) []) afterAn
  have found : Regex.searchFrom sakKeyLineRe passed numbered = some finish := Regex.searchFrom_here run
  refine ⟨finish, ?_, ?_, ?_, ?_⟩
  · rw [shown]
    exact first.trans (second.trans (third.trans (fourth.trans found)))
  · rw [Cursor.group, groups]
    cases lines.keyType <;> rfl
  · rw [Cursor.group, groups]
    cases lines.keyType <;> rfl
  · rw [Cursor.group, groups]
    rfl

theorem ChannelLines.identifier_search (lines : ChannelLines) (blanks : Nat) (rest : Text) :
    ∃ finish, Regex.search identifierRe (lines.written blanks ++ rest) = some finish ∧
      finish.group 1 = lines.identifier := by
  have ended (after : Text) : Regex.Stops nonSpace (newLine blanks ++ after) := by
    intro c head
    cases head
    rfl
  have shown : lines.written blanks ++ rest = newLine blanks ++ (text "identifier " ++ (lines.identifier ++
      (newLine blanks ++ (text "an " ++ (lines.number ++ (text " key " ++ (typeText lines.keyType ++
        (lines.key ++ rest)))))))) := by
    simp only [written, List.append_assoc]
  rw [shown]
  exact StaticSak.identifier_search lines.identifierToken (ended _)

/-- What a channel's marker and its lines give. -/
theorem parseSakChannel_of_text {block direction profile before after rest : Text} (lines : ChannelLines)
    (blanks : Nat) (marked : cut (text "secure channel " ++ direction) block = some (before, after))
    (limits : (if contains (text "secure channel") after then splitHead (text "secure channel") after
      else after) = lines.written blanks ++ rest)
    (ended : Regex.Stops notNewline rest) :
    parseSakChannel block direction profile = .ok lines.channel := by
  obtain ⟨idMatch, idFound, identifier⟩ := lines.identifier_search blanks rest
  obtain ⟨keyMatch, keyFound, an, keyType, keyText⟩ := lines.keyLine_search blanks ended
  have stripped : strip lines.key = lines.key :=
    strip_eq_self (fun c head => lines.keyToken.visible c (List.mem_of_head? head))
      (fun c last => lines.keyToken.visible c (List.mem_of_getLast? last))
  have encrypted : (lines.keyType.toList = text "7") = (lines.keyType = some '7') := by
    cases lines.keyType <;> simp [text]
  rw [parseSakChannel]
  dsimp only
  rw [contains_of_cut marked, splitTail_of_cut marked, limits, idFound, keyFound]
  dsimp only
  rw [an, lines.value, identifier, keyType, keyText, stripped, ChannelLines.channel]
  simp only [encrypted]
  rfl

end QuantumSafe.StaticSak
