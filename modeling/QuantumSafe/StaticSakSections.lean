import QuantumSafe.RenderConfigs
import QuantumSafe.StaticSak
import QuantumSafe.SymbolicText

set_option autoImplicit false

/- A running-config section with static SAK profiles among other lines, and what
`parse_static_sak_profile` reads there for one of them. -/
namespace QuantumSafe.StaticSak

open PyText PyRegex SymbolicText CeosContract RenderTopo

def indented (blanks : Nat) (words : Text) : Text := List.replicate blanks ' ' ++ words

def ChannelLines.lines (channel : ChannelLines) (blanks : Nat) : List Text :=
  [ indented blanks (text "identifier " ++ channel.identifier),
    indented blanks (text "an " ++ channel.number ++ text " key " ++ typeText channel.keyType ++ channel.key) ]

/-- A profile with the lines of the templates, each indented by a number of blanks. -/
structure Stanza where
  name : Text
  rx : ChannelLines
  tx : ChannelLines
  profileIndent : Nat
  settingIndent : Nat
  channelIndent : Nat
  lineIndent : Nat
  token : IsToken name

namespace Stanza

variable (stanza : Stanza)

def header : Text := indented stanza.profileIndent (text "profile " ++ stanza.name)

def body : List Text :=
  [ indented stanza.settingIndent (text "cipher aes256-gcm-xpn"),
    indented stanza.settingIndent (text "key source sak static"),
    indented stanza.channelIndent (text "secure channel rx") ] ++
  stanza.rx.lines stanza.lineIndent ++
  [indented stanza.channelIndent (text "secure channel tx")] ++
  stanza.tx.lines stanza.lineIndent

/-- The channels written in the stanza. -/
def profile : StaticSakProfile := ⟨stanza.rx.channel, stanza.tx.channel⟩

end Stanza

/-- A line that belongs to no static SAK profile: a heading, a mark, a line of an interface
or of a profile with another key source. -/
structure OtherLine where
  line : Text
  oneLine : '\n' ∉ line
  other : contains (text "key source sak static") line = false

inductive Item where
  | profile (stanza : Stanza)
  | line (other : OtherLine)

namespace Item

def lines : Item → List Text
  | .profile stanza => stanza.header :: stanza.body
  | .line other => [other.line]

/-- A line of the item has `profile <name>` in it. -/
def mentions (name : Text) : Item → Bool
  | .profile stanza => startswith stanza.name name
  | .line other => contains (text "profile " ++ name) other.line

end Item

def sectionLines (items : List Item) : List Text := items.flatMap Item.lines

def sectionText (items : List Item) : Text := unlines (sectionLines items)

def firstMention (items : List Item) (name : Text) : Option Item := items.find? (Item.mentions name)

/- Cuts at the stop words. -/

/-- A separator is found at the start of the first line that has it. -/
theorem cut_marked {sep front : Text} (head : ∃ c ∈ sep.head?, c ≠ ' ') (single : '\n' ∉ sep.dropLast)
    (absent : contains sep (front ++ ['\n']) = false) (blanks : Nat) (after : Text) :
    cut sep (front ++ (newLine blanks ++ (sep ++ after))) = some (front ++ newLine blanks, after) := by
  rw [newLine, List.cons_append, cut_line single absent, cut_blanks head]
  rfl

theorem stopped_eq (stop block : Text) :
    (if contains stop block then splitHead stop block else block) = splitHead stop block := by
  split
  · rfl
  · rename_i absent
    exact (splitHead_of_notContains (Bool.eq_false_iff.mpr absent)).symm

/-- What the stop words leave of a text. -/
def untilStops (words : List Text) (block : Text) : Text :=
  words.foldl (fun block stop => splitHead stop block) block

theorem profileConfigBlock_of_cut {configText name before after : Text}
    (marked : cut (text "profile " ++ name) configText = some (before, after)) :
    profileConfigBlock configText name = .ok (untilStops stops after) := by
  rw [profileConfigBlock, contains_of_cut marked, splitTail_of_cut marked]
  simp only [stopped_eq, Bool.not_true, Bool.false_eq_true, if_false]
  rfl

theorem untilStops_front (words : List Text) (block : Text) : untilStops words block <+: block := by
  induction words generalizing block with
  | nil => exact List.prefix_refl block
  | cons stop words ih => exact (ih (splitHead stop block)).trans (splitHead_front stop block)

/-- Lines without stop words are left whole. -/
theorem untilStops_keeps {words : List Text} {keep tail : Text}
    (single : ∀ stop ∈ words, '\n' ∉ stop.dropLast)
    (absent : ∀ stop ∈ words, contains stop (keep ++ ['\n']) = false)
    (ended : Regex.Stops notNewline tail) :
    ∃ tail', untilStops words (keep ++ tail) = keep ++ tail' ∧ Regex.Stops notNewline tail' := by
  induction words generalizing tail with
  | nil => exact ⟨tail, rfl, ended⟩
  | cons stop words ih =>
      rw [List.forall_mem_cons] at single absent
      have step : ∃ tail', splitHead stop (keep ++ tail) = keep ++ tail' ∧ Regex.Stops notNewline tail' := by
        cases tail with
        | nil =>
            have none := notContains_of_front absent.1 (List.prefix_append keep ['\n'])
            rw [List.append_nil, splitHead_of_notContains none]
            exact ⟨[], (List.append_nil keep).symm, ended⟩
        | cons c tail =>
            have feed : c = '\n' := by simpa [notNewline] using ended c rfl
            rw [feed, splitHead_line single.1 absent.1]
            exact ⟨_, rfl, stops_of_head rfl⟩
      obtain ⟨tail', cut, ended'⟩ := step
      obtain ⟨tail'', rest, ended''⟩ := ih single.2 absent.2 ended'
      exact ⟨tail'', by rw [untilStops, List.foldl_cons, cut]; exact rest, ended''⟩

theorem stops_single : ∀ stop ∈ stops, '\n' ∉ stop.dropLast := by decide

/- The text of a stanza, its values named. -/

inductive Side where
  | rx
  | tx
deriving DecidableEq

inductive StanzaSlot where
  | name
  | setting
  | channel
  | line
  | identifier (side : Side)
  | number (side : Side)
  | keyType (side : Side)
  | key (side : Side)
deriving DecidableEq

def stanzaAllowed : StanzaSlot → Char → Bool
  | .setting, c => c == ' '
  | .channel, c => c == ' '
  | .line, c => c == ' '
  | .number _, c => c.isDigit
  | .keyType _, c => c.isDigit || c == ' '
  | _, c => !isSpace c

def writtenSymbols (side : Side) : Symbols StanzaSlot :=
  chars (text "\n") ++ slot .line ++ chars (text "identifier ") ++ slot (.identifier side) ++
    chars (text "\n") ++ slot .line ++ chars (text "an ") ++ slot (.number side) ++
    chars (text " key ") ++ slot (.keyType side) ++ slot (.key side)

/-- What follows `secure channel rx`. -/
def rxSymbols : Symbols StanzaSlot :=
  writtenSymbols .rx ++
    (chars (text "\n") ++ slot .channel ++ chars (text "secure channel tx") ++ writtenSymbols .tx)

/-- A stanza from its name on, or from a later place in its name, up to its channels. -/
def frontSymbols : Symbols StanzaSlot :=
  slot .name ++ chars (text "\n") ++ slot .setting ++ chars (text "cipher aes256-gcm-xpn") ++
    chars (text "\n") ++ slot .setting ++ chars (text "key source sak static")

def blockSymbols : Symbols StanzaSlot :=
  frontSymbols ++ chars (text "\n") ++ slot .channel ++ chars (text "secure channel rx") ++ rxSymbols

namespace Stanza

variable (stanza : Stanza)

def side : Side → ChannelLines
  | .rx => stanza.rx
  | .tx => stanza.tx

def value (name : Text) : StanzaSlot → Text
  | .name => name
  | .setting => List.replicate stanza.settingIndent ' '
  | .channel => List.replicate stanza.channelIndent ' '
  | .line => List.replicate stanza.lineIndent ' '
  | .identifier side => (stanza.side side).identifier
  | .number side => (stanza.side side).number
  | .keyType side => typeText (stanza.side side).keyType
  | .key side => (stanza.side side).key

variable {stanza}

theorem fits {name : Text} (visible : ∀ c ∈ name, isSpace c = false) :
    Fits stanzaAllowed (stanza.value name) := by
  have blank {blanks : Nat} {c : Char} (member : c ∈ List.replicate blanks ' ') : (c == ' ') = true := by
    rw [List.eq_of_mem_replicate member]
    rfl
  have shown {c : Char} (none : isSpace c = false) : (!isSpace c) = true := by
    rw [none]
    rfl
  intro slot c member
  cases slot with
  | name => exact shown (visible c member)
  | setting => exact blank member
  | channel => exact blank member
  | line => exact blank member
  | identifier side => exact shown ((stanza.side side).identifierToken.visible c member)
  | number side => exact (stanza.side side).digits c member
  | keyType side =>
      have digit := (stanza.side side).typeDigit
      simp only [value] at member
      cases type : (stanza.side side).keyType with
      | none =>
          rw [type] at member
          cases member
      | some d =>
          rw [type] at member
          rcases List.mem_cons.mp member with rfl | later
          · exact (Bool.or_eq_true _ _).mpr (Or.inl (digit c type))
          · rw [List.mem_singleton.mp later]
            rfl
  | key side => exact shown ((stanza.side side).keyToken.visible c member)

theorem fill_writtenSymbols (stanza : Stanza) (name : Text) (side : Side) :
    fill (stanza.value name) (writtenSymbols side) = (stanza.side side).written stanza.lineIndent := by
  simp only [writtenSymbols, fill_append, fill_chars, fill_slot_alone, List.append_assoc]
  rfl

/-- The lines behind a name are the stanza's text. -/
theorem unlines_body (stanza : Stanza) (name : Text) :
    unlines (name :: stanza.body) = fill (stanza.value name) blockSymbols := by
  rw [unlines_cons_after]
  simp only [blockSymbols, frontSymbols, rxSymbols, fill_append, fill_chars, fill_slot_alone, fill_writtenSymbols,
    List.append_assoc, body, ChannelLines.lines, linesAfter, List.flatMap_cons,
    List.flatMap_nil, ChannelLines.written, indented, newLine, List.cons_append, List.nil_append, List.append_nil]
  rfl

section

variable {name : Text} (visible : ∀ c ∈ name, isSpace c = false)

include visible

/-- A needle that the symbols of some lines rule out is not in the lines. -/
theorem notContains_lines (stanza : Stanza) {needle : Text} {symbols : Symbols StanzaSlot}
    (clear : mayOccur stanzaAllowed true needle (symbols ++ chars (text "\n")) = false) :
    contains needle (fill (stanza.value name) symbols ++ ['\n']) = false := by
  have fit : Fits stanzaAllowed (stanza.value name) := fits visible
  have absent := notContains_fill fit clear fun inside => by cases inside
  rw [fill_append, fill_chars] at absent
  exact absent

/-- No stop word cuts the lines of the stanza. -/
theorem untilStops_body (stanza : Stanza) {tail : Text} (ended : Regex.Stops notNewline tail) :
    ∃ tail', untilStops stops (unlines (name :: stanza.body) ++ tail) =
        unlines (name :: stanza.body) ++ tail' ∧
      Regex.Stops notNewline tail' := by
  have checked : stops.all (fun stop =>
      !mayOccur stanzaAllowed true stop (blockSymbols ++ chars (text "\n"))) = true := by
    decide +kernel
  apply untilStops_keeps stops_single _ ended
  intro stop member
  have clear := List.all_eq_true.mp checked stop member
  rw [Bool.not_eq_true'] at clear
  rw [unlines_body]
  exact notContains_lines visible stanza clear

theorem parse_rx_body (tail profile : Text) :
    parseSakChannel (unlines (name :: stanza.body) ++ tail) (text "rx") profile =
      .ok stanza.rx.channel := by
  have front : mayOccur stanzaAllowed true (text "secure channel rx")
      (frontSymbols ++ chars (text "\n")) = false := by
    decide +kernel
  have inside : mayOccur stanzaAllowed true (text "secure channel")
      (writtenSymbols .rx ++ chars (text "\n")) = false := by
    decide +kernel
  have block : unlines (name :: stanza.body) = fill (stanza.value name) frontSymbols ++
      (newLine stanza.channelIndent ++ (text "secure channel rx" ++ fill (stanza.value name) rxSymbols)) := by
    simp only [unlines_body, blockSymbols, fill_append, fill_chars, fill_slot_alone, List.append_assoc]
    rfl
  have channels : fill (stanza.value name) rxSymbols = fill (stanza.value name) (writtenSymbols .rx) ++
      (newLine stanza.channelIndent ++ (text "secure channel" ++
        (text " tx" ++ fill (stanza.value name) (writtenSymbols .tx)))) := by
    simp only [rxSymbols, fill_append, fill_chars, fill_slot_alone, List.append_assoc]
    rfl
  have marked := cut_marked ⟨'s', rfl, by decide⟩ (by decide) (notContains_lines visible stanza front)
    stanza.channelIndent (fill (stanza.value name) rxSymbols)
  have limit := cut_marked ⟨'s', rfl, by decide⟩ (by decide) (notContains_lines visible stanza inside)
    stanza.channelIndent (text " tx" ++ fill (stanza.value name) (writtenSymbols .tx))
  rw [← block] at marked
  rw [← channels] at limit
  have limited := cut_append_of_some (by decide) limit tail
  apply parseSakChannel_of_text stanza.rx stanza.lineIndent (cut_append_of_some (by decide) marked tail)
  · rw [if_pos (contains_of_cut limited), splitHead_of_cut limited, fill_writtenSymbols]
    rfl
  · exact stops_of_head rfl

theorem parse_tx_body {tail : Text} (ended : Regex.Stops notNewline tail) (profile : Text) :
    parseSakChannel (unlines (name :: stanza.body) ++ tail) (text "tx") profile =
      .ok stanza.tx.channel := by
  have front : mayOccur stanzaAllowed true (text "secure channel tx")
      (frontSymbols ++ chars (text "\n") ++ slot .channel ++ chars (text "secure channel rx") ++
        writtenSymbols .rx ++ chars (text "\n")) = false := by
    decide +kernel
  have inside : mayOccur stanzaAllowed true (text "secure channel")
      (writtenSymbols .tx ++ chars (text "\n")) = false := by
    decide +kernel
  have block : unlines (name :: stanza.body) = fill (stanza.value name) (frontSymbols ++
      chars (text "\n") ++ slot .channel ++ chars (text "secure channel rx") ++ writtenSymbols .rx) ++
      (newLine stanza.channelIndent ++ (text "secure channel tx" ++
        fill (stanza.value name) (writtenSymbols .tx))) := by
    simp only [unlines_body, blockSymbols, rxSymbols, fill_append, fill_chars, fill_slot_alone,
      List.append_assoc]
    rfl
  have marked := cut_marked ⟨'s', rfl, by decide⟩ (by decide) (notContains_lines visible stanza front)
    stanza.channelIndent (fill (stanza.value name) (writtenSymbols .tx))
  have absent := notContains_lines visible stanza inside
  have single : ∀ stop ∈ [text "secure channel"], '\n' ∉ stop.dropLast := by decide
  obtain ⟨tail', limit, ended'⟩ := untilStops_keeps single (List.forall_mem_singleton.mpr absent) ended
  rw [← block] at marked
  rw [fill_writtenSymbols] at limit
  apply parseSakChannel_of_text stanza.tx stanza.lineIndent (cut_append_of_some (by decide) marked tail) _
    ended'
  rw [stopped_eq, fill_writtenSymbols]
  exact limit

/-- Where the stanza's text begins behind the first mention of a profile, its channels are
read. -/
theorem parseStaticSakProfile_of_mention {configText profile before tail : Text}
    (marked : cut (text "profile " ++ profile) configText =
      some (before, unlines (name :: stanza.body) ++ tail))
    (ended : Regex.Stops notNewline tail) :
    parseStaticSakProfile configText profile = .ok stanza.profile := by
  obtain ⟨tail', block, ended'⟩ := untilStops_body visible stanza ended
  have source : occurs (chars (text "key source sak static")) blockSymbols = true := by decide +kernel
  have cipher : occurs (chars (text "cipher aes256-gcm-xpn")) blockSymbols = true := by decide +kernel
  have hasSource := contains_fill (stanza.value name) source
  have hasCipher := contains_fill (stanza.value name) cipher
  rw [fill_chars, ← unlines_body] at hasSource hasCipher
  rw [parseStaticSakProfile, profileConfigBlock_of_cut marked, block]
  simp only [bind, Except.bind, contains_append_right tail' hasSource, contains_append_right tail' hasCipher,
    Bool.not_true, Bool.false_eq_true, if_false, parse_rx_body visible, parse_tx_body visible ended']
  rfl

end

end Stanza

/- The first mention of a profile. -/

section

variable {name : Text}

/-- A header mentions the names that its own begins with. -/
theorem prefix_of_contains_header {stanza : Stanza}
    (found : contains (text "profile " ++ name) stanza.header = true) : name <+: stanza.name := by
  obtain ⟨before, after, split⟩ := (contains_iff _ _).mp found
  have whole : List.replicate stanza.profileIndent ' ' ++ 'p' :: (text "rofile " ++ stanza.name) =
      before ++ 'p' :: (text "rofile " ++ (name ++ after)) := by
    rw [← show before ++ (text "profile " ++ name) ++ after =
      before ++ 'p' :: (text "rofile " ++ (name ++ after)) by simp [text]]
    exact split.symm
  rcases List.append_eq_append_iff.mp whole with ⟨more, same, rest⟩ | ⟨more, same, rest⟩
  · cases more with
    | nil =>
        have behind := (List.cons.inj rest).2
        rw [List.append_cancel_left_eq] at behind
        exact ⟨after, behind.symm⟩
    | cons c more =>
        -- A later `profile ` would have its blank in the name.
        have behind := (List.cons.inj rest).2
        have blank : ' ' ∈ stanza.name := by
          rcases List.append_eq_append_iff.mp behind with ⟨inside, -, later⟩ | ⟨inside, early, later⟩
          · rw [later]
            simp [text]
          · cases inside with
            | nil =>
                rw [← List.nil_append stanza.name, ← later]
                simp [text]
            | cons d inside =>
                have letter : 'p' ∈ text "rofile " := by
                  rw [early, ← (List.cons.inj later).1]
                  simp
                exact absurd letter (by decide)
        have visible := stanza.token.visible ' ' blank
        cases visible
  · cases more with
    | nil =>
        have behind := (List.cons.inj rest).2
        rw [List.append_cancel_left_eq] at behind
        exact ⟨after, behind⟩
    | cons c more =>
        have letter : 'p' ∈ List.replicate stanza.profileIndent ' ' := by
          rw [same, ← (List.cons.inj rest).1]
          simp
        have blank : 'p' = ' ' := List.eq_of_mem_replicate letter
        cases blank

theorem notContains_body (stanza : Stanza) :
    ∀ line ∈ stanza.body, contains (text "profile ") line = false := by
  have clear : mayOccur stanzaAllowed true (text "profile ") (blockSymbols ++ chars (text "\n")) = false := by
    decide +kernel
  have visible : ∀ c ∈ ([] : Text), isSpace c = false := by simp
  have absent := Stanza.notContains_lines visible stanza clear
  have lines := notContains_of_front absent (List.prefix_append _ _)
  rw [← Stanza.unlines_body, contains_unlines (by decide) (by decide), List.any_eq_false] at lines
  intro line member
  exact Bool.eq_false_iff.mpr (lines line (List.mem_cons_of_mem _ member))

/-- An item that does not mention the name has it in no line. -/
theorem notContains_lines_of_silent {item : Item} (silent : item.mentions name = false) :
    ∀ line ∈ item.lines, contains (text "profile " ++ name) line = false := by
  cases item with
  | line other =>
      intro line member
      rw [List.mem_singleton.mp member]
      exact silent
  | profile stanza =>
      rw [Item.lines, List.forall_mem_cons]
      constructor
      · rw [Bool.eq_false_iff]
        intro found
        rw [Item.mentions, (startswith_iff _ _).mpr (prefix_of_contains_header found)] at silent
        cases silent
      · intro line member
        have absent := notContains_body stanza line member
        rw [Bool.eq_false_iff] at absent ⊢
        intro found
        have longer := (contains_iff _ _).mp found
        exact absent ((contains_iff _ _).mpr
          ((List.prefix_append (text "profile ") name).isInfix.trans longer))

theorem oneLine_marker (token : IsToken name) : '\n' ∉ text "profile " ++ name := by
  rw [List.mem_append, not_or]
  refine ⟨by decide, ?_⟩
  intro inside
  have visible := token.visible '\n' inside
  cases visible

/-- The text in front of the first item that mentions the name does not count. -/
theorem cut_mention (token : IsToken name) {before : List Item} (after : List Item) {item : Item} {line : Text}
    {lines : List Text} (shown : item.lines = line :: lines)
    (silent : ∀ earlier ∈ before, earlier.mentions name = false) :
    cut (text "profile " ++ name) (sectionText (before ++ item :: after)) =
      (cut (text "profile " ++ name) (line ++ linesAfter (lines ++ sectionLines after))).map fun parts =>
        (linesBefore (sectionLines before) ++ parts.1, parts.2) := by
  have absent : ∀ line ∈ sectionLines before, contains (text "profile " ++ name) line = false := by
    intro line member
    obtain ⟨earlier, inside, member⟩ := List.mem_flatMap.mp member
    exact notContains_lines_of_silent (silent earlier inside) line member
  have split : sectionLines (before ++ item :: after) =
      sectionLines before ++ line :: (lines ++ sectionLines after) := by
    rw [sectionLines, List.flatMap_append, List.flatMap_cons, shown]
    rfl
  rw [sectionText, split, unlines_around, cut_linesBefore (oneLine_marker token) (by simp [text]) absent]

/-- If the first mention is a profile whose name begins so, that profile is read. -/
theorem parse_of_profile (token : IsToken name) {before after : List Item} {stanza : Stanza}
    (silent : ∀ earlier ∈ before, earlier.mentions name = false)
    (mention : (Item.profile stanza).mentions name = true) :
    parseStaticSakProfile (sectionText (before ++ .profile stanza :: after)) name = .ok stanza.profile := by
  obtain ⟨more, longer⟩ := (startswith_iff _ _).mp mention
  have header : stanza.header ++ linesAfter (stanza.body ++ sectionLines after) =
      List.replicate stanza.profileIndent ' ' ++ ((text "profile " ++ name) ++
        (unlines (more :: stanza.body) ++ linesAfter (sectionLines after))) := by
    rw [Stanza.header, indented, ← longer, unlines_cons_after]
    simp [linesAfter]
  have marked := cut_mention token after (show (Item.profile stanza).lines = _ from rfl) silent
  rw [header, cut_blanks ⟨'p', rfl, by decide⟩, Option.map_some] at marked
  have visible : ∀ c ∈ more, isSpace c = false := by
    intro c member
    apply stanza.token.visible c
    rw [← longer]
    exact List.mem_append_right name member
  apply Stanza.parseStaticSakProfile_of_mention visible marked
  intro c head
  rw [head?_linesAfter head]
  rfl

/-- Up to the next `profile `, the lines say nothing of a static SAK: a stanza begins with its
header. -/
theorem notContains_source (items : List Item) {first : Text}
    (free : contains (text "key source sak static") first = false) :
    contains (text "key source sak static")
      (splitHead (text "profile ") (first ++ linesAfter (sectionLines items))) = false := by
  induction items generalizing first with
  | nil =>
      rw [sectionLines, List.flatMap_nil, linesAfter, List.flatMap_nil, List.append_nil]
      exact notContains_of_front free (splitHead_front _ first)
  | cons item items ih =>
      cases found : cut (text "profile ") first with
      | some parts =>
          have here := cut_append_of_some (by decide) found (linesAfter (sectionLines (item :: items)))
          rw [splitHead_of_cut here, ← splitHead_of_cut found]
          exact notContains_of_front free (splitHead_front _ first)
      | none =>
          have absent := notContains_line (by decide) (by decide) (cut_eq_none_iff.mp found)
          cases item with
          | line other =>
              have next : linesAfter (sectionLines (.line other :: items)) =
                  '\n' :: (other.line ++ linesAfter (sectionLines items)) := rfl
              rw [next, splitHead_line (by decide) absent, contains_append_cons _ _ (by decide), free,
                ih other.other]
              rfl
          | profile stanza =>
              have next : linesAfter (sectionLines (.profile stanza :: items)) =
                  '\n' :: (List.replicate stanza.profileIndent ' ' ++ (text "profile " ++
                    (stanza.name ++ linesAfter (stanza.body ++ sectionLines items)))) := by
                simp [sectionLines, Item.lines, linesAfter, Stanza.header, indented]
              have blank : contains (text "key source sak static")
                  (List.replicate stanza.profileIndent ' ') = false := by
                apply notContains_of_notMem (show 'k' ∈ text "key source sak static" by decide)
                intro inside
                have same : 'k' = ' ' := List.eq_of_mem_replicate inside
                cases same
              rw [next, splitHead_line (by decide) absent, contains_append_cons _ _ (by decide), free,
                splitHead_of_cut (cut_blanks ⟨'p', rfl, by decide⟩ _ _), blank]
              rfl

/-- If the first mention is any other line, the static SAK is missed. -/
theorem parse_of_line (token : IsToken name) {before after : List Item} {other : OtherLine}
    (silent : ∀ earlier ∈ before, earlier.mentions name = false)
    (mention : (Item.line other).mentions name = true) :
    parseStaticSakProfile (sectionText (before ++ .line other :: after)) name =
      .error (.expected name (text "key source sak static")) := by
  have marked := cut_mention token after (show (Item.line other).lines = _ from rfl) silent
  cases found : cut (text "profile " ++ name) other.line with
  | none =>
      have absent := cut_eq_none_iff.mp found
      rw [Item.mentions, absent] at mention
      cases mention
  | some parts =>
      obtain ⟨front, back⟩ := parts
      rw [cut_append_of_some (by simp [text]) found, Option.map_some, List.nil_append] at marked
      have free : contains (text "key source sak static") back = false := by
        rw [Bool.eq_false_iff]
        intro inside
        have whole := contains_append_left (front ++ (text "profile " ++ name)) inside
        rw [← cut_eq_some found, other.other] at whole
        cases whole
      have absent : contains (text "key source sak static")
          (untilStops stops (back ++ linesAfter (sectionLines after))) = false :=
        notContains_of_front (notContains_source after free) (untilStops_front stops.tail _)
      rw [parseStaticSakProfile, profileConfigBlock_of_cut marked]
      simp only [bind, Except.bind, absent, Bool.not_false, if_true]

end

/-- A profile's own channels are read iff the first line that has `profile <name>` in it is
the header of a static SAK profile with these channels. -/
theorem parsesConfigured_iff {items : List Item} {stanza : Stanza}
    (configured : .profile stanza ∈ items) :
    parseStaticSakProfile (sectionText items) stanza.name = .ok stanza.profile ↔
      ∃ found, firstMention items stanza.name = some (.profile found) ∧
        found.profile = stanza.profile := by
  have token := stanza.token
  cases mention : firstMention items stanza.name with
  | none =>
      have silent := List.find?_eq_none.mp mention _ configured
      rw [Item.mentions, startswith_iff] at silent
      exact absurd (List.prefix_refl stanza.name) silent
  | some item =>
      obtain ⟨here, before, after, rfl, earlier⟩ := List.find?_eq_some_iff_append.mp mention
      have silent : ∀ item ∈ before, item.mentions stanza.name = false := by
        intro item member
        simpa using earlier item member
      cases item with
      | profile found =>
          rw [parse_of_profile token silent here]
          constructor
          · intro same
            exact ⟨found, rfl, Except.ok.inj same⟩
          · rintro ⟨other, same, channels⟩
            cases same
            rw [channels]
      | line other =>
          rw [parse_of_line token silent here]
          apply iff_of_false
          · intro same
            cases same
          · rintro ⟨found, same, -⟩
            cases same

/- The profile of `ceos1-both`, and the interface that uses it. -/

def masterStanza : Stanza where
  name := quadraMacsecProfileMaster
  rx := @plainLines quadraScRxId quadraKeyRx ⟨by decide, visible_of_all (by decide)⟩
    ⟨by decide, List.all_eq_true.mp (by decide)⟩
  tx := @plainLines quadraScTxId quadraKeyTx ⟨by decide, visible_of_all (by decide)⟩
    ⟨by decide, List.all_eq_true.mp (by decide)⟩
  profileIndent := 3
  settingIndent := 6
  channelIndent := 6
  lineIndent := 9
  token := ⟨by decide, visible_of_all (by decide)⟩

/-- A second profile, whose name begins with that of the first. -/
def backupStanza : Stanza :=
  { masterStanza with
    name := quadraMacsecProfileMaster ++ text "-2"
    rx := masterStanza.tx
    tx := masterStanza.rx
    token := ⟨by decide, visible_of_all (by decide)⟩ }

def useLine : OtherLine :=
  ⟨text "   mac security profile " ++ quadraMacsecProfileMaster, by decide, by decide⟩

theorem parsesConfigured_iff_profileFirst :
    parseStaticSakProfile (sectionText [.profile masterStanza, .profile backupStanza, .line useLine])
      masterStanza.name = .ok masterStanza.profile :=
  (parsesConfigured_iff List.mem_cons_self).mpr ⟨masterStanza, rfl, rfl⟩

def names (items : List Item) : List Text :=
  items.filterMap fun item =>
    match item with
    | .profile stanza => some stanza.name
    | .line _ => none

/-- The line of the interface comes first, so the block that is read is the rest of the
interface. -/
theorem not_parsesConfigured_interfaceFirst :
    ¬ ∀ (items : List Item) (stanza : Stanza), (names items).Nodup → .profile stanza ∈ items →
      parseStaticSakProfile (sectionText items) stanza.name = .ok stanza.profile := by
  intro parses
  let interface : OtherLine := ⟨text "interface Ethernet2", by decide, by decide⟩
  let heading : OtherLine := ⟨text "mac security", by decide, by decide⟩
  have read := parses [.line interface, .line useLine, .line heading, .profile masterStanza,
    .profile backupStanza] masterStanza (by decide) (by simp)
  have missed := @parse_of_line masterStanza.name masterStanza.token [.line interface]
    [.line heading, .profile masterStanza, .profile backupStanza] useLine (by decide) (by decide)
  rw [List.singleton_append] at missed
  rw [missed] at read
  cases read

end QuantumSafe.StaticSak
