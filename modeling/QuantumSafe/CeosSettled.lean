import QuantumSafe.CeosSymbolic
import QuantumSafe.KeyGroups
import QuantumSafe.SyslogCleartext

set_option autoImplicit false

/- The checks that are no single search for a text: which of them the lines of a
configuration settle for every pair of subnets. -/
namespace QuantumSafe.CeosContract

open PyText PyRegex SymbolicText SyslogChecks

def radiusHost : Text := text "radius-server host "

/-- A RADIUS server of the line has the IPv6 address, and there is only one. -/
def ipv6Host (line : FString) : Bool :=
  !mayOccur mgmtAllowed true radiusHost line ||
    (startsWith line (chars radiusHost ++ (slot (.ip6 .radius) ++ lit " ")) &&
      !mayOccur mgmtAllowed true radiusHost line.tail)

/-- The key-establishment groups stand in lines without slots. -/
def keyGroupsSettled (ceos : Ceos) (lines : List FString) : Bool :=
  match (securityPart lines).bind (List.mapM literalText) with
  | some (first :: rest) =>
      (first :: rest).all (fun line => !line.contains '\n') &&
        (stanzas profileHeader (first :: rest)).all fun stanza =>
          (profileErrors ceos stanza.name (unlines stanza.body)).isEmpty
  | _ => false

/-- A line in lower case, with its slots left open. -/
def lowerLine (line : FString) : FString :=
  line.flatMap fun symbol =>
    match symbol with
    | .char c => chars (lowerChar c)
    | .slot name => slot name

/-- What remains of the class of a management value in lower case. -/
def lowerAllowed (_ : MgmtValue) (c : Char) : Bool := nonSpace c

/-- The line starts, behind blanks, with a character other than that of `logging`. -/
def otherWord (line : FString) : Bool :=
  match line.dropWhile isBlank with
  | .char c :: _ => nonSpace c && c != 'l'
  | _ => false

/-- The line, which starts and ends with visible characters, names TLS and not UDP. -/
def tlsHost (line : FString) : Bool :=
  match line.head?, line.getLast? with
  | some (.char first), some (.char last) =>
      nonSpace first && nonSpace last && occurs (chars (text "protocol tls")) (lowerLine line) &&
        !mayOccur lowerAllowed true (text "protocol udp") (lowerLine line)
  | _, _ => false

/-- No character of the line ends it. -/
def unbrokenLine (line : FString) : Bool :=
  line.all fun symbol =>
    match symbol with
    | .char c => !isLineBreak c
    | .slot _ => true

/-- The line is no cleartext syslog line. -/
def cleartextSettled (line : FString) : Bool :=
  unbrokenLine line && ((literalText line).any (fun s => (cleartextLine s).isNone) || otherWord line ||
    tlsHost line)

/-- `^\s+word\s*$` on a line of its own, for a word without blanks around it. -/
def linePattern (word : Text) : Regex :=
  .seq .lineStart (.seq (.many 1 isSpace) (.seq (.literal word) (.seq (.many 0 isSpace) .lineEnd)))

/-- The word stands alone on an indented line. -/
def indentedLine (word : Text) (lines : List FString) : Bool := lines.contains (chars (text "   " ++ word))

/-- Two lines, one right after the other. -/
def adjacent (first second : FString) : List FString → Bool
  | line :: next :: rest => (line == first && next == second) || adjacent first second (next :: rest)
  | _ => false

def sshTail (lines : List FString) : Option (List FString) := tailLines (text "management ssh") lines

def sshSettled (lines : List FString) : Bool :=
  indentedLine (text "cipher " ++ sshPqcCiphers) lines &&
    (sshTail lines).any fun tail =>
      adjacent (chars (text "   vrf MGMT")) (chars (text "      no shutdown")) tail &&
        indentedLine (text "shutdown") tail.tail

/-- The checks that search for one text, whatever it is. -/
def searchChecks (ceos : Ceos) : List Check :=
  addressChecks ceos ++ [radsecServer] ++ tlsChecks ++ forwardingChecks ++ serviceChecks ceos ++
    [sshMac] ++ linkChecks ceos

def Check.searchSettled (lines : List FString) : Check → Bool
  | .rule needed => needed.settled lines
  | .found _ _ | .keyGroups | .cleartext => false

/-- The lines of a file settle every check of a switch. -/
def configSettled (ceos : Ceos) (lines : List FString) : Bool :=
  let file := lines ++ [[]]
  (searchChecks ceos).all (Check.searchSettled file) && file.all ipv6Host && keyGroupsSettled ceos file &&
    lines.all cleartextSettled && sshSettled file

section

variable {values : MgmtValues} (sound : SoundValues values)
include sound

theorem space_notMem {c : Char} (space : isSpace c = true) (name : MgmtValue) : c ∉ values name := by
  intro inside
  have held := sound.fits name c inside
  rw [mgmtAllowed_space space name] at held
  cases held

theorem colon_notMem_ip (node : LabNode) : ':' ∉ values (.ip node) := by
  intro inside
  have held := sound.fits (.ip node) ':' inside
  rw [mgmtAllowed] at held
  exact absurd held (by decide)

/-- The text in front of an IPv4 address occurs only in front of the IPv6 one. -/
theorem ipv6Host_sound {line : FString} (clear : ipv6Host line = true) :
    contains (radiusHost ++ (values (.ip .radius) ++ text " vrf MGMT")) (fill values line) = false := by
  have never (symbols : FString) (absent : mayOccur mgmtAllowed true radiusHost symbols = false) :
      ¬ radiusHost <:+: fill values symbols := by
    rw [← contains_iff, notContains_fill sound.fits absent fun inside => by cases inside]
    decide
  rw [Bool.eq_false_iff, ne_eq, contains_iff]
  intro found
  have front := (List.prefix_append radiusHost _).isInfix.trans found
  rw [ipv6Host, Bool.or_eq_true, Bool.and_eq_true, Bool.not_eq_true', Bool.not_eq_true'] at clear
  rcases clear with absent | ⟨starts, absent⟩
  · exact never line absent front
  · obtain ⟨after, whole⟩ := (startsWith_iff _ _).mp starts
    subst whole
    have later := never _ absent
    have split : fill values (chars radiusHost ++ (slot (.ip6 .radius) ++ lit " ") ++ after) =
        radiusHost ++ (values (.ip6 .radius) ++ ' ' :: fill values after) := by
      simp only [fill_append, fill_chars, fill_slot_alone, lit, List.append_assoc]
      rfl
    rw [split] at found
    rcases List.infix_cons_iff.mp found with here | inside
    · obtain ⟨rest, same⟩ := (List.prefix_append_right_inj radiusHost).mp here
      have blank : isSpace ' ' = true := by decide
      rw [List.append_assoc] at same
      have address := (upTo_unique (space_notMem sound blank (.ip .radius))
        (space_notMem sound blank (.ip6 .radius)) same).1
      exact colon_notMem_ip sound .radius (address ▸ sound.colon .radius)
    · apply later
      have tail : fill values (chars radiusHost ++ (slot (MgmtValue.ip6 .radius) ++ lit " ") ++ after).tail =
          text "adius-server host " ++ (values (.ip6 .radius) ++ ' ' :: fill values after) :=
        congrArg List.tail split
      rw [tail]
      exact (List.prefix_append radiusHost _).isInfix.trans inside

theorem legacy_settled {ceos : Ceos} {lines : List FString} (clear : lines.all ipv6Host = true) :
    legacyRadsecServer.errors values ceos (configText values lines) = [] := by
  have needle : fill values (lit "radius-server host " ++ slot (.ip .radius) ++ lit " vrf MGMT") =
      radiusHost ++ (values (.ip .radius) ++ text " vrf MGMT") := by
    simp only [fill_append, fill_slot_alone, List.append_assoc, lit, fill_chars]
    rfl
  have oneLine : '\n' ∉ radiusHost ++ (values (.ip .radius) ++ text " vrf MGMT") := by
    simp only [List.mem_append, not_or]
    have feed : isSpace '\n' = true := by decide
    exact ⟨by decide, space_notMem sound feed (.ip .radius), by decide⟩
  have absent : contains (radiusHost ++ (values (.ip .radius) ++ text " vrf MGMT"))
      (configText values lines) = false := by
    rw [contains_unlines oneLine (by simp [radiusHost, text]), List.any_map, List.any_eq_false]
    intro line member
    simp only [Function.comp_apply]
    rw [ipv6Host_sound sound (List.all_eq_true.mp clear line member)]
    decide
  rw [legacyRadsecServer, forbids, Check.errors, Rule.errors, needle, Scope.part, absent, if_pos rfl]

omit sound in
theorem literalLines_sound {lines : List FString} {texts : List Text}
    (literal : lines.mapM literalText = some texts) : lines.map (fill values) = texts := by
  induction lines generalizing texts with
  | nil =>
      cases literal
      rfl
  | cons line rest ih =>
      rw [List.mapM_cons] at literal
      obtain ⟨first, literalFirst, literal⟩ := Option.bind_eq_some_iff.mp literal
      obtain ⟨later, literalLater, same⟩ := Option.bind_eq_some_iff.mp literal
      cases same
      rw [List.map_cons, literalText_sound literalFirst, ih literalLater]

theorem keyGroups_settled {ceos : Ceos} {lines : List FString}
    (clear : keyGroupsSettled ceos lines = true) :
    keyGroupErrors ceos (configText values lines) = [] := by
  rw [keyGroupsSettled] at clear
  split at clear
  · rename_i first rest found
    obtain ⟨part, foundPart, literal⟩ := Option.bind_eq_some_iff.mp found
    rw [Bool.and_eq_true, List.all_eq_true, List.all_eq_true] at clear
    have oneLine : ∀ line ∈ first :: rest, '\n' ∉ line := fun line member => by
      simpa using clear.1 line member
    have split : (security (configText values lines)).splitOn '\n' = first :: rest := by
      rw [securityPart_sound sound foundPart, configText, literalLines_sound literal]
      exact List.splitOn_intercalate '\n' oneLine (by simp)
    rw [keyGroupErrors_eq, profiles, split, List.flatMap_eq_nil_iff]
    intro stanza member
    simpa using clear.2 stanza member
  · cases clear

theorem fits_lower : Fits lowerAllowed fun name => lower (values name) := by
  intro name c inside
  obtain ⟨d, member, inside⟩ := List.mem_flatMap.mp inside
  have visible : isSpace d = false := by
    by_contra space
    exact space_notMem sound (Bool.not_eq_false _ |>.mp space) name member
  simp [lowerAllowed, nonSpace, isSpace_lowerChar visible inside]

omit sound in
theorem fill_lowerLine (line : FString) :
    fill (fun name => lower (values name)) (lowerLine line) = lower (fill values line) := by
  induction line with
  | nil => rfl
  | cons symbol rest ih =>
      cases symbol with
      | char c =>
          rw [lowerLine, List.flatMap_cons, fill_append, fill_chars, fill_char, lower, List.flatMap_cons]
          exact congrArg _ ih
      | slot name =>
          have split : lower (values name ++ fill values rest) =
              lower (values name) ++ lower (fill values rest) := List.flatMap_append
          rw [lowerLine, List.flatMap_cons, fill_append, fill_slot_alone, fill_slot, split]
          exact congrArg _ ih

theorem unbrokenLine_sound {line : FString} (unbroken : unbrokenLine line = true) :
    Unbroken (fill values line) := by
  intro c inside
  obtain ⟨symbol, member, inside⟩ := List.mem_flatMap.mp inside
  have kept := List.all_eq_true.mp unbroken symbol member
  cases symbol with
  | char d =>
      rw [List.mem_singleton.mp inside]
      simpa using kept
  | slot name =>
      by_contra breaks
      have space := isSpace_of_isLineBreak c (Bool.not_eq_false _ |>.mp breaks)
      exact space_notMem sound space name inside

omit sound in
theorem otherWord_sound {line : FString} (other : otherWord line = true) :
    cleartextLine (fill values line) = none := by
  apply cleartextLine_of_not_logging
  rw [otherWord] at other
  split at other
  · rename_i c rest behind
    rw [Bool.and_eq_true, nonSpace, Bool.not_eq_true', bne_iff_ne] at other
    have whole : line.takeWhile isBlank ++ line.dropWhile isBlank = line :=
      List.takeWhile_append_dropWhile
    rw [behind] at whole
    have blank : ∀ d ∈ fill values (line.takeWhile isBlank), isSpace d = true := by
      intro d inside
      obtain ⟨symbol, member, inside⟩ := List.mem_flatMap.mp inside
      have blank : isBlank symbol = true := List.mem_takeWhile_imp member
      obtain rfl := (Symbol.same_iff symbol (.char ' ')).mp blank
      rw [List.mem_singleton.mp inside]
      decide
    obtain ⟨after, stripped⟩ := strip_front (s := fill values rest) blank other.1
    rw [← whole, fill_append, fill_char, stripped]
    have differs : ('l' == c) = false := beq_false_of_ne (Ne.symm other.2)
    simp [startswith, text, List.isPrefixOf, differs]
  · cases other

theorem tlsHost_sound {line : FString} (tls : tlsHost line = true) :
    cleartextLine (fill values line) = none := by
  rw [tlsHost] at tls
  split at tls
  · rename_i first last starts ends
    simp only [Bool.and_eq_true, nonSpace, Bool.not_eq_true'] at tls
    obtain ⟨⟨⟨visible, visibleLast⟩, present⟩, absent⟩ := tls
    have kept : strip (fill values line) = fill values line := by
      apply strip_eq_self
      · intro c head
        obtain ⟨rest, rfl⟩ := List.head?_eq_some_iff.mp starts
        rw [fill_char, List.head?_cons] at head
        cases head
        exact visible
      · intro c end_
        obtain ⟨front, rfl⟩ := List.getLast?_eq_some_iff.mp ends
        rw [fill_append, fill_char, fill_nil, List.getLast?_concat] at end_
        cases end_
        exact visibleLast
    have named := contains_fill (fun name => lower (values name)) present
    have unnamed := notContains_fill (fits_lower sound) absent fun inside => by cases inside
    rw [fill_lowerLine, fill_chars] at named
    rw [fill_lowerLine] at unnamed
    rw [Option.eq_none_iff_forall_not_mem]
    intro reported member
    obtain ⟨same, -, branch⟩ := (cleartextLine_eq_some _ _).mp member
    rw [kept] at same
    rw [← same, named, unnamed] at branch
    simp at branch
  · cases tls

theorem cleartextSettled_sound {line : FString} (clear : cleartextSettled line = true) :
    Unbroken (fill values line) ∧ cleartextLine (fill values line) = none := by
  simp only [cleartextSettled, Bool.and_eq_true, Bool.or_eq_true] at clear
  refine ⟨unbrokenLine_sound sound clear.1, ?_⟩
  rcases clear.2 with (literal | other) | tls
  · obtain ⟨s, known, none⟩ := (Option.any_eq_true _ _).mp literal
    rw [literalText_sound known]
    simpa using none
  · exact otherWord_sound other
  · exact tlsHost_sound sound tls

/-- No line of a configuration forwards syslog without TLS. -/
theorem cleartext_settled {ceos : Ceos} {lines : List FString} (clear : lines.all cleartextSettled = true) :
    cleartextErrors ceos (configText values (lines ++ [[]])) = [] := by
  have settled (line : Text) (member : line ∈ lines.map (fill values)) :
      Unbroken line ∧ cleartextLine line = none := by
    obtain ⟨symbols, inside, rfl⟩ := List.mem_map.mp member
    exact cleartextSettled_sound sound (List.all_eq_true.mp clear symbols inside)
  have split : splitlines (configText values (lines ++ [[]])) = lines.map (fill values) := by
    rw [configText, List.map_append]
    exact splitlines_unlines _ fun line member => (settled line member).1
  rw [cleartextErrors_eq_nil, cleartextSyslogLines, split, List.filterMap_eq_nil_iff]
  intro line member
  exact (settled line member).2

omit sound in
theorem atLineStart_linesBefore (before : List Text) {passed : Text}
    (start : Regex.atLineStart passed = true) :
    Regex.atLineStart ((linesBefore before).reverse ++ passed) = true := by
  induction before using List.reverseRecOn with
  | nil => exact start
  | append_singleton before line ih => simp [linesBefore, Regex.atLineStart]

omit sound in
theorem atLineEnd_linesAfter (after : List Text) : Regex.atLineEnd (linesAfter after) = true := by
  cases after <;> simp [linesAfter, Regex.atLineEnd]

omit sound in
/-- A pattern for one line matches at a line of its own. -/
theorem runs_linePattern (word : Text) {passed after : Text} (start : Regex.atLineStart passed = true)
    (ends : Regex.atLineEnd after = true) :
    ⟨word.reverse ++ ((text "   ").reverse ++ passed), after, []⟩ ∈
      Regex.runs (linePattern word) ⟨passed, text "   " ++ (word ++ after), []⟩ := by
  have indent : ∀ c ∈ text "   ", isSpace c = true := List.all_eq_true.mp rfl
  have atStart : ⟨passed, text "   " ++ (word ++ after), []⟩ ∈
      Regex.runs .lineStart ⟨passed, text "   " ++ (word ++ after), []⟩ := by
    rw [Regex.runs, if_pos start]
    exact List.mem_singleton_self _
  have atEnd (passed : Text) : ⟨passed, after, []⟩ ∈ Regex.runs .lineEnd ⟨passed, after, []⟩ := by
    rw [Regex.runs, if_pos ends]
    exact List.mem_singleton_self _
  have blanks : ⟨(text "   ").reverse ++ passed, word ++ after, []⟩ ∈
      Regex.runs (.many 1 isSpace) ⟨passed, text "   " ++ (word ++ after), []⟩ :=
    Regex.mem_runs_many passed (text "   ") (word ++ after) [] indent (by decide)
  have noBlanks (passed : Text) : ⟨passed, after, []⟩ ∈
      Regex.runs (.many 0 isSpace) ⟨passed, after, []⟩ :=
    Regex.mem_runs_many passed [] after [] (by simp) (by simp)
  exact Regex.mem_runs_seq atStart (Regex.mem_runs_seq blanks
    (Regex.mem_runs_seq (Regex.mem_runs_literal word _ after []) (Regex.mem_runs_seq (noBlanks _) (atEnd _))))

omit sound in
/-- The word of an indented line is found after any text that ends a line. -/
theorem indentedLine_sound {word : Text} {lines : List FString} (known : indentedLine word lines = true) :
    ∃ before after, configText values lines = linesBefore before ++ (text "   " ++ (word ++ after)) ∧
      Regex.atLineEnd after = true := by
  obtain ⟨before, after, rfl⟩ := List.append_of_mem (List.contains_iff_mem.mp known)
  refine ⟨before.map (fill values), linesAfter (after.map (fill values)), ?_, atLineEnd_linesAfter _⟩
  rw [configText, List.map_append, List.map_cons, fill_chars, unlines_around, List.append_assoc]

omit sound in
theorem adjacent_sound {first second : FString} {lines : List FString}
    (known : adjacent first second lines = true) :
    ∃ before after, lines = before ++ first :: second :: after := by
  fun_induction adjacent first second lines with
  | case1 line next rest ih =>
      rcases Bool.or_eq_true _ _ |>.mp known with here | later
      · simp only [Bool.and_eq_true, beq_iff_eq] at here
        exact ⟨[], rest, by rw [here.1, here.2, List.nil_append]⟩
      · obtain ⟨before, after, split⟩ := ih later
        exact ⟨line :: before, after, by rw [split, List.cons_append]⟩
  | case2 => cases known

omit sound in
/-- A pattern behind a marker and any text. -/
theorem found_behind {marker : Text} {next : Regex} {finish : Cursor} (before inside hit : Text)
    (run : finish ∈ Regex.runs next ⟨inside.reverse ++ (marker.reverse ++ before.reverse), hit, []⟩) :
    Regex.found (.seq (.literal marker) (.seq (.manyLazy 0 anyChar) next))
      (before ++ marker ++ (inside ++ hit)) = true := by
  rw [List.append_assoc]
  exact Regex.found_of_mem (Regex.mem_runs_seq (Regex.mem_runs_literal marker before.reverse (inside ++ hit) [])
    (Regex.mem_runs_seq (Regex.mem_runs_any (marker.reverse ++ before.reverse) inside hit []) run))

/-- The text behind `management ssh` is that of the lines behind it. -/
theorem sshTail_sound {lines tail : List FString} (found : sshTail lines = some tail) :
    ∃ before, configText values lines = before ++ text "management ssh" ++ configText values tail := by
  obtain ⟨before, cutText⟩ := cut_tailLines sound found
  exact ⟨before, cut_eq_some cutText⟩

omit sound in
theorem sshCipher_settled {ceos : Ceos} {lines : List FString}
    (known : indentedLine (text "cipher " ++ sshPqcCiphers) lines = true) :
    sshCipher.errors values ceos (configText values lines) = [] := by
  obtain ⟨before, after, split, ends⟩ := @indentedLine_sound values _ _ known
  have start : Regex.atLineStart (linesBefore before).reverse = true := by
    have first : Regex.atLineStart [] = true := rfl
    simpa using atLineStart_linesBefore before first
  have found : Regex.found sshCipherPattern (configText values lines) = true := by
    rw [split]
    exact Regex.found_of_mem (runs_linePattern _ start ends)
  rw [sshCipher, Check.errors, if_pos found]

theorem sshVrf_settled {ceos : Ceos} {lines tail : List FString} (behind : sshTail lines = some tail)
    (known : adjacent (chars (text "   vrf MGMT")) (chars (text "      no shutdown")) tail = true) :
    sshVrf.errors values ceos (configText values lines) = [] := by
  obtain ⟨front, split⟩ := sshTail_sound sound behind
  obtain ⟨before, after, rfl⟩ := adjacent_sound known
  have lines_ : configText values
      (before ++ chars (text "   vrf MGMT") :: chars (text "      no shutdown") :: after) =
      (linesBefore (before.map (fill values)) ++ text "   ") ++ (text "vrf MGMT" ++ (text "\n      " ++
        (text "no shutdown" ++ linesAfter (after.map (fill values))))) := by
    rw [configText, List.map_append, List.map_cons, List.map_cons, fill_chars, fill_chars, unlines_around]
    simp [linesAfter, text]
  have blank : ∀ c ∈ text "\n      ", isSpace c = true := List.all_eq_true.mp rfl
  have found : Regex.found sshVrfPattern (configText values lines) = true := by
    rw [split, lines_]
    exact found_behind front _ _ (Regex.mem_runs_seq (Regex.mem_runs_literal (text "vrf MGMT") _ _ [])
      (Regex.mem_runs_seq (Regex.mem_runs_many _ (text "\n      ") _ [] blank (by decide))
        (Regex.mem_runs_literal (text "no shutdown") _ _ [])))
  rw [sshVrf, Check.errors, if_pos found]

theorem sshDefaultShutdown_settled {ceos : Ceos} {lines tail : List FString}
    (behind : sshTail lines = some tail) (known : indentedLine (text "shutdown") tail.tail = true) :
    sshDefaultShutdown.errors values ceos (configText values lines) = [] := by
  obtain ⟨front, split⟩ := sshTail_sound sound behind
  obtain ⟨before, after, later, ends⟩ := @indentedLine_sound values _ _ known
  obtain ⟨first, rest, rfl⟩ := List.exists_cons_of_ne_nil (l := tail) (by
    intro none
    rw [none] at known
    cases known)
  have more : rest ≠ [] := by
    intro none
    rw [none] at known
    cases known
  have lines_ : configText values (first :: rest) = (fill values first ++ '\n' :: linesBefore before) ++
      (text "   " ++ (text "shutdown" ++ after)) := by
    rw [configText, List.map_cons, unlines_cons _ (by simpa using more), List.append_assoc,
      List.cons_append]
    exact congrArg (fun s => fill values first ++ '\n' :: s) later
  have found : Regex.found sshDefaultShutdownPattern (configText values lines) = true := by
    rw [split, lines_]
    refine found_behind front _ _ (runs_linePattern _ ?_ ends)
    rw [List.reverse_append, List.reverse_cons, List.append_assoc, List.append_assoc]
    exact atLineStart_linesBefore before rfl
  rw [sshDefaultShutdown, Check.errors, if_pos found]

theorem searchSettled_sound {ceos : Ceos} {lines : List FString} {check : Check}
    (settled : check.searchSettled lines = true) :
    check.errors values ceos (configText values lines) = [] := by
  cases check with
  | rule needed => exact Rule.settled_sound sound settled ceos
  | found pattern message => cases settled
  | keyGroups => cases settled
  | cleartext => cases settled

omit sound in
theorem mem_checks {ceos : Ceos} {check : Check} (member : check ∈ checks ceos) :
    check ∈ searchChecks ceos ∨ check = legacyRadsecServer ∨ check = .keyGroups ∨
      check = .cleartext ∨ check = sshCipher ∨ check = sshVrf ∨ check = sshDefaultShutdown := by
  simp only [checks, searchChecks, List.mem_append, List.mem_cons, List.not_mem_nil, or_false] at member ⊢
  tauto

theorem configSettled_sound {ceos : Ceos} {lines : List FString} (clear : configSettled ceos lines = true) :
    configErrors values ceos (configText values (lines ++ [[]])) = [] := by
  simp only [configSettled, Bool.and_eq_true] at clear
  obtain ⟨⟨⟨⟨searches, hosts⟩, groups⟩, cleartext⟩, ssh⟩ := clear
  obtain ⟨tail, behind, shell⟩ := (Option.any_eq_true _ _).mp (Bool.and_eq_true _ _ |>.mp ssh).2
  rw [Bool.and_eq_true] at shell
  rw [configErrors, List.flatMap_eq_nil_iff]
  intro check member
  rcases mem_checks member with search | rfl | rfl | rfl | rfl | rfl | rfl
  · exact searchSettled_sound sound (List.all_eq_true.mp searches check search)
  · exact legacy_settled sound hosts
  · exact keyGroups_settled sound groups
  · exact cleartext_settled sound cleartext
  · exact sshCipher_settled (Bool.and_eq_true _ _ |>.mp ssh).1
  · exact sshVrf_settled sound behind shell.1
  · exact sshDefaultShutdown_settled sound behind shell.2

end

end QuantumSafe.CeosContract
