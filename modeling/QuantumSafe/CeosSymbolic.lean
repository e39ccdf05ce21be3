import QuantumSafe.CeosChecks
import QuantumSafe.RegexStanzas

set_option autoImplicit false

/- Checks on a configuration whose lines are f-strings over the management values:
what the symbols settle holds for every pair of subnets. -/
namespace QuantumSafe.CeosContract

open PyText PyRegex SymbolicText

/-- The characters that a management value can hold. An IPv6 address may carry a
zone id, of which no more is assumed. -/
def mgmtAllowed : MgmtValue → Char → Bool
  | .ip _, c | .gateway, c => c.isDigit || c == '.'
  | .ip6 _, c | .gateway6, c => !isSpace c && c != '$'
  | .prefixLen, c | .prefixLen6, c => c.isDigit

/-- The same with other characters in the IPv6 addresses. -/
def zoneAllowed (accepts : Char → Bool) : MgmtValue → Char → Bool
  | .ip6 _, c | .gateway6, c => accepts c
  | name, c => mgmtAllowed name c

/-- What the checks rely on about the management values. -/
structure SoundValues (values : MgmtValues) : Prop where
  fits : Fits mgmtAllowed values
  noDot1x : ∀ name, contains (text "dot1x") (values name) = false
  colon : ∀ node, ':' ∈ values (.ip6 node)

theorem mgmtAllowed_space {c : Char} (space : isSpace c = true) (name : MgmtValue) :
    mgmtAllowed name c = false := by
  have notDigit : c.isDigit = false := by
    by_contra digit
    rw [isSpace_of_isDigit (Bool.not_eq_false _ |>.mp digit)] at space
    cases space
  have notDot : (c == '.') = false := by
    rw [beq_eq_false_iff_ne]
    rintro rfl
    exact absurd space (by decide)
  cases name <;> simp [mgmtAllowed, notDigit, notDot, space]

/-- The lines in front of the first `!`. -/
def headLines (lines : List FString) : Option (List FString) :=
  if lines.any (mayOccur mgmtAllowed true (text "!")) then
    (cutSymbolLines mgmtAllowed (text "!") lines).map Prod.fst
  else some lines

/-- The lines behind the first occurrence of a marker. -/
def tailLines (marker : Text) (lines : List FString) : Option (List FString) :=
  if marker.isEmpty || marker.contains '\n' then none
  else (cutSymbolLines mgmtAllowed marker lines).map Prod.snd

/-- The lines of the security section. -/
def securityPart (lines : List FString) : Option (List FString) :=
  match tailLines (text "management security") lines with
  | some (first :: rest) =>
      if (first :: rest).all (lacks mgmtAllowed '\n') then (untilMarkSymbols '!' rest).map (first :: ·) else none
  | _ => none

def Scope.lines (lines : List FString) : Scope → Option (List FString)
  | .whole => some lines
  | .after marker => tailLines marker lines
  | .block marker => (tailLines marker lines).bind headLines
  | .profile name =>
      ((securityPart lines).bind (tailLines (text "ssl profile " ++ name))).bind headLines

def isBlank (symbol : Symbol MgmtValue) : Bool := symbol.same (.char ' ')

/-- A line has the needle, at its start behind blanks or anywhere. -/
def present (needle : FString) (lines : List FString) : Bool :=
  lines.any (fun line => startsWith (line.dropWhile isBlank) needle) ||
    lines.any (occurs needle)

/-- The characters of an f-string without slots. -/
def literalText : FString → Option Text
  | [] => some []
  | .char c :: rest => (literalText rest).map (c :: ·)
  | .slot _ :: _ => none

/-- No line has the needle, whatever the values are. Slots are known to hold no
blanks and no `dot1x`. -/
def absent (needle : Text) (lines : List FString) : Bool :=
  !needle.contains '\n' && (needle.any isSpace || needle == text "dot1x") &&
    lines.all fun line => !mayOccur mgmtAllowed false needle line

def Rule.settled (lines : List FString) (rule : Rule) : Bool :=
  match rule.scope.lines lines with
  | none => false
  | some part =>
      if rule.wanted then present rule.needle part
      else (literalText rule.needle).any fun needle => absent needle part

/-- The text of lines for given values. -/
abbrev configText (values : MgmtValues) (lines : List FString) : Text :=
  unlines (lines.map (fill values))

section

variable {values : MgmtValues} (sound : SoundValues values)
include sound

/-- A marker that the symbols place cuts the text where it cuts the lines. -/
theorem cut_tailLines {marker : Text} {lines part : List FString}
    (found : tailLines marker lines = some part) :
    ∃ before, cut marker (configText values lines) = some (before, configText values part) := by
  rw [tailLines] at found
  split at found
  · cases found
  · rename_i usable
    simp only [Bool.or_eq_true, List.isEmpty_iff, List.contains_iff_mem, not_or] at usable
    obtain ⟨parts, cutParts, rfl⟩ := Option.map_eq_some_iff.mp found
    rw [configText, cut_unlines usable.2 usable.1, cutLines_fill sound.fits usable.1 cutParts]
    exact ⟨_, rfl⟩

theorem tailLines_sound {marker : Text} {lines part : List FString}
    (found : tailLines marker lines = some part) :
    splitTail marker (configText values lines) = configText values part := by
  obtain ⟨before, cutText⟩ := cut_tailLines sound found
  exact splitTail_of_cut cutText

theorem headLines_sound {lines part : List FString} (found : headLines lines = some part) :
    splitHead (text "!") (configText values lines) = configText values part := by
  have oneLine : '\n' ∉ text "!" := by decide
  have filled : text "!" ≠ [] := by decide
  rw [headLines] at found
  split at found
  · obtain ⟨parts, cutParts, rfl⟩ := Option.map_eq_some_iff.mp found
    exact splitHead_unlines oneLine filled (cutLines_fill sound.fits filled cutParts)
  · rename_i clear
    cases found
    apply splitHead_of_notContains
    rw [contains_unlines oneLine filled, List.any_map, List.any_eq_false]
    intro line member
    have none := List.any_eq_false.mp (Bool.not_eq_true _ |>.mp clear) line member
    simp only [Function.comp_apply]
    rw [notContains_fill sound.fits (Bool.not_eq_true _ |>.mp none) fun inside => by cases inside]
    decide

theorem securityPart_sound {lines part : List FString} (found : securityPart lines = some part) :
    security (configText values lines) = configText values part := by
  rw [securityPart] at found
  split at found
  · rename_i first rest tail
    split at found
    · rename_i plain
      obtain ⟨kept, marked, rfl⟩ := Option.map_eq_some_iff.mp found
      have oneLine : ∀ line ∈ fill values first :: rest.map (fill values), '\n' ∉ line := by
        intro line member
        rw [← List.map_cons] at member
        obtain ⟨symbols, inside, rfl⟩ := List.mem_map.mp member
        exact notMem_fill sound.fits (List.all_eq_true.mp plain symbols inside)
      rw [security, tailLines_sound sound tail, configText, List.map_cons]
      exact (splitHead_mark (by decide) _ _ oneLine).trans
        (by rw [untilMark_fill values marked, configText, List.map_cons])
    · cases found
  · cases found

theorem Scope.lines_sound {scope : Scope} {lines part : List FString}
    (found : scope.lines lines = some part) :
    scope.part (configText values lines) = configText values part := by
  cases scope with
  | whole =>
      cases found
      rfl
  | after marker => exact tailLines_sound sound found
  | block marker =>
      obtain ⟨tail, foundTail, foundHead⟩ := Option.bind_eq_some_iff.mp found
      rw [Scope.part, tailLines_sound sound foundTail, headLines_sound sound foundHead]
  | profile name =>
      obtain ⟨tail, foundTail, foundHead⟩ := Option.bind_eq_some_iff.mp found
      obtain ⟨section_, foundSection, foundTail⟩ := Option.bind_eq_some_iff.mp foundTail
      rw [Scope.part, securityPart_sound sound foundSection, tailLines_sound sound foundTail,
        headLines_sound sound foundHead]

omit sound in
theorem present_sound {needle : FString} {lines : List FString} (found : present needle lines = true) :
    contains (fill values needle) (configText values lines) = true := by
  have inLine : ∃ line ∈ lines, needle <:+: line := by
    rcases Bool.or_eq_true _ _ |>.mp found with starts | inside
    · obtain ⟨line, member, starts⟩ := List.any_eq_true.mp starts
      exact ⟨line, member, ((startsWith_iff _ _).mp starts).isInfix.trans (List.dropWhile_suffix _).isInfix⟩
    · obtain ⟨line, member, inside⟩ := List.any_eq_true.mp inside
      exact ⟨line, member, (occurs_iff _ _).mp inside⟩
  obtain ⟨line, member, inside⟩ := inLine
  exact contains_unlines_of_mem (List.mem_map_of_mem member)
    (contains_fill values ((occurs_iff _ _).mpr inside))

omit sound in
theorem literalText_sound {needle : FString} {s : Text} (literal : literalText needle = some s) :
    fill values needle = s := by
  induction needle generalizing s with
  | nil =>
      cases literal
      rfl
  | cons symbol rest ih =>
      cases symbol with
      | char c =>
          obtain ⟨later, literalLater, rfl⟩ := Option.map_eq_some_iff.mp literal
          rw [fill_char, ih literalLater]
      | slot name => cases literal

theorem absent_sound {needle : Text} {lines : List FString} (clear : absent needle lines = true) :
    contains needle (configText values lines) = false := by
  simp only [absent, Bool.and_eq_true, Bool.or_eq_true, List.any_eq_true, beq_iff_eq,
    Bool.not_eq_true', List.all_eq_true] at clear
  obtain ⟨⟨oneLine, special⟩, across⟩ := clear
  have outside (name : MgmtValue) : contains needle (values name) = false := by
    rcases special with ⟨c, member, space⟩ | rfl
    · exact notContains_slot sound.fits member (mgmtAllowed_space space) name
    · exact sound.noDot1x name
  have filled : needle ≠ [] := by
    rcases special with ⟨c, member, -⟩ | rfl
    · exact List.ne_nil_of_mem member
    · decide
  rw [contains_unlines (by simpa using oneLine) filled, List.any_map, List.any_eq_false]
  intro line member
  simp only [Function.comp_apply]
  rw [notContains_fill sound.fits (across line member) fun _ => outside]
  decide

/-- A rule that the symbols settle appends nothing. -/
theorem Rule.settled_sound {lines : List FString} {rule : Rule} (settled : rule.settled lines = true)
    (ceos : Ceos) : rule.errors values ceos (configText values lines) = [] := by
  rw [Rule.settled] at settled
  split at settled
  · cases settled
  · rename_i part found
    rw [Rule.errors, Scope.lines_sound sound found]
    split at settled
    · rename_i wanted
      rw [present_sound settled, wanted, if_pos rfl]
    · rename_i unwanted
      obtain ⟨needle, literal, clear⟩ := (Option.any_eq_true _ _).mp settled
      rw [literalText_sound literal, absent_sound sound clear, Bool.not_eq_true _ |>.mp unwanted,
        if_pos rfl]

end

end QuantumSafe.CeosContract
