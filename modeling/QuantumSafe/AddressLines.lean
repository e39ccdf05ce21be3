import QuantumSafe.LabTopology
import QuantumSafe.SshPolicy

set_option autoImplicit false

/- The interface addresses, gateways and static routes: what `validate_ceos_configs`
looks for in the text, and the lines of the configuration. -/
namespace QuantumSafe.CeosContract

open PyText PyRegex SymbolicText

def Check.rule? : Check → Option Rule
  | .rule needed => some needed
  | _ => none

/-- The rules on addresses, gateways and routes: all of `addressChecks` behind the one on
the VRF. -/
def addressRules (ceos : Ceos) : List Rule := (addressChecks ceos).tail.filterMap Check.rule?

/-- The statement is a line of the configuration, alone but for blanks around it. -/
def IsLine (config statement : Text) : Prop :=
  ∃ line ∈ config.splitOn '\n', ∃ lead trail, line = lead ++ (statement ++ trail) ∧
    (∀ c ∈ lead, isSpace c = true) ∧ ∀ c ∈ trail, isSpace c = true

/-- Without an error about an address, a gateway or a route, each of them is a line. -/
def EnforcesAddresses (values : MgmtValues) (ceos : Ceos) (config : Text) : Prop :=
  (∀ rule ∈ addressRules ceos, .broken ceos (fill values rule.message) ∉ configErrors values ceos config) →
    ∀ rule ∈ addressRules ceos, IsLine config (fill values rule.needle)

/-- What stands on the same line before and behind. -/
def lineStart (before : Text) : Text := before.rtakeWhile (· != '\n')
def lineRest (after : Text) : Text := after.takeWhile (· != '\n')

/-- Something else than blanks stands on the line, before or behind. -/
def Adjoined (before after : Text) : Prop :=
  (∃ c ∈ lineStart before, isSpace c = false) ∨ ∃ c ∈ lineRest after, isSpace c = false

/-- How a statement that is found in the configuration escapes being a line of it. -/
inductive Strayed (config statement : Text) : Prop where
  /-- Wherever it stands, it is part of a longer line, so of another address. -/
  | adjoined (everywhere : ∀ before after, config = before ++ (statement ++ after) → Adjoined before after)
  /-- It is of several lines: the zone of the IPv6 subnet has a line feed. -/
  | spread (feed : '\n' ∈ statement)

theorem addressRules_checks (ceos : Ceos) :
    (addressChecks ceos).tail = (addressRules ceos).map Check.rule := by
  cases ceos <;> rfl

theorem addressRules_wanted (ceos : Ceos) :
    ∀ rule ∈ addressRules ceos, rule = ⟨.whole, rule.needle, true, rule.message⟩ := by
  have same : (addressRules ceos).map (fun rule => rule) =
      (addressRules ceos).map fun rule => ⟨.whole, rule.needle, true, rule.message⟩ := by
    cases ceos <;> rfl
  exact List.map_inj_left.mp same

/-- No other check has a message of these. -/
theorem addressRules_only (ceos : Ceos) : ∀ rule ∈ addressRules ceos,
    (checks ceos).filter (Check.mayRaise rule.message) =
      ((addressRules ceos).map Check.rule).filter (Check.mayRaise rule.message) := by
  have same : (addressRules ceos).map (fun rule => (checks ceos).filter (Check.mayRaise rule.message)) =
      (addressRules ceos).map fun rule =>
        ((addressRules ceos).map Check.rule).filter (Check.mayRaise rule.message) := by
    cases ceos <;> rfl
  exact List.map_inj_left.mp same

section

variable {values : MgmtValues} {ceos : Ceos} {config : Text}

theorem addressRule_errors {rule : Rule} (member : rule ∈ addressRules ceos) :
    rule.errors values ceos config =
      if contains (fill values rule.needle) config = true then []
      else [.broken ceos (fill values rule.message)] := by
  rw [addressRules_wanted ceos rule member]
  rfl

/-- The errors are missing exactly where the text has all the statements in it. -/
theorem noAddressErrors_iff :
    (∀ rule ∈ addressRules ceos, .broken ceos (fill values rule.message) ∉ configErrors values ceos config) ↔
      ∀ rule ∈ addressRules ceos, contains (fill values rule.needle) config = true := by
  constructor
  · intro silent rule member
    by_contra absent
    apply silent rule member
    have listed : Check.rule rule ∈ checks ceos := by
      have inTail : Check.rule rule ∈ (addressChecks ceos).tail := by
        rw [addressRules_checks]
        exact List.mem_map_of_mem member
      simp only [checks, List.append_assoc]
      exact List.mem_append_left _ (List.mem_of_mem_tail inTail)
    refine List.mem_flatMap.mpr ⟨.rule rule, listed, ?_⟩
    rw [Check.errors, addressRule_errors member, if_neg absent]
    exact List.mem_singleton.mpr rfl
  · intro found rule member appended
    obtain ⟨check, listed, raised⟩ := List.mem_flatMap.mp appended
    have own := List.mem_filter.mpr ⟨listed, mayRaise_of_mem raised⟩
    rw [addressRules_only ceos rule member] at own
    obtain ⟨other, inRules, rfl⟩ := List.mem_map.mp (List.mem_filter.mp own).1
    rw [Check.errors, addressRule_errors inRules, if_pos (found other inRules)] at raised
    cases raised

end

theorem lineRest_append {trail back : Text} (oneLine : '\n' ∉ trail)
    (begun : ∀ c, back.head? = some c → c = '\n') : lineRest (trail ++ back) = trail := by
  have plain : ∀ c ∈ trail, (c != '\n') = true := by
    intro c member
    exact bne_iff_ne.mpr fun same => oneLine (same ▸ member)
  have stops : back.takeWhile (· != '\n') = [] := by
    cases back with
    | nil => rfl
    | cons c back =>
        rw [begun c rfl]
        rfl
  rw [lineRest, List.takeWhile_append_of_pos plain, stops, List.append_nil]

theorem lineStart_append {front lead : Text} (oneLine : '\n' ∉ lead)
    (ended : ∀ c, front.getLast? = some c → c = '\n') : lineStart (front ++ lead) = lead := by
  have mirrored : lineRest (lead.reverse ++ front.reverse) = lead.reverse := by
    apply lineRest_append
    · rwa [List.mem_reverse]
    · intro c first
      rw [List.head?_reverse] at first
      exact ended c first
  rw [lineStart, List.rtakeWhile, List.reverse_append]
  rw [lineRest] at mirrored
  rw [mirrored, List.reverse_reverse]

theorem lineRest_dropWhile (after : Text) :
    after = lineRest after ++ after.dropWhile (· != '\n') ∧ '\n' ∉ lineRest after ∧
      ∀ c, (after.dropWhile (· != '\n')).head? = some c → c = '\n' := by
  refine ⟨List.takeWhile_append_dropWhile.symm, ?_, ?_⟩
  · intro feed
    have kept := List.mem_takeWhile_imp feed
    cases kept
  · intro c first
    have stopped := List.head?_dropWhile_not (· != '\n') after
    rw [first] at stopped
    simpa using stopped

theorem lineStart_dropWhile (before : Text) :
    before = before.rdropWhile (· != '\n') ++ lineStart before ∧ '\n' ∉ lineStart before ∧
      ∀ c, (before.rdropWhile (· != '\n')).getLast? = some c → c = '\n' := by
  obtain ⟨split, oneLine, ends⟩ := lineRest_dropWhile before.reverse
  rw [lineRest] at split oneLine
  refine ⟨?_, ?_, ?_⟩
  · rw [lineStart, List.rtakeWhile, List.rdropWhile, ← List.reverse_append, ← split, List.reverse_reverse]
  · rwa [lineStart, List.rtakeWhile, List.mem_reverse]
  · intro c last
    rw [List.rdropWhile, List.getLast?_reverse] at last
    exact ends c last

/-- A statement is a line iff it stands somewhere without anything else on that line. -/
theorem isLine_iff_occurrence (config statement : Text) :
    IsLine config statement ↔
      '\n' ∉ statement ∧ ∃ before after, config = before ++ (statement ++ after) ∧ ¬ Adjoined before after := by
  constructor
  · rintro ⟨line, member, lead, trail, rfl, leadBlank, trailBlank⟩
    obtain ⟨oneLine, front, back, whole, ended, begun⟩ := mem_lines_iff.mp member
    rw [List.mem_append, List.mem_append, not_or, not_or] at oneLine
    obtain ⟨leadLine, own, trailLine⟩ := oneLine
    refine ⟨own, front ++ lead, trail ++ back, by simp [whole], ?_⟩
    rw [Adjoined, lineStart_append leadLine ended, lineRest_append trailLine begun]
    rintro (⟨c, inside, visible⟩ | ⟨c, inside, visible⟩)
    · rw [leadBlank c inside] at visible
      cases visible
    · rw [trailBlank c inside] at visible
      cases visible
  · rintro ⟨own, before, after, rfl, alone⟩
    rw [Adjoined, not_or, not_exists, not_exists] at alone
    obtain ⟨leadBlank, trailBlank⟩ := alone
    obtain ⟨beforeSplit, leadLine, ended⟩ := lineStart_dropWhile before
    obtain ⟨afterSplit, trailLine, begun⟩ := lineRest_dropWhile after
    refine ⟨lineStart before ++ (statement ++ lineRest after), mem_lines_iff.mpr ⟨?_, _, _, ?_, ended, begun⟩,
      lineStart before, lineRest after, rfl, by simpa using leadBlank, by simpa using trailBlank⟩
    · rw [List.mem_append, List.mem_append, not_or, not_or]
      exact ⟨leadLine, own, trailLine⟩
    · conv => lhs; rw [beforeSplit, afterSplit]
      simp only [List.append_assoc]

theorem isLine_iff (config statement : Text) :
    IsLine config statement ↔ ¬ Strayed config statement := by
  rw [isLine_iff_occurrence]
  constructor
  · rintro ⟨own, before, after, split, alone⟩ strayed
    cases strayed with
    | adjoined everywhere => exact alone (everywhere before after split)
    | spread feed => exact own feed
  · intro kept
    refine ⟨fun feed => kept (.spread feed), ?_⟩
    by_contra none
    refine kept (.adjoined fun before after split => ?_)
    by_contra alone
    exact none ⟨before, after, split, alone⟩

/-- The text of an address is found in a longer one, so the tests enforce the lines exactly
where one of them fails or no statement has strayed. This holds for the values of every
pair of subnets. -/
theorem enforcesAddresses_iff (values : MgmtValues) (ceos : Ceos) (config : Text) :
    EnforcesAddresses values ceos config ↔
      (∃ rule ∈ addressRules ceos, contains (fill values rule.needle) config = false) ∨
        ∀ rule ∈ addressRules ceos, ¬ Strayed config (fill values rule.needle) := by
  simp only [EnforcesAddresses, noAddressErrors_iff, isLine_iff]
  rw [or_iff_not_imp_left]
  simp only [not_exists, not_and, Bool.not_eq_false]

/-- A statement that is a line is one of the stripped lines. -/
theorem IsLine.strip_mem {config statement : Text} (isLine : IsLine config statement)
    (begins : ∀ c, statement.head? = some c → isSpace c = false) (filled : statement ≠ []) :
    rstrip statement ∈ (config.splitOn '\n').map strip := by
  obtain ⟨line, member, lead, trail, rfl, leadBlank, trailBlank⟩ := isLine
  refine List.mem_map.mpr ⟨_, member, ?_⟩
  obtain ⟨c, rest, rfl⟩ := List.exists_cons_of_ne_nil filled
  have visible : lstrip (c :: rest ++ trail) = c :: rest ++ trail := by
    rw [lstrip, List.cons_append, List.dropWhile_cons_of_neg]
    rw [begins c rfl]
    exact Bool.false_ne_true
  have led : lstrip (lead ++ (c :: rest ++ trail)) = lstrip (c :: rest ++ trail) :=
    List.dropWhile_append_of_pos leadBlank
  rw [strip, led, visible, rstrip_append_blank _ trailBlank]

/-- The switch of the lab with another next hop, whose text starts with the expected one. -/
def longerNextHop : Text :=
  unlines
    [ text "interface Ethernet1", text "   ip address 10.255.0.1/30",
      text "   ipv6 address 2001:db8:255:0::1/126", text "interface Ethernet2",
      text "   ip address 10.255.0.5/30", text "   ipv6 address 2001:db8:255:0::5/126",
      text "interface Ethernet8", text "   ip address 10.0.1.254/24",
      text "   ipv6 address 2001:db8:1::fe/64", text "interface Management0",
      text "   ip address 172.20.127.11/24", text "   ipv6 address 2001:db8:127::11/64",
      text "ip route vrf MGMT 0.0.0.0/0 172.20.127.1", text "ip route 10.0.2.0/24 10.255.0.20",
      text "ip route 10.0.3.0/24 10.255.0.6", text "ipv6 route vrf MGMT ::/0 2001:db8:127::1",
      text "ipv6 route 2001:db8:2::/64 2001:db8:255:0::2",
      text "ipv6 route 2001:db8:3::/64 2001:db8:255:0::6" ]

/-- With the default subnets of the lab. -/
theorem not_enforcesAddresses_longerNextHop :
    ∃ values, dataPlaneValues (some defaultMgmtSubnet) (some defaultMgmtIpv6Subnet) = .ok values ∧
      ¬ EnforcesAddresses values .ceos1Both longerNextHop := by
  refine ⟨LabContract.labValues, (RenderTopo.computed_of_subnetValues LabContract.subnetValues_lab).validated, ?_⟩
  intro enforced
  have found : (addressRules .ceos1Both).all fun rule =>
      contains (fill LabContract.labValues rule.needle) longerNextHop := by decide +kernel
  have lines := enforced (noAddressErrors_iff.mpr (List.all_eq_true.mp found))
  have route : text "ip route 10.0.2.0/24 10.255.0.2" ∈
      (addressRules .ceos1Both).map fun rule => fill LabContract.labValues rule.needle := by decide +kernel
  obtain ⟨rule, member, same⟩ := List.mem_map.mp route
  have isLine := lines rule member
  rw [same] at isLine
  have stripped := isLine.strip_mem (by intro c first; cases first; decide) (List.cons_ne_nil _ _)
  exact absurd stripped (by decide +kernel)

end QuantumSafe.CeosContract
