import QuantumSafe.CeosSettled
import QuantumSafe.RenderedCeos

set_option autoImplicit false

/- The switch configurations that `render_config_templates` writes pass
`validate_ceos_configs`, for every pair of subnets of the two families without a
disruptive zone id. -/
namespace QuantumSafe.RenderTopo

open PyText PyIpAddress SymbolicText CeosContract Reports

/-- The zone id of an IPv6 subnet has no whitespace, no `$` and no `dot1x` in it. -/
structure PlainZone (scopeId : Option Text) : Prop where
  visible : ∀ zone ∈ scopeId, ∀ c ∈ zone, isSpace c = false ∧ c ≠ '$'
  noDot1x : ∀ zone ∈ scopeId, contains (text "dot1x") zone = false

theorem plainZone_none : PlainZone none where
  visible _ absent := absurd absent (Option.not_mem_none _)
  noDot1x _ absent := absurd absent (Option.not_mem_none _)

theorem visible_of_all {zone : Text} (all : zone.all (fun c => !isSpace c && c != '$') = true) :
    ∀ other ∈ some zone, ∀ c ∈ other, isSpace c = false ∧ c ≠ '$' := by
  rintro other ⟨⟩ c inside
  simpa using List.all_eq_true.mp all c inside

/-- The subnet is an IPv4 network at the given address. -/
def IPv4Subnet (mgmtSubnet : Text) (address : IPv4Address) (prefixLen : Nat) : Prop :=
  ipNetwork (subnetOr defaultMgmtSubnet (some mgmtSubnet)) = .ok ⟨.v4 address, prefixLen⟩

def IPv6Subnet (mgmtIpv6Subnet : Text) (address : IPv6Address) (prefixLen : Nat) : Prop :=
  ipNetwork (subnetOr defaultMgmtIpv6Subnet (some mgmtIpv6Subnet)) = .ok ⟨.v6 address, prefixLen⟩

/-- How the values of two subnets were computed. The validator computes them in
another order, with the same result. -/
structure ComputedValues (mgmtSubnet mgmtIpv6Subnet : Text) (values : MgmtValues) : Prop where
  ip : ∀ node, mgmtIp (some mgmtSubnet) node.hostSuffix = .ok (values (.ip node))
  ip6 : ∀ node, mgmtIpv6Ip (some mgmtIpv6Subnet) node.hostSuffix = .ok (values (.ip6 node))
  gateway : mgmtGateway (some mgmtSubnet) = .ok (values .gateway)
  gateway6 : mgmtIpv6Gateway (some mgmtIpv6Subnet) = .ok (values .gateway6)
  prefixLen : ∃ n, values .prefixLen = natText n
  prefixLen6 : ∃ n, values .prefixLen6 = natText n
  validated : dataPlaneValues (some mgmtSubnet) (some mgmtIpv6Subnet) = .ok values

theorem computed_of_subnetValues {mgmtSubnet mgmtIpv6Subnet : Text} {values : MgmtValues}
    (known : subnetValues mgmtSubnet mgmtIpv6Subnet = .ok values) :
    ComputedValues mgmtSubnet mgmtIpv6Subnet values := by
  obtain ⟨ips, ipsOk, known⟩ := bind_ok_iff.mp known
  obtain ⟨ips6, ips6Ok, known⟩ := bind_ok_iff.mp known
  obtain ⟨gateway, gatewayOk, known⟩ := bind_ok_iff.mp known
  obtain ⟨prefixLen, prefixLenOk, known⟩ := bind_ok_iff.mp known
  obtain ⟨gateway6, gateway6Ok, known⟩ := bind_ok_iff.mp known
  obtain ⟨prefixLen6, prefixLen6Ok, known⟩ := bind_ok_iff.mp known
  cases known
  refine ⟨forEveryNode_ok ipsOk, forEveryNode_ok ips6Ok, gatewayOk, gateway6Ok, ⟨prefixLen, rfl⟩,
    ⟨prefixLen6, rfl⟩, ?_⟩
  rw [dataPlaneValues, ipsOk, ips6Ok, prefixLenOk, prefixLen6Ok, gatewayOk, gateway6Ok]
  rfl

/-- An accepted pair of subnets has values. -/
theorem subnetValues_of_accepted {ceosImage mgmtSubnet mgmtIpv6Subnet : Text}
    {substitutions : List (Text × Text)}
    (accepted : buildSubstitutions ceosImage mgmtSubnet mgmtIpv6Subnet = .ok substitutions) :
    ∃ values, subnetValues mgmtSubnet mgmtIpv6Subnet = .ok values := by
  obtain ⟨values, known, -⟩ := bind_ok_iff.mp accepted
  exact ⟨values, mapError_ok_iff.mp known⟩

theorem isDigit_of_mem_natText {n : Nat} {c : Char} (member : c ∈ natText n) : c.isDigit = true :=
  Nat.isDigit_of_mem_toDigits (by decide) (by decide) member

/-- Hexadecimal digits and colons, by code point. -/
theorem range_of_mem_digits {address : IPv6Address} {c : Char} (member : c ∈ address.digits) :
    48 ≤ c.toNat ∧ c.toNat ≤ 102 := by
  have bounds : (isHexDigit c || c == ':') = true := by
    rcases mem_digits address member with hex | colon
    · simp [hex]
    · simp [colon]
  simp only [isHexDigit, Char.isDigit, Bool.or_eq_true, Bool.and_eq_true, decide_eq_true_eq,
    beq_iff_eq, Char.le_def, UInt32.le_iff_toNat_le] at bounds
  rcases bounds with ((digit | lower) | upper) | rfl
  · exact ⟨digit.1, le_trans digit.2 (by decide)⟩
  · exact ⟨le_trans (by decide) lower.1, lower.2⟩
  · exact ⟨le_trans (by decide) upper.1, le_trans upper.2 (by decide)⟩
  · decide

/-- What is accepted in a zone id is accepted in the digits of an address, too. -/
structure AcceptsDigits (accepts : Char → Bool) : Prop where
  digits : ∀ c : Char, 48 ≤ c.toNat → c.toNat ≤ 102 → accepts c = true
  percent : accepts '%' = true

theorem acceptsDigits_visible : AcceptsDigits fun c => !isSpace c && c != '$' where
  digits c least most := by
    have notSpace : isSpace c = false := by
      simp only [isSpace, Bool.or_eq_false_iff, Bool.and_eq_false_iff, decide_eq_false_iff_not,
        beq_eq_false_iff_ne]
      omega
    have other : c ≠ '$' := by
      rintro rfl
      exact absurd least (by decide)
    simp [notSpace, other]
  percent := by decide

theorem letter_notMem_digits {address : IPv6Address} : 't' ∉ address.digits := by
  intro inside
  exact absurd (range_of_mem_digits inside) (by decide)

theorem colon_mem_str (address : IPv6Address) : ':' ∈ address.str := by
  rw [IPv6Address.str]
  split
  · exact colon_mem_digits address
  · exact List.mem_append_left _ (colon_mem_digits address)

theorem accepts_of_mem_ip6 {accepts : Char → Bool} (digits : AcceptsDigits accepts) {address : IPv6Address}
    {suffix : Nat} {c : Char} (zoned : ∀ zone ∈ address.scopeId, ∀ c ∈ zone, accepts c = true)
    (inside : c ∈ address.str ++ natText suffix) : accepts c = true := by
  have inDigits (member : c ∈ address.digits) : accepts c = true :=
    digits.digits c (range_of_mem_digits member).1 (range_of_mem_digits member).2
  rcases List.mem_append.mp inside with network | host
  · rw [IPv6Address.str] at network
    split at network
    · exact inDigits network
    · rename_i zone known
      rcases List.mem_append.mp network with front | zoneId
      · exact inDigits front
      · rcases List.mem_cons.mp zoneId with rfl | later
        · exact digits.percent
        · exact zoned zone known c later
  · have digit := isDigit_of_mem_natText host
    simp only [Char.isDigit, Bool.and_eq_true, decide_eq_true_eq, ge_iff_le, UInt32.le_iff_toNat_le] at digit
    exact digits.digits c digit.1 (le_trans digit.2 (by decide))

/-- A needle that ends in a letter does not reach from a zone id into the decimal
suffix behind it. -/
theorem noDot1x_ip6 {address : IPv6Address}
    (absent : ∀ zone ∈ address.scopeId, contains (text "dot1x") zone = false) (suffix : Nat) :
    contains (text "dot1x") (address.str ++ natText suffix) = false := by
  have suffixes : 'x' ∉ natText suffix := fun inside => absurd (isDigit_of_mem_natText inside) (by decide)
  have behind (front : Text) (none : contains (text "dot1x") front = false) :
      contains (text "dot1x") (front ++ natText suffix) = false := by
    rw [Bool.eq_false_iff, ne_eq, contains_iff, List.infix_append_iff]
    rintro (within | later | ⟨inside, left, split, ends, starts⟩)
    · rw [(contains_iff _ _).mpr within] at none
      cases none
    · exact suffixes (later.subset (by decide))
    · rcases List.eq_nil_or_concat left with rfl | ⟨init, last, rfl⟩
      · rw [List.append_nil] at split
        rw [split, (contains_iff _ _).mpr ends.isInfix] at none
        cases none
      · have final := congrArg List.getLast? split
        rw [List.concat_eq_append, ← List.append_assoc, List.getLast?_concat] at final
        obtain rfl : 'x' = last := Option.some.inj final
        exact suffixes (starts.subset (by simp))
  have front : contains (text "dot1x") address.digits = false :=
    notContains_of_notMem (c := 't') (by decide) letter_notMem_digits
  rw [IPv6Address.str]
  split
  · exact behind _ front
  · rename_i zone known
    rw [List.append_assoc, List.cons_append, contains_append_cons _ _ (by decide), front,
      behind zone (absent zone known)]
    rfl

section

variable {mgmtSubnet mgmtIpv6Subnet : Text} {values : MgmtValues} {address4 : IPv4Address}
  {address6 : IPv6Address} {prefixLen4 prefixLen6 : Nat}
  (computed : ComputedValues mgmtSubnet mgmtIpv6Subnet values)
  (v4 : IPv4Subnet mgmtSubnet address4 prefixLen4) (v6 : IPv6Subnet mgmtIpv6Subnet address6 prefixLen6)

include computed v6 in
theorem ip6_eq (node : LabNode) :
    values (.ip6 node) = address6.str ++ natText node.hostSuffix := by
  have known := computed.ip6 node
  rw [mgmtIpv6Ip_v6 v6] at known
  exact (Except.ok.inj known).symm

include computed v4 v6 in
theorem fits_of_zone {accepts : Char → Bool} (digits : AcceptsDigits accepts)
    (zoned : ∀ zone ∈ address6.scopeId, ∀ c ∈ zone, accepts c = true) :
    Fits (zoneAllowed accepts) values := by
  intro name c inside
  cases name with
  | ip node =>
      obtain ⟨sum, same⟩ := mgmtIp_v4 v4 (computed.ip node)
      rw [same] at inside
      simpa [zoneAllowed, mgmtAllowed] using mem_str_v4 sum inside
  | gateway =>
      obtain ⟨sum, same⟩ := mgmtIp_v4 v4 (mgmtGateway_eq _ ▸ computed.gateway)
      rw [same] at inside
      simpa [zoneAllowed, mgmtAllowed] using mem_str_v4 sum inside
  | ip6 node =>
      rw [ip6_eq computed v6 node] at inside
      exact accepts_of_mem_ip6 digits zoned inside
  | gateway6 =>
      obtain ⟨sum, same⟩ := mgmtIpv6Gateway_v6 v6 computed.gateway6
      rw [same] at inside
      have range := range_of_mem_digits inside
      exact digits.digits c range.1 range.2
  | prefixLen =>
      obtain ⟨n, same⟩ := computed.prefixLen
      rw [same] at inside
      exact isDigit_of_mem_natText inside
  | prefixLen6 =>
      obtain ⟨n, same⟩ := computed.prefixLen6
      rw [same] at inside
      exact isDigit_of_mem_natText inside

include computed v4 v6 in
theorem fits_of_computed
    (visible : ∀ zone ∈ address6.scopeId, ∀ c ∈ zone, isSpace c = false ∧ c ≠ '$') :
    Fits mgmtAllowed values := by
  have zoned := fits_of_zone computed v4 v6 acceptsDigits_visible fun zone known c inside => by
    simpa using visible zone known c inside
  refine zoned.mono fun name c allowed => ?_
  cases name <;> exact allowed

include computed v4 v6 in
theorem soundValues_of_computed (plain : PlainZone address6.scopeId) : SoundValues values := by
  have fits := fits_of_computed computed v4 v6 plain.visible
  have letter : 't' ∈ text "dot1x" := by decide
  have refused (name : MgmtValue) (never : mgmtAllowed name 't' = false) :
      contains (text "dot1x") (values name) = false := by
    apply notContains_of_notMem letter
    intro inside
    rw [fits name 't' inside] at never
    cases never
  refine ⟨fits, ?_, ?_⟩
  · intro name
    cases name with
    | ip6 node =>
        rw [ip6_eq computed v6 node]
        exact noDot1x_ip6 plain.noDot1x node.hostSuffix
    | ip node => exact refused (.ip node) rfl
    | gateway => exact refused .gateway rfl
    | gateway6 =>
        obtain ⟨sum, same⟩ := mgmtIpv6Gateway_v6 v6 computed.gateway6
        rw [same]
        exact notContains_of_notMem letter letter_notMem_digits
    | prefixLen => exact refused .prefixLen rfl
    | prefixLen6 => exact refused .prefixLen6 rfl
  · intro node
    rw [ip6_eq computed v6 node]
    exact List.mem_append_left _ (colon_mem_str address6)

end

theorem configSettled_ceosTemplate (ceos : Ceos) :
    configSettled ceos (expanded templateTable (ceosTemplate ceos)) = true := by
  cases ceos <;> decide +kernel

/-- The validator accepts the rendered files when no check of a switch appends an error. -/
theorem validateCeosConfigs_renderedFiles {mgmtSubnet mgmtIpv6Subnet : Text} {values : MgmtValues}
    (fits : Fits openZone values) (computed : ComputedValues mgmtSubnet mgmtIpv6Subnet values) :
    validateCeosConfigs (writtenConfig (renderedFiles values)) (some mgmtSubnet) (some mgmtIpv6Subnet) =
        .ok [] ↔
      ∀ ceos, configErrors values ceos
        (configText values (expanded templateTable (ceosTemplate ceos) ++ [[]])) = [] := by
  have perSwitch : validateCeosConfigs (writtenConfig (renderedFiles values)) (some mgmtSubnet)
      (some mgmtIpv6Subnet) = .ok (Ceos.all.flatMap fun ceos => configErrors values ceos
        (configText values (expanded templateTable (ceosTemplate ceos) ++ [[]]))) := by
    rw [validateCeosConfigs, computed.validated]
    simp only [writtenConfig_renderedFiles fits]
    rfl
  rw [perSwitch, Except.ok.injEq, List.flatMap_eq_nil_iff]
  exact ⟨fun none ceos => none ceos ceos.mem_all, fun none ceos _ => none ceos⟩

/-- The configurations that are rendered for a pair of subnets, if they are, pass
the validator. -/
def MeetsContract (ceosImage mgmtSubnet mgmtIpv6Subnet : Text) : Prop :=
  ∀ written, renderConfigTemplates ceosImage mgmtSubnet mgmtIpv6Subnet = .ok written →
    validateCeosConfigs (writtenConfig written) (some mgmtSubnet) (some mgmtIpv6Subnet) = .ok []

/-- An accepted pair of an IPv4 and an IPv6 subnet renders, and what it renders
passes the validator, unless the IPv6 subnet has a disruptive zone id. -/
theorem renderConfigTemplates_meets_contract (ceosImage : Text) {mgmtSubnet mgmtIpv6Subnet : Text}
    {address4 : IPv4Address} {address6 : IPv6Address} {prefixLen4 prefixLen6 : Nat}
    {substitutions : List (Text × Text)} (v4 : IPv4Subnet mgmtSubnet address4 prefixLen4)
    (v6 : IPv6Subnet mgmtIpv6Subnet address6 prefixLen6) (plain : PlainZone address6.scopeId)
    (accepted : buildSubstitutions ceosImage mgmtSubnet mgmtIpv6Subnet = .ok substitutions) :
    (∃ written, renderConfigTemplates ceosImage mgmtSubnet mgmtIpv6Subnet = .ok written) ∧
      MeetsContract ceosImage mgmtSubnet mgmtIpv6Subnet := by
  obtain ⟨values, known⟩ := subnetValues_of_accepted accepted
  have computed := computed_of_subnetValues known
  have sound := soundValues_of_computed computed v4 v6 plain
  have rendered := @renderConfigTemplates_eq values (fits_openZone sound.fits) ceosImage _ _ known
  refine ⟨⟨_, rendered⟩, ?_⟩
  intro written same
  rw [rendered] at same
  cases same
  rw [validateCeosConfigs_renderedFiles (fits_openZone sound.fits) computed]
  intro ceos
  exact configSettled_sound sound (configSettled_ceosTemplate ceos)

/-- A link-local IPv6 subnet with a zone id. -/
def linkLocal (zone : Text) : IPv6Address := ⟨0xfe80 * 2 ^ 112, some zone, by decide⟩

theorem exists_values {mgmtSubnet mgmtIpv6Subnet : Text}
    (isOk : (subnetValues mgmtSubnet mgmtIpv6Subnet).isOk = true) :
    ∃ values, subnetValues mgmtSubnet mgmtIpv6Subnet = .ok values := by
  cases ends : subnetValues mgmtSubnet mgmtIpv6Subnet with
  | error problem =>
      rw [ends] at isOk
      cases isOk
  | ok values => exact ⟨values, rfl⟩

theorem renderConfigTemplates_meets_contract_eth0 :
    (∃ written, renderConfigTemplates (text "ceos:lab") (text "10.9.0.0/16") (text "fe80::%eth0/64") =
      .ok written) ∧
      MeetsContract (text "ceos:lab") (text "10.9.0.0/16") (text "fe80::%eth0/64") := by
  have v4 : IPv4Subnet (text "10.9.0.0/16") ⟨0x0a090000, by decide⟩ 16 := by
    unfold IPv4Subnet
    decide +kernel
  have v6 : IPv6Subnet (text "fe80::%eth0/64") (linkLocal (text "eth0")) 64 := by
    unfold IPv6Subnet
    decide +kernel
  have plain : PlainZone (linkLocal (text "eth0")).scopeId := by
    refine ⟨visible_of_all (by decide), ?_⟩
    rintro zone ⟨⟩
    decide
  have isOk : (subnetValues (text "10.9.0.0/16") (text "fe80::%eth0/64")).isOk = true := by
    decide +kernel
  obtain ⟨values, known⟩ := exists_values isOk
  have fits := fits_of_computed (computed_of_subnetValues known) v4 v6 plain.visible
  exact renderConfigTemplates_meets_contract (text "ceos:lab") v4 v6 plain
    (buildSubstitutions_eq (fits_anyZone (fits_openZone fits)) known)

section

variable {ceosImage mgmtSubnet mgmtIpv6Subnet : Text} {values : MgmtValues}
  (known : subnetValues mgmtSubnet mgmtIpv6Subnet = .ok values)

include known in
/-- A forbidden text in an address of a switch is reported. -/
theorem not_meetsContract_of_forbidden (fits : Fits openZone values) {ceos : Ceos} {node : LabNode}
    {needle : Text} {message : FString} (member : forbids (chars needle) message ∈ checks ceos)
    (inside : contains needle (values (.ip6 node)) = true)
    (shown : present (slot (.ip6 node)) (expanded templateTable (ceosTemplate ceos) ++ [[]]) = true) :
    ¬ MeetsContract ceosImage mgmtSubnet mgmtIpv6Subnet := by
  intro meets
  have accepted := meets _ (renderConfigTemplates_eq fits known)
  rw [validateCeosConfigs_renderedFiles fits (computed_of_subnetValues known)] at accepted
  have clear := List.flatMap_eq_nil_iff.mp (accepted ceos) _ member
  have inConfig := @present_sound values _ _ shown
  rw [fill_slot_alone, contains_iff] at inConfig
  have named := (contains_iff _ _).mpr (((contains_iff _ _).mp inside).trans inConfig)
  exact forbids_found named clear

/-- The key of the first RADIUS client. -/
def ip6CeosKey : Key := ⟨text "MGMT_IPV6_CEOS1_BOTH", by decide⟩

include known in
/-- A placeholder in the address of a RADIUS client is left over, so nothing is rendered. -/
theorem not_rendered_of_placeholder (fits : Fits anyZone values) {other : Key}
    (unknown : other.val ∉ substitutionKeys)
    (inside : contains (placeholder other.val) (values (.ip6 .ceos1Both)) = true) :
    ¬ ∃ written, renderConfigTemplates ceosImage mgmtSubnet mgmtIpv6Subnet = .ok written := by
  rintro ⟨written, rendered⟩
  rw [renderConfigTemplates_of_ok (buildSubstitutions_eq fits known), PyJson.mapM_ok_iff] at rendered
  have held := @lookup_templateItems values ceosImage mgmtSubnet mgmtIpv6Subnet
    (ip6CeosKey.val, [slot (.ip6 .ceos1Both)]) (by decide +kernel)
  rw [valueText_slot] at held
  obtain ⟨before, after, split, first⟩ := List.lookup_eq_some_iff.mp held
  have keys := @isKey_templateItems values ceosImage mgmtSubnet mgmtIpv6Subnet
  have listed : ∀ item ∈ templateItems values ceosImage mgmtSubnet mgmtIpv6Subnet,
      item.1 ∈ substitutionKeys := by
    intro item member
    rw [← @templateItems_keys values ceosImage mgmtSubnet mgmtIpv6Subnet]
    exact List.mem_map_of_mem member
  rw [split] at keys listed
  have hole : contains (placeholder ip6CeosKey.val) (fileText clientsRadsecTemplate) = true := by
    decide +kernel
  obtain ⟨message, fails⟩ := substitutePlaceholders_unresolved keys
    (fun item member same => by simpa [same] using first item member)
    (fun item member same => unknown (same ▸ listed item
      (List.mem_append_right _ (List.mem_cons_of_mem _ member)))) hole inside
  simp only [templatePaths, List.forall₂_cons_left_iff] at rendered
  obtain ⟨-, -, -, ⟨-, -, -, ⟨-, -, -, ⟨-, -, -, ⟨clients, -, renders, -⟩, -⟩, -⟩, -⟩, -⟩ := rendered
  rw [renderFile, split, fails] at renders
  cases renders

end

theorem labSubnet : IPv4Subnet (text "172.20.127.0/24") ⟨0xac147f00, by decide⟩ 24 := by
  unfold IPv4Subnet
  decide +kernel

theorem acceptsDigits_open : AcceptsDigits fun c => c != '$' && c != '\r' where
  digits c least _ := by
    have notDollar : c ≠ '$' := by
      rintro rfl
      exact absurd least (by decide)
    have notReturn : c ≠ '\r' := by
      rintro rfl
      exact absurd least (by decide)
    simp [notDollar, notReturn]
  percent := by decide

/-- Without a `$` and a carriage return in its zone id a subnet renders. -/
theorem fits_of_openZone {mgmtIpv6Subnet zone : Text} {values : MgmtValues}
    (known : subnetValues (text "172.20.127.0/24") mgmtIpv6Subnet = .ok values)
    (v6 : IPv6Subnet mgmtIpv6Subnet (linkLocal zone) 64)
    (plain : zone.all (fun c => c != '$' && c != '\r') = true) : Fits openZone values := by
  refine fits_of_zone (computed_of_subnetValues known) labSubnet v6 acceptsDigits_open ?_
  rintro other ⟨⟩ c inside
  exact List.all_eq_true.mp plain c inside

/-- The template of the third switch has its own IPv6 address in it. -/
theorem ceos3Qkd_present :
    present (slot (.ip6 .ceos3Qkd)) (expanded templateTable (ceosTemplate .ceos3Qkd) ++ [[]]) = true := by
  decide +kernel

/-- A zone id ends up in the addresses of the switch whose link must not name
dot1x. -/
theorem dot1xZone_fails_contract :
    (∃ address prefixLen, IPv4Subnet (text "172.20.127.0/24") address prefixLen) ∧
      (∃ address prefixLen, IPv6Subnet (text "fe80::%dot1x/64") address prefixLen) ∧
      (∃ substitutions, buildSubstitutions (text "ceos:lab") (text "172.20.127.0/24")
        (text "fe80::%dot1x/64") = .ok substitutions) ∧
      ¬ MeetsContract (text "ceos:lab") (text "172.20.127.0/24") (text "fe80::%dot1x/64") := by
  have v6 : IPv6Subnet (text "fe80::%dot1x/64") (linkLocal (text "dot1x")) 64 := by
    unfold IPv6Subnet
    decide +kernel
  obtain ⟨values, known⟩ := @exists_values (text "172.20.127.0/24") (text "fe80::%dot1x/64") (by decide +kernel)
  have fits := fits_of_openZone known v6 (by decide)
  refine ⟨⟨_, _, labSubnet⟩, ⟨_, _, v6⟩, ⟨_, buildSubstitutions_eq (fits_anyZone fits) known⟩, ?_⟩
  have member : noDot1x ∈ checks .ceos3Qkd := by simp [checks, linkChecks]
  have address : contains (text "dot1x") (values (.ip6 .ceos3Qkd)) = true := by
    rw [ip6_eq (computed_of_subnetValues known) v6]
    decide +kernel
  exact not_meetsContract_of_forbidden known fits member address ceos3Qkd_present

/-- White space in a zone id can complete a forbidden text. -/
theorem spacedZone_fails_contract :
    (∃ address prefixLen, IPv6Subnet (text "fe80::%copy flash:/64") address prefixLen) ∧
      (∃ substitutions, buildSubstitutions (text "ceos:lab") (text "172.20.127.0/24")
        (text "fe80::%copy flash:/64") = .ok substitutions) ∧
      ¬ MeetsContract (text "ceos:lab") (text "172.20.127.0/24") (text "fe80::%copy flash:/64") := by
  have v6 : IPv6Subnet (text "fe80::%copy flash:/64") (linkLocal (text "copy flash:")) 64 := by
    unfold IPv6Subnet
    decide +kernel
  obtain ⟨values, known⟩ :=
    @exists_values (text "172.20.127.0/24") (text "fe80::%copy flash:/64") (by decide +kernel)
  have fits := fits_of_openZone known v6 (by decide)
  refine ⟨⟨_, _, v6⟩, ⟨_, buildSubstitutions_eq (fits_anyZone fits) known⟩, ?_⟩
  have listed : forbids (lit "copy flash:")
      (lit "must not use copy flash in startup-config (use containerlab exec)") ∈ controlPlaneChecks := by
    simp [controlPlaneChecks]
  have included : controlPlaneChecks ⊆ checks .ceos3Qkd := by
    intro check member
    simp only [checks, serviceChecks, List.mem_append, member, or_true, true_or]
  have address : contains (text "copy flash:") (values (.ip6 .ceos3Qkd)) = true := by
    rw [ip6_eq (computed_of_subnetValues known) v6]
    decide +kernel
  exact not_meetsContract_of_forbidden known fits (included listed) address ceos3Qkd_present

/-- A `$` in a zone id can open a placeholder of its own. -/
theorem placeholderZone_not_rendered :
    (∃ address prefixLen, IPv6Subnet (text "fe80::%$\x7bZONE\x7d/64") address prefixLen) ∧
      (∃ substitutions, buildSubstitutions (text "ceos:lab") (text "172.20.127.0/24")
        (text "fe80::%$\x7bZONE\x7d/64") = .ok substitutions) ∧
      ¬ ∃ written, renderConfigTemplates (text "ceos:lab") (text "172.20.127.0/24")
        (text "fe80::%$\x7bZONE\x7d/64") = .ok written := by
  have v6 : IPv6Subnet (text "fe80::%$\x7bZONE\x7d/64") (linkLocal (text "$\x7bZONE\x7d")) 64 := by
    unfold IPv6Subnet
    decide +kernel
  obtain ⟨values, known⟩ :=
    @exists_values (text "172.20.127.0/24") (text "fe80::%$\x7bZONE\x7d/64") (by decide +kernel)
  have computed := computed_of_subnetValues known
  have fits : Fits anyZone values :=
    fits_of_zone computed labSubnet v6 ⟨fun _ _ _ => rfl, rfl⟩ fun _ _ _ _ => rfl
  refine ⟨⟨_, _, v6⟩, ⟨_, buildSubstitutions_eq fits known⟩, ?_⟩
  have address : contains (placeholder (text "ZONE")) (values (.ip6 .ceos1Both)) = true := by
    rw [ip6_eq computed v6]
    decide +kernel
  exact @not_rendered_of_placeholder _ _ _ values known fits ⟨text "ZONE", by decide⟩ (by decide +kernel) address

end QuantumSafe.RenderTopo
