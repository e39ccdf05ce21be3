import QuantumSafe.MgmtAddresses
import QuantumSafe.RenderedContract

set_option autoImplicit false

/- The addresses that the live checks probe, and the addresses that
`render_topology` writes into the topology. -/
namespace QuantumSafe.RenderTopo

open PyText PyIpAddress SymbolicText CeosContract Reports

/-- `IP_FAMILIES`. -/
inductive IpFamily where
  | ipv4
  | ipv6
deriving DecidableEq, Repr

/-- The addresses of a node of the topology file. -/
structure NodeEntry where
  mgmtIpv4 : Text
  mgmtIpv6 : Text
deriving DecidableEq

def NodeEntry.address (entry : NodeEntry) : IpFamily → Text
  | .ipv4 => entry.mgmtIpv4
  | .ipv6 => entry.mgmtIpv6

/-- `lab/quantum-safe.clab.yml`: the `mgmt-ipv4` and `mgmt-ipv6` of each node. -/
def topologyEntry : LabNode → NodeEntry
  | .ceos1Both => ⟨text "${MGMT_IP_CEOS1_BOTH}", text "${MGMT_IPV6_CEOS1_BOTH}"⟩
  | .ceos2Pqc => ⟨text "${MGMT_IP_CEOS2_PQC}", text "${MGMT_IPV6_CEOS2_PQC}"⟩
  | .ceos3Qkd => ⟨text "${MGMT_IP_CEOS3_QKD}", text "${MGMT_IPV6_CEOS3_QKD}"⟩
  | .host1 => ⟨text "${MGMT_IP_HOST1}", text "${MGMT_IPV6_HOST1}"⟩
  | .host2 => ⟨text "${MGMT_IP_HOST2}", text "${MGMT_IPV6_HOST2}"⟩
  | .host3 => ⟨text "${MGMT_IP_HOST3}", text "${MGMT_IPV6_HOST3}"⟩
  | .radius => ⟨text "${MGMT_IP_RADIUS}", text "${MGMT_IPV6_RADIUS}"⟩
  | .syslog => ⟨text "${MGMT_IP_SYSLOG}", text "${MGMT_IPV6_SYSLOG}"⟩
  | .kmeA => ⟨text "${MGMT_IP_KME_A}", text "${MGMT_IPV6_KME_A}"⟩
  | .kmeB => ⟨text "${MGMT_IP_KME_B}", text "${MGMT_IPV6_KME_B}"⟩
  | .testRunner => ⟨text "${MGMT_IP_TEST_RUNNER}", text "${MGMT_IPV6_TEST_RUNNER}"⟩

def renderEntry (substitutions : List (Text × Text)) (entry : NodeEntry) : Except RenderError NodeEntry := do
  let mgmtIpv4 ← (substitutePlaceholders entry.mgmtIpv4 substitutions).mapError .unresolved
  let mgmtIpv6 ← (substitutePlaceholders entry.mgmtIpv6 substitutions).mapError .unresolved
  return ⟨mgmtIpv4, mgmtIpv6⟩

/-- `render_topology`: the node entries of the file that it writes. -/
def renderTopology (ceosImage mgmtSubnet mgmtIpv6Subnet : Text) :
    Except RenderError (List (LabNode × NodeEntry)) := do
  let substitutions ← buildSubstitutions ceosImage mgmtSubnet mgmtIpv6Subnet
  LabNode.all.mapM fun node => do
    return (node, ← renderEntry substitutions (topologyEntry node))

structure LabTargets where
  clabName : Text
  mgmtIps : LabNode → Text
  mgmtIps6 : LabNode → Text
  ceosIps : Ceos → Text
  ceosIps6 : Ceos → Text

def LabTargets.serviceIp (targets : LabTargets) (service : LabNode) : IpFamily → Text
  | .ipv4 => targets.mgmtIps service
  | .ipv6 => targets.mgmtIps6 service

def LabTargets.ceosMgmtIp (targets : LabTargets) (ceos : Ceos) : IpFamily → Text
  | .ipv4 => targets.ceosIps ceos
  | .ipv6 => targets.ceosIps6 ceos

/-- The IPv6 addresses are those of the default subnet. -/
def labTargetsForSubnet (clabName mgmtSubnet : Text) : Except AddressError LabTargets := do
  let ips ← mgmtIpsForSubnet (some mgmtSubnet)
  let ips6 ← mgmtIpv6IpsForSubnet none
  return ⟨clabName, ips, ips6, fun ceos => ips ceos.node, fun ceos => ips6 ceos.node⟩

/-- Every node is probed at its addresses in the topology. -/
def ProbesRendered (clabName mgmtSubnet : Text) (nodes : List (LabNode × NodeEntry)) : Prop :=
  ∃ targets, labTargetsForSubnet clabName mgmtSubnet = .ok targets ∧
    ∀ node entry, (node, entry) ∈ nodes → ∀ family,
      targets.serviceIp node family = entry.address family ∧
        ∀ ceos : Ceos, ceos.node = node → targets.ceosMgmtIp ceos family = entry.address family

/-- The network address reads as that of `DEFAULT_MGMT_IPV6_SUBNET`. -/
def DefaultNetworkAddress (mgmtIpv6Subnet : Text) : Prop :=
  ∃ network, ipNetwork (subnetOr defaultMgmtIpv6Subnet (some mgmtIpv6Subnet)) = .ok network ∧
    network.networkAddress.str = text "2001:db8:127::"

/- A placeholder on its own. -/

/-- Text before the first `$` is kept by every replacement. -/
theorem foldl_replace_kept {kept : Text} (plain : '$' ∉ kept) (items : List (Text × Text)) (rest : Text) :
    items.foldl (fun rendered item => replace (placeholder item.1) item.2 rendered) (kept ++ rest) =
      kept ++ items.foldl (fun rendered item => replace (placeholder item.1) item.2 rendered) rest := by
  induction items generalizing rest with
  | nil => rfl
  | cons item items ih =>
      have passed : replace (placeholder item.1) item.2 (kept ++ rest) =
          kept ++ replace (placeholder item.1) item.2 rest := by
        apply replace_passed
        intro after filled suffix
        apply not_placeholder_prefix filled
        intro inside
        exact plain (suffix.subset inside)
      rw [List.foldl_cons, List.foldl_cons, passed, ih]

/-- A placeholder becomes its value, of which what stands before the first `$` is kept. -/
theorem substitutePlaceholders_placeholder {items : List (Text × Text)}
    (keys : ∀ item ∈ items, IsKey item.1) {key kept rest rendered : Text} (valid : IsKey key)
    (found : items.lookup key = some (kept ++ rest)) (plain : '$' ∉ kept)
    (ok : substitutePlaceholders (placeholder key) items = .ok rendered) : kept <+: rendered := by
  obtain ⟨before, after, split, absent⟩ := List.lookup_eq_some_iff.mp found
  have unused : before.foldl (fun rendered item => replace (placeholder item.1) item.2 rendered)
      (placeholder key) = placeholder key := by
    have none : before.lookup key = none := List.lookup_eq_none_iff.mpr absent
    have filled := foldl_replace_lookup before
      (fun item member => keys item (split ▸ List.mem_append_left _ member))
      [.hole ⟨key, valid⟩] (by
        intro other value member got
        rw [List.mem_singleton, Segment.hole.injEq] at member
        rw [member, none] at got
        cases got)
    simpa [Template.source, Segment.source, Segment.lookup, none] using filled
  have here : replace (placeholder key) (kept ++ rest) (placeholder key) = kept ++ rest := by
    have whole := replace_occurrence (placeholder key) (kept ++ rest) [] (by simp [placeholder, text])
    simpa [replace, replaceFrom, placeholder, text] using whole
  unfold substitutePlaceholders at ok
  dsimp only at ok
  split at ok
  · cases ok
  · cases ok
    rw [split, List.foldl_append, unused, List.foldl_cons, here, foldl_replace_kept plain]
    exact List.prefix_append _ _

theorem substitutePlaceholders_plain {items : List (Text × Text)} (keys : ∀ item ∈ items, IsKey item.1)
    {key value : Text} (valid : IsKey key) (found : items.lookup key = some value) (plain : '$' ∉ value) :
    substitutePlaceholders (placeholder key) items = .ok value := by
  have known (other : Key) (member : .hole other ∈ [Segment.hole ⟨key, valid⟩]) :
      ∃ value, items.lookup other.val = some value ∧ '$' ∉ value := by
    rw [List.mem_singleton, Segment.hole.injEq] at member
    rw [member]
    exact ⟨value, found, plain⟩
  have complete := substitutePlaceholders_complete keys known
  simpa [Template.source, Segment.source, Segment.lookup, found] using complete

/- What the two sides compute. -/

/-- The name of a node in the placeholders. -/
def placeholderName : LabNode → Text
  | .ceos1Both => text "CEOS1_BOTH"
  | .ceos2Pqc => text "CEOS2_PQC"
  | .ceos3Qkd => text "CEOS3_QKD"
  | .host1 => text "HOST1"
  | .host2 => text "HOST2"
  | .host3 => text "HOST3"
  | .radius => text "RADIUS"
  | .syslog => text "SYSLOG"
  | .kmeA => text "KME_A"
  | .kmeB => text "KME_B"
  | .testRunner => text "TEST_RUNNER"

def ipKey (node : LabNode) : Text := text "MGMT_IP_" ++ placeholderName node

def ip6Key (node : LabNode) : Text := text "MGMT_IPV6_" ++ placeholderName node

theorem topologyEntry_eq (node : LabNode) :
    topologyEntry node = ⟨placeholder (ipKey node), placeholder (ip6Key node)⟩ := by
  cases node <;> rfl

theorem isKey_ipKey (node : LabNode) : IsKey (ipKey node) := by
  cases node <;> decide

theorem isKey_ip6Key (node : LabNode) : IsKey (ip6Key node) := by
  cases node <;> decide

theorem dollar_notMem_natText (n : Nat) : '$' ∉ natText n := by
  intro inside
  exact absurd (isDigit_of_mem_natText inside) (by decide)

theorem dollar_notMem_digits (address : IPv6Address) : '$' ∉ address.digits := by
  intro inside
  exact absurd (range_of_mem_digits inside) (by decide)

theorem dollar_notMem_v4 (address : IPv4Address) : '$' ∉ address.str := by
  intro inside
  rcases mem_str_v4 address inside with digit | dot
  · exact absurd digit (by decide)
  · exact absurd dot (by decide)

/-- A sum has no zone id, so its text has no `$`. -/
theorem dollar_notMem_mgmtIp {subnet : Option Text} {suffix : Nat} {host : Text}
    (ok : mgmtIp subnet suffix = .ok host) : '$' ∉ host := by
  obtain ⟨network, -, ok⟩ := bind_ok_iff.mp ok
  obtain ⟨sum, added, same⟩ := bind_ok_iff.mp ok
  cases same
  cases address : network.networkAddress with
  | v4 first =>
      rw [address] at added
      obtain ⟨v4, -, rfl⟩ := map_ok_iff.mp added
      exact dollar_notMem_v4 v4
  | v6 first =>
      rw [address] at added
      obtain ⟨v6, shown⟩ := add_v6_digits added
      rw [shown]
      exact dollar_notMem_digits v6

/-- A text of an address has no `$` but behind the mark of a zone id. -/
theorem str_dollar (address : Address) :
    '$' ∉ address.str ∨ ∃ digits zone, address.str = digits ++ '%' :: zone ∧ '$' ∉ digits := by
  cases address with
  | v4 v4 => exact Or.inl (dollar_notMem_v4 v4)
  | v6 v6 =>
      rw [Address.str, IPv6Address.str]
      split
      · exact Or.inl (dollar_notMem_digits v6)
      · exact Or.inr ⟨v6.digits, _, rfl, dollar_notMem_digits v6⟩

section

variable {ceosImage mgmtSubnet mgmtIpv6Subnet : Text} {substitutions : List (Text × Text)}

/-- The dictionary holds the addresses of all nodes under valid keys. -/
theorem addresses_of_buildSubstitutions
    (ok : buildSubstitutions ceosImage mgmtSubnet mgmtIpv6Subnet = .ok substitutions) :
    (∀ item ∈ substitutions, IsKey item.1) ∧
      ∃ values, ComputedValues mgmtSubnet mgmtIpv6Subnet values ∧
        ∀ node, substitutions.lookup (ipKey node) = some (values (.ip node)) ∧
          substitutions.lookup (ip6Key node) = some (values (.ip6 node)) := by
  obtain ⟨values, known, ok⟩ := bind_ok_iff.mp ok
  obtain ⟨macsecMaster, -, ok⟩ := bind_ok_iff.mp ok
  obtain ⟨macsecSlave, -, ok⟩ := bind_ok_iff.mp ok
  obtain ⟨daemonMaster, -, ok⟩ := bind_ok_iff.mp ok
  obtain ⟨daemonSlave, -, ok⟩ := bind_ok_iff.mp ok
  cases ok
  constructor
  · apply isKey_of_keys substitutionKeys
    · simp only [substitutionKeys, substitutionItems, List.map_cons, List.map_nil]
    · decide +kernel
  · refine ⟨values, computed_of_subnetValues (mapError_ok_iff.mp known), ?_⟩
    intro node
    cases node <;> exact ⟨rfl, rfl⟩

/-- What is rendered into the entry of a node: its addresses, up to the first `$`. -/
structure RenderedAddress (values : MgmtValues) (node : LabNode) (entry : NodeEntry) : Prop where
  ip : entry.mgmtIpv4 = values (.ip node)
  ip6 : '$' ∉ values (.ip6 node) → entry.mgmtIpv6 = values (.ip6 node)
  ip6_front : ∀ kept rest, values (.ip6 node) = kept ++ rest → '$' ∉ kept → kept <+: entry.mgmtIpv6

theorem rendered_of_renderEntry {values : MgmtValues} {node : LabNode} {entry : NodeEntry}
    (keys : ∀ item ∈ substitutions, IsKey item.1) (computed : ComputedValues mgmtSubnet mgmtIpv6Subnet values)
    (ipHeld : substitutions.lookup (ipKey node) = some (values (.ip node)))
    (ip6Held : substitutions.lookup (ip6Key node) = some (values (.ip6 node)))
    (ok : renderEntry substitutions (topologyEntry node) = .ok entry) :
    RenderedAddress values node entry := by
  obtain ⟨mgmtIpv4, ipv4, ok⟩ := bind_ok_iff.mp ok
  obtain ⟨mgmtIpv6, ipv6, ok⟩ := bind_ok_iff.mp ok
  cases ok
  rw [topologyEntry_eq] at ipv4 ipv6
  have ip4 := substitutePlaceholders_plain keys (isKey_ipKey node) ipHeld
    (dollar_notMem_mgmtIp (computed.ip node))
  refine ⟨Except.ok.inj ((mapError_ok_iff.mp ipv4).symm.trans ip4), ?_, ?_⟩
  · intro plain
    have ip6 := substitutePlaceholders_plain keys (isKey_ip6Key node) ip6Held plain
    exact Except.ok.inj ((mapError_ok_iff.mp ipv6).symm.trans ip6)
  · intro kept rest split plain
    exact substitutePlaceholders_placeholder keys (isKey_ip6Key node) (split ▸ ip6Held) plain
      (mapError_ok_iff.mp ipv6)

theorem exists_of_mem_right {α β : Type} {R : α → β → Prop} {left : List α} {right : List β}
    (related : List.Forall₂ R left right) {b : β} (member : b ∈ right) : ∃ a ∈ left, R a b := by
  induction related with
  | nil => cases member
  | cons here _ ih =>
      rcases List.mem_cons.mp member with rfl | later
      · exact ⟨_, List.mem_cons_self, here⟩
      · obtain ⟨a, inside, holds⟩ := ih later
        exact ⟨a, List.mem_cons_of_mem _ inside, holds⟩

/-- Every entry shows the addresses of its node, and there is one of the first switch. -/
theorem renderTopology_ok {nodes : List (LabNode × NodeEntry)}
    (rendered : renderTopology ceosImage mgmtSubnet mgmtIpv6Subnet = .ok nodes) :
    ∃ values, ComputedValues mgmtSubnet mgmtIpv6Subnet values ∧
      (∀ node entry, (node, entry) ∈ nodes → RenderedAddress values node entry) ∧
      ∃ entry, (LabNode.ceos1Both, entry) ∈ nodes := by
  obtain ⟨substitutions, built, rendered⟩ := bind_ok_iff.mp rendered
  obtain ⟨keys, values, computed, held⟩ := addresses_of_buildSubstitutions built
  have made := (PyJson.mapM_ok_iff _ _ _).mp rendered
  refine ⟨values, computed, ?_, ?_⟩
  · intro node entry member
    obtain ⟨listed, -, ok⟩ := exists_of_mem_right made member
    obtain ⟨other, ok, same⟩ := bind_ok_iff.mp ok
    cases same
    exact rendered_of_renderEntry keys computed (held node).1 (held node).2 ok
  · obtain ⟨item, rest, ok, -, rfl⟩ := List.forall₂_cons_left_iff.mp made
    obtain ⟨entry, -, same⟩ := bind_ok_iff.mp ok
    cases same
    exact ⟨entry, List.mem_cons_self⟩

theorem defaultMgmtIpv6Ips :
    mgmtIpv6IpsForSubnet none = .ok fun node => text "2001:db8:127::" ++ natText node.hostSuffix := by
  have v6 : ipNetwork (subnetOr defaultMgmtIpv6Subnet none) =
      .ok ⟨.v6 ⟨0x20010db8012700000000000000000000, none, by decide⟩, 64⟩ := by
    decide +kernel
  have shown : IPv6Address.str ⟨0x20010db8012700000000000000000000, none, by decide⟩ =
      text "2001:db8:127::" := by
    decide +kernel
  rw [mgmtIpv6Ips_eq v6, shown]

/-- The targets are computed for every subnet that is rendered. -/
theorem labTargetsForSubnet_of_computed (clabName : Text) {values : MgmtValues}
    (computed : ComputedValues mgmtSubnet mgmtIpv6Subnet values) :
    labTargetsForSubnet clabName mgmtSubnet =
      .ok ⟨clabName, fun node => values (.ip node),
        fun node => text "2001:db8:127::" ++ natText node.hostSuffix,
        fun ceos => values (.ip ceos.node),
        fun ceos => text "2001:db8:127::" ++ natText ceos.node.hostSuffix⟩ := by
  have ips : mgmtIpsForSubnet (some mgmtSubnet) = .ok fun node => values (.ip node) :=
    forEveryNode_of_ok computed.ip
  rw [labTargetsForSubnet, ips, defaultMgmtIpv6Ips]
  rfl

/-- All addresses of the IPv6 family start with the text of the network address. -/
theorem ip6_of_computed {values : MgmtValues}
    (computed : ComputedValues mgmtSubnet mgmtIpv6Subnet values) :
    ∃ network, ipNetwork (subnetOr defaultMgmtIpv6Subnet (some mgmtIpv6Subnet)) = .ok network ∧
      ∀ node, values (.ip6 node) = network.networkAddress.str ++ natText node.hostSuffix := by
  obtain ⟨network, parsed, -⟩ := bind_ok_iff.mp (computed.ip6 .ceos1Both)
  refine ⟨network, parsed, ?_⟩
  intro node
  have made := computed.ip6 node
  rw [mgmtIpv6Ip, parsed] at made
  exact (Except.ok.inj made).symm

/-- An entry shows an address of the default network only for the default network. -/
theorem str_eq_of_rendered {address : Address} {values : MgmtValues} {node : LabNode} {entry : NodeEntry}
    (value : values (.ip6 node) = address.str ++ natText node.hostSuffix)
    (rendered : RenderedAddress values node entry)
    (same : entry.mgmtIpv6 = text "2001:db8:127::" ++ natText node.hostSuffix) :
    address.str = text "2001:db8:127::" := by
  rcases str_dollar address with plain | ⟨digits, zone, shown, plain⟩
  · have whole : '$' ∉ values (.ip6 node) := by
      rw [value, List.mem_append, not_or]
      exact ⟨plain, dollar_notMem_natText _⟩
    rw [rendered.ip6 whole, value] at same
    exact List.append_cancel_right same
  · -- The mark of the zone id is kept, and no probed address has one.
    have front := rendered.ip6_front (digits ++ ['%']) (zone ++ natText node.hostSuffix)
      (by rw [value, shown]; simp) (by simp [plain])
    have mark : '%' ∈ text "2001:db8:127::" ++ natText node.hostSuffix := by
      rw [← same]
      exact front.subset (by simp)
    rcases List.mem_append.mp mark with network | suffix
    · exact absurd network (by decide)
    · exact absurd (isDigit_of_mem_natText suffix) (by decide)

/-- The live checks probe the addresses in the topology iff the IPv6 subnet that was
rendered has the network address of the default one. -/
theorem probesRendered_iff (clabName : Text) {nodes : List (LabNode × NodeEntry)}
    (rendered : renderTopology ceosImage mgmtSubnet mgmtIpv6Subnet = .ok nodes) :
    ProbesRendered clabName mgmtSubnet nodes ↔ DefaultNetworkAddress mgmtIpv6Subnet := by
  obtain ⟨values, computed, shown, first, listed⟩ := renderTopology_ok rendered
  obtain ⟨network, parsed, value⟩ := ip6_of_computed computed
  have targets := labTargetsForSubnet_of_computed clabName computed
  constructor
  · intro probes
    obtain ⟨found, known, agree⟩ := probes
    rw [targets] at known
    cases known
    have same := (agree .ceos1Both first listed .ipv6).1
    exact ⟨network, parsed, str_eq_of_rendered (value .ceos1Both) (shown _ _ listed) same.symm⟩
  · intro default
    obtain ⟨found, known, reads⟩ := default
    rw [parsed] at known
    cases known
    refine ⟨_, targets, ?_⟩
    intro node entry member
    have address := shown node entry member
    have ip6 : entry.mgmtIpv6 = text "2001:db8:127::" ++ natText node.hostSuffix := by
      rw [← reads, ← value node]
      apply address.ip6
      rw [value node, reads, List.mem_append, not_or]
      exact ⟨by decide, dollar_notMem_natText _⟩
    intro family
    cases family with
    | ipv4 =>
        refine ⟨address.ip.symm, ?_⟩
        rintro ceos rfl
        exact address.ip.symm
    | ipv6 =>
        refine ⟨ip6.symm, ?_⟩
        rintro ceos rfl
        exact ip6.symm

end

/-- Subnets whose values have no `$` render with these values. -/
theorem renderTopology_of_fits (ceosImage : Text) {mgmtSubnet mgmtIpv6Subnet : Text} {values : MgmtValues}
    (fits : Fits mgmtAllowed values) (known : subnetValues mgmtSubnet mgmtIpv6Subnet = .ok values) :
    renderTopology ceosImage mgmtSubnet mgmtIpv6Subnet =
      .ok (LabNode.all.map fun node => (node, ⟨values (.ip node), values (.ip6 node)⟩)) := by
  have built := @buildSubstitutions_eq values (fits_anyZone (fits_openZone fits)) ceosImage _ _ known
  obtain ⟨keys, held, computed, lookups⟩ := addresses_of_buildSubstitutions built
  have same : ComputedValues mgmtSubnet mgmtIpv6Subnet values := computed_of_subnetValues known
  have entries (node : LabNode) : renderEntry (templateItems values ceosImage mgmtSubnet mgmtIpv6Subnet)
      (topologyEntry node) = .ok ⟨values (.ip node), values (.ip6 node)⟩ := by
    have ip : held (.ip node) = values (.ip node) :=
      Except.ok.inj ((computed.ip node).symm.trans (same.ip node))
    have ip6 : held (.ip6 node) = values (.ip6 node) :=
      Except.ok.inj ((computed.ip6 node).symm.trans (same.ip6 node))
    have plain (name : MgmtValue) : '$' ∉ values name := by
      intro inside
      have allowed := fits name '$' inside
      cases name <;> cases allowed
    have first := substitutePlaceholders_plain keys (isKey_ipKey node) (ip ▸ (lookups node).1)
      (plain (.ip node))
    have second := substitutePlaceholders_plain keys (isKey_ip6Key node) (ip6 ▸ (lookups node).2)
      (plain (.ip6 node))
    rw [topologyEntry_eq, renderEntry, first, second]
    rfl
  rw [renderTopology, built]
  simp only [LabNode.all, bind, Except.bind, List.mapM_cons, List.mapM_nil, entries]
  rfl

theorem exists_renderTopology (ceosImage : Text) {mgmtSubnet mgmtIpv6Subnet : Text}
    {address4 : IPv4Address} {address6 : IPv6Address} {prefixLen4 prefixLen6 : Nat}
    (v4 : IPv4Subnet mgmtSubnet address4 prefixLen4) (v6 : IPv6Subnet mgmtIpv6Subnet address6 prefixLen6)
    (unscoped : address6.scopeId = none) (isOk : (subnetValues mgmtSubnet mgmtIpv6Subnet).isOk = true) :
    ∃ nodes, renderTopology ceosImage mgmtSubnet mgmtIpv6Subnet = .ok nodes := by
  obtain ⟨values, known⟩ := exists_values isOk
  have visible : ∀ zone ∈ address6.scopeId, ∀ c ∈ zone, isSpace c = false ∧ c ≠ '$' := by
    intro zone inside
    rw [unscoped] at inside
    cases inside
  have fits := fits_of_computed (computed_of_subnetValues known) v4 v6 visible
  exact ⟨_, renderTopology_of_fits ceosImage fits known⟩

theorem probesRendered_iff_default :
    ∃ nodes, renderTopology (text "ceos:lab") (text "10.9.0.0/16") (text "2001:db8:127::/56") = .ok nodes ∧
      ProbesRendered labName (text "10.9.0.0/16") nodes := by
  have v4 : IPv4Subnet (text "10.9.0.0/16") ⟨0x0a090000, by decide⟩ 16 := by
    unfold IPv4Subnet
    decide +kernel
  have v6 : IPv6Subnet (text "2001:db8:127::/56") ⟨0x20010db8012700000000000000000000, none, by decide⟩ 56 := by
    unfold IPv6Subnet
    decide +kernel
  obtain ⟨nodes, rendered⟩ := exists_renderTopology (text "ceos:lab") v4 v6 rfl (by decide +kernel)
  have default : DefaultNetworkAddress (text "2001:db8:127::/56") := ⟨_, v6, by decide +kernel⟩
  exact ⟨nodes, rendered, (probesRendered_iff labName rendered).mpr default⟩

/-- A lab on another IPv6 subnet is probed on the default one. -/
theorem not_probesRendered_otherSubnet :
    ¬ ∀ ceosImage mgmtSubnet mgmtIpv6Subnet nodes,
      renderTopology ceosImage mgmtSubnet mgmtIpv6Subnet = .ok nodes →
        ProbesRendered labName mgmtSubnet nodes := by
  intro every
  have v4 : IPv4Subnet (text "172.20.127.0/24") ⟨0xac147f00, by decide⟩ 24 := by
    unfold IPv4Subnet
    decide +kernel
  have v6 : IPv6Subnet (text "2001:db8:200::/64") ⟨0x20010db8020000000000000000000000, none, by decide⟩ 64 := by
    unfold IPv6Subnet
    decide +kernel
  obtain ⟨nodes, rendered⟩ := exists_renderTopology (text "ceos:lab") v4 v6 rfl (by decide +kernel)
  obtain ⟨values, computed, shown, first, listed⟩ := renderTopology_ok rendered
  obtain ⟨targets, known, agree⟩ := every _ _ _ _ rendered
  rw [labTargetsForSubnet_of_computed labName computed] at known
  cases known
  have same := (agree .ceos1Both first listed .ipv6).1
  have value : values (.ip6 .ceos1Both) =
      (Address.v6 ⟨0x20010db8020000000000000000000000, none, by decide⟩).str ++
        natText LabNode.ceos1Both.hostSuffix := ip6_eq computed v6 .ceos1Both
  exact absurd (str_eq_of_rendered value (shown _ _ listed) same.symm) (by decide +kernel)

end QuantumSafe.RenderTopo
