import QuantumSafe.LabTopology
import QuantumSafe.TopologyShapes

set_option autoImplicit false

/- When `validate_topology` returns its list of violations: the shapes of all checks
put together, and the room that the subnets need. -/
namespace QuantumSafe.LabContract

open PyText PyValue PyIpAddress CeosContract RenderTopo Reports
open PyRegex (WordClass)

section

variable {nodes topology : Value} {key : Text}

theorem nodeShape_at :
    dictWith [(key, nodeShape)] nodes = true ↔
      dictWith [(key, dictWith [bindsEntry])] nodes = true ∧
        dictWith [(key, dictWith [execEntry])] nodes = true :=
  dictWith_both fun _ => dictWith_cons

/-- That a service may be null where it is checked for itself is of no use to it. -/
theorem nodeShape_at_nullOr :
    dictWith [(key, nodeShape)] nodes = true ↔
      dictWith [(key, nullOr (dictWith [bindsEntry]))] nodes = true ∧
        dictWith [(key, dictWith [execEntry])] nodes = true := by
  apply dictWith_both
  intro cfg
  rw [nullOr_and_iff isDict_of_dictWith]
  exact dictWith_cons

theorem kmeShape_at :
    dictWith [(key, kmeShape)] nodes = true ↔
      dictWith [(key, nullOr fun cfg => dictWith [bindsEntry, envEntry] cfg && capsShape cfg)] nodes =
          true ∧
        dictWith [(key, dictWith [execEntry])] nodes = true := by
  apply dictWith_both
  intro cfg
  have parts : dictWith [bindsEntry, envEntry, execEntry] cfg = true ↔
      dictWith [bindsEntry, envEntry] cfg = true ∧ dictWith [execEntry] cfg = true :=
    @dictWith_append [bindsEntry, envEntry] [execEntry] cfg
  rw [nullOr_and_iff isDict_of_dictWith, kmeShape, Bool.and_eq_true, Bool.and_eq_true, parts]
  tauto

theorem nodesShape_iff :
    nodesShape nodes = true ↔
      nodes.isDict = true ∧ (∀ ceos ∈ Ceos.all, dictWith [(ceos.name, nodeShape)] nodes = true) ∧
        (∀ expected ∈ hostDataPlane, dictWith [(expected.host.name, hostShape)] nodes = true) ∧
        dictWith [(LabNode.radius.name, nodeShape)] nodes = true ∧
        dictWith [(LabNode.syslog.name, nodeShape)] nodes = true ∧
        dictWith [(LabNode.testRunner.name, nodeShape)] nodes = true ∧
        dictWith [(kmeNodeA.node.name, kmeShape)] nodes = true ∧
        dictWith [(kmeNodeB.node.name, kmeShape)] nodes = true := by
  rw [nodesShape, dictWith_iff]
  simp only [List.forall_mem_append, List.forall_mem_map, List.forall_mem_cons, List.not_mem_nil,
    false_imp_iff, implies_true, and_true, and_assoc]

/-- Every node of the lab is absent, null or a mapping. -/
theorem nullOr_of_nodesShape (shaped : nodesShape nodes = true) (node : LabNode) :
    dictWith [(node.name, nullOr Value.isDict)] nodes = true := by
  obtain ⟨-, switches, hosts, radius, syslog, runner, kmeA, kmeB⟩ := nodesShape_iff.mp shaped
  have mapped {shapes : List (Text × (Value → Bool))} {name : Text}
      (shaped : dictWith [(name, dictWith shapes)] nodes = true) :
      dictWith [(name, nullOr Value.isDict)] nodes = true :=
    dictWith_mono (fun _ of => nullOr_of (isDict_of_dictWith of)) shaped
  have host {name : Text} (shaped : dictWith [(name, hostShape)] nodes = true) :
      dictWith [(name, nullOr Value.isDict)] nodes = true :=
    dictWith_mono (fun _ of => nullOr_mono isDict_of_dictWith of) shaped
  have kme {name : Text} (shaped : dictWith [(name, kmeShape)] nodes = true) :
      dictWith [(name, nullOr Value.isDict)] nodes = true :=
    mapped (kmeShape_at.mp shaped).2
  cases node with
  | ceos1Both => exact mapped (switches .ceos1Both (by decide))
  | ceos2Pqc => exact mapped (switches .ceos2Pqc (by decide))
  | ceos3Qkd => exact mapped (switches .ceos3Qkd (by decide))
  | host1 => exact host (hosts _ (.head _))
  | host2 => exact host (hosts _ (.tail _ (.head _)))
  | host3 => exact host (hosts _ (.tail _ (.tail _ (.head _))))
  | radius => exact mapped radius
  | syslog => exact mapped syslog
  | kmeA => exact kme kmeA
  | kmeB => exact kme kmeB
  | testRunner => exact mapped runner

variable {printable : Char → Bool} {ips ips6 : LabNode → Text} {swix : Option QuadraSwix}

theorem returns_topologyErrors_iff :
    Returns (topologyErrors printable topology ips ips6 swix) ↔
      dictWith [(text "nodes", nodesShape), (text "links", eachOf linkShape)] topology = true := by
  have radiusSome : radiusBinds ≠ [] := List.cons_ne_nil _ _
  have syslogSome : syslogBinds ≠ [] := List.cons_ne_nil _ _
  have runnerSome : testRunnerBinds ≠ [] := List.cons_ne_nil _ _
  have radiusImage : ∀ cfg : Value, Returns (fieldErrors cfg (text "image") radiusImage
      (text "radius image must be " ++ radiusImage)) ↔ cfg.isDict = true :=
    fun _ => returns_fieldErrors_iff
  have syslog : ∀ cfg : Value, Returns (linuxNodeErrors cfg .syslog syslogImage ips syslogBinds) ↔
      dictWith [bindsEntry] cfg = true :=
    fun _ => returns_linuxNodeErrors_iff syslogSome
  have runner : ∀ cfg : Value,
      Returns (linuxNodeErrors cfg .testRunner testRunnerImage ips testRunnerBinds) ↔
        dictWith [bindsEntry] cfg = true :=
    fun _ => returns_linuxNodeErrors_iff runnerSome
  rw [dictWith_cons]
  constructor
  · intro returns
    obtain ⟨nodes, there, returns⟩ := returns_bind_iff.mp returns
    rw [returns_inTurn_iff] at returns
    simp only [List.forall_mem_cons, returns_forEach_iff, returns_nodeErrors_iff syslog,
      returns_nodeErrors_iff runner, returns_nodeBindsErrors_iff radiusSome, returns_kmeNodeErrors_iff,
      returns_kmeLinkErrors_iff, returns_ceosNodeErrors_iff, returns_validateHostDataPlane_iff,
      returns_validateMgmtTopologyNodes_iff] at returns
    obtain ⟨-, -, -, syslogBinds, -, radiusBinds, kmeA, kmeB, runnerBinds, links, switches, -, -, hosts,
      ⟨-, exec⟩, -⟩ := returns
    have shaped : nodesShape nodes = true := by
      refine nodesShape_iff.mpr ⟨isDict_of_dictWith kmeA, ?_, hosts, ?_, ?_, ?_, ?_, ?_⟩
      · exact fun ceos member => nodeShape_at.mpr (switches ceos member)
      · exact nodeShape_at.mpr ⟨radiusBinds, exec .radius (by decide)⟩
      · exact nodeShape_at_nullOr.mpr ⟨syslogBinds, exec .syslog (by decide)⟩
      · exact nodeShape_at_nullOr.mpr ⟨runnerBinds, exec .testRunner (by decide)⟩
      · exact kmeShape_at.mpr ⟨kmeA, exec .kmeA (by decide)⟩
      · exact kmeShape_at.mpr ⟨kmeB, exec .kmeB (by decide)⟩
    exact ⟨dictWith_of_getOr there shaped, links⟩
  · rintro ⟨shaped, links⟩
    refine returns_getOr_bind (fun nodes shaped => ?_) rfl shaped
    obtain ⟨dict, switches, hosts, radius, syslogNode, runnerNode, kmeA, kmeB⟩ := nodesShape_iff.mp shaped
    have every := nullOr_of_nodesShape shaped
    have binds : ∀ ceos ∈ Ceos.all, dictWith [(ceos.name, dictWith [bindsEntry])] nodes = true ∧
        dictWith [(ceos.name, dictWith [execEntry])] nodes = true :=
      fun ceos member => nodeShape_at.mp (switches ceos member)
    rw [returns_inTurn_iff]
    simp only [List.forall_mem_cons, returns_forEach_iff, returns_addressErrors_iff, returns_hostErrors_iff,
      returns_nodeErrors_iff radiusImage, returns_nodeErrors_iff syslog, returns_nodeErrors_iff runner,
      returns_startupErrors_iff, returns_nodeBindsErrors_iff radiusSome, returns_kmeNodeErrors_iff,
      returns_kmeLinkErrors_iff, returns_ceosNodeErrors_iff, returns_validateHostDataPlane_iff,
      returns_validateMgmtTopologyNodes_iff]
    refine ⟨fun node _ => every node, fun expected _ => every expected.host, every .radius,
      (nodeShape_at_nullOr.mp syslogNode).1, ?_, (nodeShape_at.mp radius).1, (kmeShape_at.mp kmeA).1,
      (kmeShape_at.mp kmeB).1, (nodeShape_at_nullOr.mp runnerNode).1, links, binds, ?_,
      returns_linkErrors links, hosts, ⟨?_, ?_⟩, List.forall_mem_nil _⟩
    · intro ceos member
      exact dictWith_mono (fun _ => isDict_of_dictWith) (switches ceos member)
    · exact returns_quadraErrors swix fun ceos => binds ceos (by cases ceos <;> decide)
    · exact isContainer_of_isDict dict
    · simp only [mgmtLinuxNodes, List.forall_mem_cons]
      exact ⟨(nodeShape_at.mp radius).2, (nodeShape_at.mp syslogNode).2, (kmeShape_at.mp kmeA).2,
        (kmeShape_at.mp kmeB).2, (nodeShape_at.mp runnerNode).2, List.forall_mem_nil _⟩

end

section

variable {address : Address} {subnet : Text}

theorem returns_add_iff {offset : Nat} :
    Returns (address.add offset) ↔
      match address with
      | .v4 address => address.value + offset < 2 ^ 32
      | .v6 address => address.value + offset < 2 ^ 128 := by
  cases address with
  | v4 address =>
      rw [Address.add, IPv4Address.ofInt]
      split
      · next room => exact iff_of_true (returns_ok _) room
      · next full => exact iff_of_false not_returns_error full
  | v6 address =>
      rw [Address.add, IPv6Address.ofInt]
      split
      · next room => exact iff_of_true (returns_ok _) room
      · next full => exact iff_of_false not_returns_error full

theorem returns_add_mono {small large : Nat} (le : small ≤ large) (room : Returns (address.add large)) :
    Returns (address.add small) := by
  rw [returns_add_iff] at room ⊢
  cases address with
  | v4 address =>
      dsimp only at room ⊢
      omega
  | v6 address =>
      dsimp only at room ⊢
      omega

theorem returns_forEveryNode_iff {address : Nat → Except AddressError Text} :
    Returns (forEveryNode address) ↔ ∀ node : LabNode, Returns (address node.hostSuffix) := by
  rw [forEveryNode, returns_pure_iff, returns_mapM_iff]
  simp only [returns_pure_iff]
  exact ⟨fun every node => every node node.mem_all, fun every node _ => every node⟩

/-- The last of the suffixes has the others below it. -/
theorem returns_mgmtIpsForSubnet_iff {subnet : Option Text} :
    Returns (mgmtIpsForSubnet subnet) ↔
      ∃ network, ipNetwork (subnetOr defaultMgmtSubnet subnet) = .ok network ∧
        Returns (network.networkAddress.add LabNode.testRunner.hostSuffix) := by
  have each (suffix : Nat) : Returns (mgmtIp subnet suffix) ↔
      ∃ network, ipNetwork (subnetOr defaultMgmtSubnet subnet) = .ok network ∧
        Returns (network.networkAddress.add suffix) := by
    rw [mgmtIp, returns_bind_iff]
    simp only [returns_pure_iff]
  rw [mgmtIpsForSubnet, returns_forEveryNode_iff]
  simp only [each]
  constructor
  · intro every
    exact every .testRunner
  · rintro ⟨network, parsed, room⟩ node
    have last : node.hostSuffix ≤ LabNode.testRunner.hostSuffix := by cases node <;> decide
    exact ⟨network, parsed, returns_add_mono last room⟩

theorem returns_mgmtGateway {subnet : Option Text} (room : Returns (mgmtIpsForSubnet subnet)) :
    Returns (mgmtGateway subnet) := by
  obtain ⟨network, parsed, room⟩ := returns_mgmtIpsForSubnet_iff.mp room
  rw [mgmtGateway, parsed, ok_bind, returns_pure_iff]
  exact returns_add_mono (by decide) room

theorem returns_mgmtIpv6Gateway_iff {subnet : Option Text} :
    Returns (mgmtIpv6Gateway subnet) ↔
      ∃ network, ipNetwork (subnetOr defaultMgmtIpv6Subnet subnet) = .ok network ∧
        Returns (network.networkAddress.add 1) := by
  rw [mgmtIpv6Gateway, returns_bind_iff]
  simp only [returns_pure_iff]

theorem returns_mgmtIpv6IpsForSubnet {subnet : Option Text} (room : Returns (mgmtIpv6Gateway subnet)) :
    Returns (mgmtIpv6IpsForSubnet subnet) := by
  obtain ⟨network, parsed, -⟩ := returns_mgmtIpv6Gateway_iff.mp room
  rw [mgmtIpv6IpsForSubnet, returns_forEveryNode_iff]
  intro node
  rw [mgmtIpv6Ip, parsed, ok_bind]
  exact returns_ok _

/-- The prefix lengths and the addresses of both subnets are computed from the two
networks, and the two gateways need no more room than the nodes do. -/
theorem returns_dataPlaneValues {subnet subnet6 : Option Text} (room : Returns (mgmtIpsForSubnet subnet))
    (room6 : Returns (mgmtIpv6Gateway subnet6)) : Returns (dataPlaneValues subnet subnet6) := by
  obtain ⟨network, parsed, -⟩ := returns_mgmtIpsForSubnet_iff.mp room
  obtain ⟨network6, parsed6, -⟩ := returns_mgmtIpv6Gateway_iff.mp room6
  have prefixLen : mgmtPrefixLen subnet = .ok network.prefixLen := by
    rw [mgmtPrefixLen, parsed]
    rfl
  have prefixLen6 : mgmtIpv6PrefixLen subnet6 = .ok network6.prefixLen := by
    rw [mgmtIpv6PrefixLen, parsed6]
    rfl
  obtain ⟨ips, ipsOk⟩ := room
  obtain ⟨ips6, ips6Ok⟩ := returns_mgmtIpv6IpsForSubnet room6
  obtain ⟨gateway, gatewayOk⟩ := returns_mgmtGateway ⟨ips, ipsOk⟩
  obtain ⟨gateway6, gateway6Ok⟩ := room6
  rw [dataPlaneValues, ipsOk, ips6Ok, prefixLen, prefixLen6, gatewayOk, gateway6Ok]
  exact returns_ok _

theorem returns_validateRadiusConfigs [WordClass] {printable : Char → Bool} (repo : Repository)
    {subnet subnet6 : Option Text} (room : Returns (mgmtIpsForSubnet subnet)) (room6 : Returns (mgmtIpv6IpsForSubnet subnet6)) :
    Returns (validateRadiusConfigs printable repo subnet subnet6) := by
  obtain ⟨ips6, ips6Ok⟩ := room6
  rw [validateRadiusConfigs, ips6Ok, ok_bind]
  dsimp only
  split
  · exact returns_ok _
  · rw [returns_pure_iff, clientsRadsecErrors, returns_pure_iff]
    exact room

theorem returns_repositoryErrors [WordClass] {printable : Char → Bool} (repo : Repository)
    {subnet subnet6 : Text}
    (room : Returns (mgmtIpsForSubnet (some subnet))) (room6 : Returns (mgmtIpv6Gateway (some subnet6))) :
    Returns (repositoryErrors printable repo subnet subnet6) := by
  rw [repositoryErrors, returns_inTurn_iff]
  simp only [List.forall_mem_cons]
  refine ⟨?_, returns_validateRadiusConfigs repo room (returns_mgmtIpv6IpsForSubnet room6), returns_ok _,
    returns_ok _, returns_ok _, List.forall_mem_nil _⟩
  rw [returns_pure_iff, validateCeosConfigs, returns_pure_iff]
  exact returns_dataPlaneValues room room6

/-- The management checks need a mapping, and addresses for the two gateways. -/
theorem returns_mgmtErrors_iff {mgmt : Value} {subnet subnet6 : Text} :
    Returns (mgmtErrors mgmt subnet subnet6) ↔
      mgmt.isDict = true ∧ Returns (mgmtGateway (some subnet)) ∧
        Returns (mgmtIpv6Gateway (some subnet6)) := by
  rw [mgmtErrors, returns_inTurn_iff]
  simp only [List.forall_mem_cons, returns_bind_iff, mapError_ok_iff, returns_mapError_iff,
    returns_fieldErrors_iff, returns_eitherErrors_iff, exists_and_right]
  constructor
  · rintro ⟨dict, -, -, ⟨gateway, -⟩, -, ⟨gateway6, -⟩, -⟩
    exact ⟨dict, gateway, gateway6⟩
  · rintro ⟨dict, gateway, gateway6⟩
    exact ⟨dict, dict, dict, ⟨gateway, dict⟩, dict, ⟨gateway6, dict⟩, List.forall_mem_nil _⟩

end

/-- Both subnets are read by `ip_network`, and have addresses for the nodes and the gateways. -/
structure AddressRoom (expected : Expected) : Prop where
  v4 : ∃ network, ipNetwork (subnetOr defaultMgmtSubnet expected.mgmtSubnet) = .ok network ∧
    Returns (network.networkAddress.add LabNode.testRunner.hostSuffix)
  v6 : ∃ network, ipNetwork (subnetOr defaultMgmtIpv6Subnet expected.mgmtIpv6Subnet) = .ok network ∧
    Returns (network.networkAddress.add 1)

/-- A default that was taken once is taken again. -/
theorem subnetOr_some_subnetOr (default : Text) (choice : Option Text) :
    subnetOr default (some (subnetOr default choice)) = subnetOr default choice := by
  cases choice with
  | none => exact ite_self default
  | some subnet =>
      simp only [subnetOr]
      split
      · exact ite_self default
      · rfl

theorem addressRoom_iff {expected : Expected} :
    AddressRoom expected ↔
      Returns (mgmtIpsForSubnet (some (subnetOr defaultMgmtSubnet expected.mgmtSubnet))) ∧
        Returns (mgmtIpv6Gateway (some (subnetOr defaultMgmtIpv6Subnet expected.mgmtIpv6Subnet))) := by
  rw [returns_mgmtIpsForSubnet_iff, returns_mgmtIpv6Gateway_iff, subnetOr_some_subnetOr,
    subnetOr_some_subnetOr]
  exact ⟨fun room => ⟨room.v4, room.v6⟩, fun room => ⟨room.1, room.2⟩⟩

section

variable {env : Environment} {expected : Expected} {data : List (Value × Value)}

theorem topologyShape_iff {topology : Value} :
    topologyShape topology = true ↔
      dictWith [(text "kinds", kindsShape)] topology = true ∧
        dictWith [(text "nodes", nodesShape), (text "links", eachOf linkShape)] topology = true :=
  dictWith_cons

/-- That the nodes are a mapping covers the search among them in front of the kinds. -/
theorem topologyShape_kinds {topology : Value} (shaped : topologyShape topology = true) :
    dictWith [(text "nodes", Value.isContainer)] topology = true ∧
      dictWith [(text "kinds", kindsShape)] topology = true := by
  obtain ⟨kinds, rest⟩ := topologyShape_iff.mp shaped
  have container (inner : Value) (shaped : nodesShape inner = true) : inner.isContainer = true :=
    isContainer_of_isDict (isDict_of_dictWith shaped)
  exact ⟨dictWith_mono container (dictWith_cons.mp rest).1, kinds⟩

/-- The shape of the whole mapping, on what the lookups of the two sections give. -/
theorem dataShape_iff :
    dataShape (.dict data) = true ↔
      ((find (text "mgmt") data).getD (.dict [])).isDict = true ∧
        topologyShape ((find (text "topology") data).getD (.dict [])) = true := by
  have lookup (key : Text) (shape : Value → Bool) (base : shape (.dict []) = true) :
      (find key data).all shape = true ↔ shape ((find key data).getD (.dict [])) = true := by
    cases find key data with
    | none => exact iff_of_true rfl base
    | some inner => exact Iff.rfl
  simp only [dataShape, dictWith, List.all_cons, List.all_nil, Bool.and_true, Bool.and_eq_true]
  exact and_congr (lookup _ _ rfl) (lookup _ _ rfl)

theorem returns_validateTopology_iff [WordClass] :
    Returns (validateTopology env expected data) ↔
      AddressRoom expected ∧ dataShape (.dict data) = true := by
  rw [validateTopology, returns_bind_iff]
  simp only [returns_bind_iff, mapError_ok_iff, returns_inTurn_iff, List.forall_mem_cons,
    returns_mapError_iff]
  rw [addressRoom_iff, dataShape_iff]
  constructor
  · rintro ⟨ips, ipsOk, ips6, -, -, mgmt, kinds, topology, -⟩
    obtain ⟨dict, -, gateway6⟩ := returns_mgmtErrors_iff.mp mgmt
    have shaped := topologyShape_iff.mpr
      ⟨(returns_kindsErrors_iff.mp kinds).2, returns_topologyErrors_iff.mp topology⟩
    exact ⟨⟨⟨ips, ipsOk⟩, gateway6⟩, dict, shaped⟩
  · rintro ⟨⟨room, room6⟩, dict, shaped⟩
    obtain ⟨ips, ipsOk⟩ := room
    obtain ⟨ips6, ips6Ok⟩ := returns_mgmtIpv6IpsForSubnet room6
    have names : Returns (nameErrors (.dict data)) := by
      rw [nameErrors, returns_inTurn_pair_iff, returns_fieldErrors_iff, returns_fieldErrors_iff]
      exact ⟨rfl, rfl⟩
    have mgmt := returns_mgmtErrors_iff.mpr ⟨dict, returns_mgmtGateway ⟨ips, ipsOk⟩, room6⟩
    exact ⟨ips, ipsOk, ips6, ips6Ok, names, mgmt, returns_kindsErrors_iff.mpr (topologyShape_kinds shaped),
      returns_topologyErrors_iff.mpr (topologyShape_iff.mp shaped).2,
      returns_repositoryErrors env.repo ⟨ips, ipsOk⟩ room6, List.forall_mem_nil _⟩

end

/-- An entry that is there and is null or anything else than a mapping. -/
def Unmapped (value : Value) (key : Text) : Prop :=
  ∃ inner, value.subscript key = .ok inner ∧ inner.isDict = false

/-- A required section is not a mapping. -/
def SectionUnmapped (data : List (Value × Value)) : Prop :=
  Unmapped (.dict data) (text "mgmt") ∨ Unmapped (.dict data) (text "topology") ∨
    ∃ topology, (Value.dict data).subscript (text "topology") = .ok topology ∧
      Unmapped topology (text "nodes")

/-- The validator returns its list of violations, with something in it when a
required section is not a mapping. -/
def ReportsViolations [WordClass] (env : Environment) (expected : Expected)
    (data : List (Value × Value)) : Prop :=
  ∃ errors, validateTopology env expected data = .ok errors ∧ (SectionUnmapped data → errors ≠ [])

theorem not_unmapped {shapes : List (Text × (Value → Bool))} {shape : Value → Bool} {value : Value}
    {key : Text} (shaped : dictWith shapes value = true) (member : (key, shape) ∈ shapes)
    (mapping : ∀ inner, shape inner = true → inner.isDict = true) : ¬ Unmapped value key := by
  rintro ⟨inner, there, other⟩
  have dict := mapping inner (dictWith_subscript shaped member there)
  exact Bool.false_ne_true (other.symm.trans dict)

theorem not_sectionUnmapped {data : List (Value × Value)} (shaped : dataShape (.dict data) = true) :
    ¬ SectionUnmapped data := by
  rintro (mgmt | topology | ⟨topology, there, nodes⟩)
  · exact not_unmapped shaped List.mem_cons_self (fun _ dict => dict) mgmt
  · exact not_unmapped shaped (.tail _ (.head _)) (fun _ => isDict_of_dictWith) topology
  · have inner := dictWith_subscript shaped (.tail _ (.head _)) there
    exact not_unmapped inner (.tail _ (.head _)) (fun _ => isDict_of_dictWith) nodes

/-- The promise is kept iff the subnets have room for the addresses and everything
that is looked at has the shape that the code takes for granted. -/
theorem reportsViolations_iff [WordClass] (env : Environment) (expected : Expected)
    (data : List (Value × Value)) :
    ReportsViolations env expected data ↔ AddressRoom expected ∧ dataShape (.dict data) = true := by
  rw [← @returns_validateTopology_iff env]
  constructor
  · rintro ⟨errors, returned, -⟩
    exact ⟨errors, returned⟩
  · rintro ⟨errors, returned⟩
    have shaped := (returns_validateTopology_iff.mp ⟨errors, returned⟩).2
    exact ⟨errors, returned, fun unmapped => absurd unmapped (not_sectionUnmapped shaped)⟩

example : dataShape (.dict (labData [])) = true := by
  decide +kernel

example :
    let nodes := fun name => mapping [(text "nodes", mapping [(name, .none)])]
    dataShape (mapping [(text "topology", nodes (text "host1"))]) = true ∧
      dataShape (mapping [(text "topology", nodes (text "radius"))]) = false := by
  decide +kernel

attribute [local instance] PyRegex.asciiWords

/-- The topology of the lab with a `mgmt` section that was left empty. -/
def nullMgmt : List (Value × Value) :=
  [ (.str (text "name"), .str labName), (.str (text "prefix"), .str clabPrefix),
    (.str (text "mgmt"), .none), (.str (text "topology"), labTopology []) ]

/-- The empty section raises, where it should be reported. -/
theorem not_reportsViolations_nullMgmt :
    validateTopology labEnvironment defaults nullMgmt = .error (.value .attributeError) ∧
      ¬ ReportsViolations labEnvironment defaults nullMgmt := by
  have raises : validateTopology labEnvironment defaults nullMgmt = .error (.value .attributeError) :=
    (bind_eq_of_ok addresses_lab).trans (bind_eq_of_ok addresses6_lab)
  refine ⟨raises, ?_⟩
  rintro ⟨errors, returned, -⟩
  rw [raises] at returned
  cases returned

end QuantumSafe.LabContract
