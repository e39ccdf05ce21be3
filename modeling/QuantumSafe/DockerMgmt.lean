import QuantumSafe.LabTopology

set_option autoImplicit false

/- What `validate_topology` enforces of the links: KME nodes have none, and
management connectivity does not run over them, the host bridge excepted. -/
namespace QuantumSafe.LabContract

open PyText PyValue
open PyRegex (WordClass)

theorem linkEndpoint_lab {further : List (Text × Text)} {ends : Text × Text} {endpoint : Text}
    (member : ends ∈ links ++ further) (at_ : endpoint ∈ [ends.1, ends.2]) :
    LinkEndpoint (labData further) endpoint := by
  refine ⟨labTopology further, rfl, .list ((links ++ further).map labLink), labLink ends,
    strings [ends.1, ends.2], rfl, ⟨_, rfl, List.mem_map_of_mem member⟩, rfl, ⟨_, rfl, ?_⟩⟩
  exact List.mem_map_of_mem at_

attribute [local instance] PyRegex.asciiWords

/-- The lab with further links is accepted iff no further endpoint is refused. -/
theorem validateTopology_lab_iff {further : List (Text × Text)} :
    validateTopology labEnvironment defaults (labData further) = .ok [] ↔
      ∀ ends ∈ further, unrefused ends.1 = true ∧ unrefused ends.2 = true := by
  constructor
  · intro accepted ends member
    have linked (endpoint : Text) (at_ : endpoint ∈ [ends.1, ends.2]) : unrefused endpoint = true :=
      unrefused_of_accepted accepted (linkEndpoint_lab (List.mem_append_right _ member) at_)
    exact ⟨linked ends.1 (by simp), linked ends.2 (by simp)⟩
  · intro plain
    exact validateTopology_lab plain

section

variable {env : Environment} {expected : Expected} {data : List (Value × Value)}

/-- No link of an accepted topology ends at a KME node, on whichever interface. -/
theorem validateTopology_kmeIsolated [WordClass] (accepted : validateTopology env expected data = .ok [])
    {endpoint : Text} (linked : LinkEndpoint data endpoint) :
    startswith endpoint (text "kme-a:") = false ∧ startswith endpoint (text "kme-b:") = false := by
  have free := unrefused_of_accepted accepted linked
  rw [unrefused, Bool.and_eq_true, Bool.not_eq_true'] at free
  exact Bool.or_eq_false_iff.mp free.1

theorem validateTopology_kmeIsolated_host1 :
    startswith (text "host1:eth1") (text "kme-a:") = false ∧
      startswith (text "host1:eth1") (text "kme-b:") = false := by
  have accepted : validateTopology labEnvironment defaults (labData []) = .ok [] :=
    validateTopology_lab_iff.mpr (by decide)
  have member : (text "ceos1-both:eth8", text "host1:eth1") ∈ links ++ [] := by decide
  exact validateTopology_kmeIsolated accepted (linkEndpoint_lab member (by decide))

/-- No link ends at the host bridge. -/
def NoBridgeLink (data : List (Value × Value)) : Prop :=
  ∀ endpoint, LinkEndpoint data endpoint → startswith endpoint (text "mgmt-bridge:") = false

/-- No link carries management connectivity. -/
def DockerMgmtOnly (data : List (Value × Value)) : Prop :=
  ∀ endpoint, LinkEndpoint data endpoint →
    startswith endpoint (text "mgmt-bridge:") = false ∧
      ∀ node ∈ mgmtNodes, endpoint ≠ node.name ++ text ":eth0"

/-- An unrefused endpoint is not on the management interface of a management node. -/
theorem ne_eth0_of_unrefused {endpoint : Text} (free : unrefused endpoint = true) {node : LabNode}
    (member : node ∈ mgmtNodes) : endpoint ≠ node.name ++ text ":eth0" := by
  rintro rfl
  have own : endpointOf node.name (node.name ++ text ":eth0") = true := by
    rw [endpointOf, startswith_iff]
    exact (List.prefix_append_right_inj _).mpr (by decide)
  have listed : (mgmtNodes.any fun other => endpointOf other.name (node.name ++ text ":eth0")) = true :=
    List.any_eq_true.mpr ⟨node, member, own⟩
  have eth0 : (text ":eth0").isSuffixOf (node.name ++ text ":eth0") = true :=
    List.isSuffixOf_iff_suffix.mpr (List.suffix_append _ _)
  rw [unrefused, listed, eth0, Bool.and_self, Bool.not_true, Bool.and_false] at free
  cases free

/-- The management interfaces are covered for every accepted topology, so what
decides is whether a link ends at the host bridge. -/
theorem validateTopology_dockerMgmtOnly_iff [WordClass]
    (accepted : validateTopology env expected data = .ok []) :
    DockerMgmtOnly data ↔ NoBridgeLink data := by
  constructor
  · intro only endpoint linked
    exact (only endpoint linked).1
  · intro noBridge endpoint linked
    refine ⟨noBridge endpoint linked, ?_⟩
    intro node member
    exact ne_eth0_of_unrefused (unrefused_of_accepted accepted linked) member

end

/-- A link from the host bridge to a host. -/
def bridgeLink : List (Text × Text) := [(text "mgmt-bridge:eth1", text "host1:eth2")]

theorem validateTopology_dockerMgmtOnly_iff_bridge :
    DockerMgmtOnly (labData bridgeLink) ↔ NoBridgeLink (labData bridgeLink) :=
  validateTopology_dockerMgmtOnly_iff (validateTopology_lab_iff.mpr (by decide))

theorem validateTopology_accepts_bridge :
    ¬ ∀ env expected data, validateTopology env expected data = .ok [] → DockerMgmtOnly data := by
  intro enforced
  have accepted : validateTopology labEnvironment defaults (labData bridgeLink) = .ok [] :=
    validateTopology_lab_iff.mpr (by decide)
  have linked : LinkEndpoint (labData bridgeLink) (text "mgmt-bridge:eth1") :=
    linkEndpoint_lab (List.mem_append_right _ (List.mem_singleton_self _)) List.mem_cons_self
  have refused := (enforced _ _ _ accepted _ linked).1
  exact absurd refused (by decide)

end QuantumSafe.LabContract
