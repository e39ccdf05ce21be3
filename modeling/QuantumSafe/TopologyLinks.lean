import QuantumSafe.ValidateTopology

set_option autoImplicit false

/- What the links of an accepted topology can connect. -/
namespace QuantumSafe.LabContract

open PyText PyValue Reports
open PyRegex (WordClass)

/-- Iterating over a value comes to the item. -/
def Yields (value item : Value) : Prop := ∃ items, value.iter = .ok items ∧ item ∈ items

/-- `endpoint` stands in `link["endpoints"]` for a link of `topology["links"]`. -/
def TopologyEndpoint (topology : Value) (endpoint : Text) : Prop :=
  ∃ links link endpoints, topology.subscript (text "links") = .ok links ∧ Yields links link ∧
    link.subscript (text "endpoints") = .ok endpoints ∧ Yields endpoints (.str endpoint)

def LinkEndpoint (data : List (Value × Value)) (endpoint : Text) : Prop :=
  ∃ topology, (Value.dict data).subscript (text "topology") = .ok topology ∧
    TopologyEndpoint topology endpoint

/-- A key that is there is what `get` with a default returns. -/
theorem getOr_of_subscript {value inner : Value} {key : Text} (default : Value)
    (there : value.subscript key = .ok inner) : value.getOr key default = .ok inner := by
  cases value with
  | dict entries =>
      simp only [Value.subscript, Option.elim] at there
      split at there
      · rename_i found known
        cases there
        rw [Value.getOr, known]
        rfl
      · cases there
  | _ => cases there

/-- Every endpoint of every link is visited. -/
theorem subset_of_forEachEndpoint {topology : Value} {check : Text → List Text} {all : List Text}
    (ok : forEachEndpoint topology check = .ok all) {endpoint : Text}
    (linked : TopologyEndpoint topology endpoint) : check endpoint ⊆ all := by
  obtain ⟨links, link, endpoints, linksThere, ⟨items, iterated, inLinks⟩, endpointsThere,
    ⟨members, listed, inEndpoints⟩⟩ := linked
  unfold forEachEndpoint at ok
  have iterates := bind_of_ok (getOr_of_subscript _ linksThere) ok
  have visited := bind_of_ok iterated iterates
  obtain ⟨found, atLink, amongAll⟩ := mem_of_forEach visited inLinks
  have iteratesLink := bind_of_ok (getOr_of_subscript _ endpointsThere) atLink
  have visitedLink := bind_of_ok listed iteratesLink
  obtain ⟨reported, atEndpoint, amongFound⟩ := mem_of_forEach visitedLink inEndpoints
  cases atEndpoint
  exact List.Subset.trans amongFound amongAll

/-- An endpoint that neither of the two checks of endpoints refuses. -/
def unrefused (endpoint : Text) : Bool :=
  !(endpointOf LabNode.kmeA.name endpoint || endpointOf LabNode.kmeB.name endpoint) &&
    !((mgmtNodes.any fun node => endpointOf node.name endpoint) && (text ":eth0").isSuffixOf endpoint)

/-- An endpoint belongs to one node. -/
theorem endpointOf_unique {first second endpoint : Text} (plain : ':' ∉ first) (plain' : ':' ∉ second)
    (one : endpointOf first endpoint = true) (other : endpointOf second endpoint = true) : first = second := by
  obtain ⟨after, split⟩ := (startswith_iff _ _).mp one
  obtain ⟨after', split'⟩ := (startswith_iff _ _).mp other
  have same : first ++ ':' :: after = second ++ ':' :: after' := by
    simpa [text] using split.trans split'.symm
  exact (upTo_unique plain plain' same).1

/-- What the loop about management connectivity refuses: the management interface of
a management node, but no endpoint at the host bridge, which is not one of them. -/
theorem mgmtEndpointErrors_eq_nil_iff (printable : Char → Bool) {endpoint : Text} :
    mgmtEndpointErrors printable endpoint = [] ↔
      ((mgmtNodes.any fun node => endpointOf node.name endpoint) && (text ":eth0").isSuffixOf endpoint) =
        false := by
  have apart : ∀ node ∈ mgmtNodes, ':' ∉ node.name ∧ node.name ≠ mgmtBridge := by decide
  cases mgmt : mgmtNodes.any fun node => endpointOf node.name endpoint with
  | false =>
      simp only [mgmtEndpointErrors, mgmt, Bool.false_eq_true, if_false, ite_self, Bool.false_and]
  | true =>
      obtain ⟨node, member, own⟩ := List.any_eq_true.mp mgmt
      have noBridge : endpointOf mgmtBridge endpoint = false := by
        by_contra bridge
        exact (apart node member).2
          (endpointOf_unique (apart node member).1 (by decide) own (Bool.eq_true_of_not_eq_false bridge))
      rw [mgmtEndpointErrors, noBridge, mgmt, Bool.false_or, Bool.true_and]
      cases (text ":eth0").isSuffixOf endpoint <;> simp

section

variable {env : Environment} {expected : Expected} {data : List (Value × Value)}

/-- The checks of the `topology` section are among those that report nothing. -/
theorem topologyErrors_of_accepted [WordClass] (accepted : validateTopology env expected data = .ok [])
    {topology : Value} (there : (Value.dict data).subscript (text "topology") = .ok topology) :
    ∃ ips ips6, topologyErrors env.printable topology ips ips6 env.quadraSwix = .ok [] := by
  obtain ⟨ips, -, accepted⟩ := bind_ok_iff.mp accepted
  obtain ⟨ips6, -, accepted⟩ := bind_ok_iff.mp accepted
  have same : (find (text "topology") data).getD (.dict []) = topology :=
    Except.ok.inj (getOr_of_subscript (.dict []) there)
  have clean := inTurn_clean_iff.mp accepted _
    (List.mem_cons_of_mem _ (List.mem_cons_of_mem _ (List.mem_cons_of_mem _ List.mem_cons_self)))
  rw [same, mapError_ok_iff] at clean
  exact ⟨ips, ips6, clean⟩

/-- Of the checks of the `topology` section, the two about links report nothing. -/
theorem linkChecks_of_accepted [WordClass] (accepted : validateTopology env expected data = .ok [])
    {topology : Value} (there : (Value.dict data).subscript (text "topology") = .ok topology) :
    kmeLinkErrors env.printable topology = .ok [] ∧
      forEachEndpoint topology (mgmtEndpointErrors env.printable) = .ok [] := by
  obtain ⟨ips, ips6, clean⟩ := topologyErrors_of_accepted accepted there
  obtain ⟨nodes, -, clean⟩ := bind_ok_iff.mp clean
  have every := inTurn_clean_iff.mp clean
  have links : linkErrors env.printable topology = .ok [] := every _ (by simp)
  exact ⟨every _ (by simp), inTurn_clean_iff.mp links _ (by simp)⟩

/-- No endpoint of a link in the topology is refused by the loop about management
connectivity. -/
theorem mgmtEndpoint_of_accepted [WordClass] (accepted : validateTopology env expected data = .ok [])
    {endpoint : Text} (linked : LinkEndpoint data endpoint) : mgmtEndpointErrors env.printable endpoint = [] := by
  obtain ⟨topology, there, linked⟩ := linked
  have clean := (linkChecks_of_accepted accepted there).2
  exact List.subset_nil.mp (subset_of_forEachEndpoint clean linked)

/-- An endpoint of a KME node can only be on its management interface. -/
theorem kmeEndpoint_of_accepted [WordClass] (accepted : validateTopology env expected data = .ok [])
    {endpoint : Text} (linked : LinkEndpoint data endpoint)
    (kme : (endpointOf LabNode.kmeA.name endpoint || endpointOf LabNode.kmeB.name endpoint) = true) :
    endpoint = text "kme-a:eth0" ∨ endpoint = text "kme-b:eth0" := by
  obtain ⟨topology, there, linked⟩ := linked
  have clean := (linkChecks_of_accepted accepted there).1
  obtain ⟨endpoints, collected, none⟩ := bind_ok_iff.mp clean
  obtain ⟨all, visited, same⟩ := bind_ok_iff.mp collected
  have among : endpoint ∈ all := by
    apply subset_of_forEachEndpoint visited linked
    rw [if_pos kme]
    exact List.mem_singleton_self _
  have empty : endpoints = [] := by
    by_contra filled
    cases endpoints with
    | nil => exact filled rfl
    | cons first rest => simp [require, pure, Except.pure] at none
  cases same
  have dropped := List.filter_eq_nil_iff.mp empty endpoint (List.mem_dedup.mpr among)
  by_contra other
  exact dropped (by simpa [not_or] using other)

/-- The two checks together leave no endpoint that one of them refuses. -/
theorem unrefused_of_accepted [WordClass] (accepted : validateTopology env expected data = .ok [])
    {endpoint : Text} (linked : LinkEndpoint data endpoint) : unrefused endpoint = true := by
  have notMgmt := (mgmtEndpointErrors_eq_nil_iff _).mp (mgmtEndpoint_of_accepted accepted linked)
  have notKme : (endpointOf LabNode.kmeA.name endpoint || endpointOf LabNode.kmeB.name endpoint) = false := by
    by_contra kme
    -- what the first check leaves out is on `eth0`, where the second one looks
    rcases kmeEndpoint_of_accepted accepted linked (Bool.eq_true_of_not_eq_false kme) with rfl | rfl
    · exact absurd notMgmt (by decide)
    · exact absurd notMgmt (by decide)
  rw [unrefused, notMgmt, notKme]
  rfl

end

end QuantumSafe.LabContract
