import QuantumSafe.PyIpAddress
import QuantumSafe.PyJson
import QuantumSafe.Reports
import QuantumSafe.SymbolicText
import QuantumSafe.TopologyContract

set_option autoImplicit false

/- The management addresses that `lab/topology_contract.py` derives from the two
management subnets. -/
namespace QuantumSafe

open PyText PyIpAddress SymbolicText Reports

def defaultMgmtSubnet : Text := text "172.20.127.0/24"
def defaultMgmtIpv6Subnet : Text := text "2001:db8:127::/64"

/-- The keys of `MGMT_HOST_SUFFIXES`, in order. -/
def LabNode.all : List LabNode :=
  [.ceos1Both, .ceos2Pqc, .ceos3Qkd, .host1, .host2, .host3, .radius, .syslog, .kmeA, .kmeB,
    .testRunner]

theorem LabNode.mem_all (node : LabNode) : node ∈ LabNode.all := by
  cases node <;> decide

/-- `subnet or default`. -/
def subnetOr (default : Text) : Option Text → Text
  | none => default
  | some subnet => if subnet.isEmpty then default else subnet

def mgmtGateway (subnet : Option Text) : Except AddressError Text := do
  let network ← ipNetwork (subnetOr defaultMgmtSubnet subnet)
  let gateway ← network.networkAddress.add 1
  return gateway.str

def mgmtIp (subnet : Option Text) (hostSuffix : Nat) : Except AddressError Text := do
  let network ← ipNetwork (subnetOr defaultMgmtSubnet subnet)
  let host ← network.networkAddress.add hostSuffix
  return host.str

def mgmtPrefixLen (subnet : Option Text) : Except AddressError Nat := do
  let network ← ipNetwork (subnetOr defaultMgmtSubnet subnet)
  return network.prefixLen

def mgmtIpv6Gateway (subnet : Option Text) : Except AddressError Text := do
  let network ← ipNetwork (subnetOr defaultMgmtIpv6Subnet subnet)
  let gateway ← network.networkAddress.add 1
  return gateway.str

/-- The decimal suffix is appended to the text of the network address. -/
def mgmtIpv6Ip (subnet : Option Text) (hostSuffix : Nat) : Except AddressError Text := do
  let network ← ipNetwork (subnetOr defaultMgmtIpv6Subnet subnet)
  return network.networkAddress.str ++ natText hostSuffix

def mgmtIpv6PrefixLen (subnet : Option Text) : Except AddressError Nat := do
  let network ← ipNetwork (subnetOr defaultMgmtIpv6Subnet subnet)
  return network.prefixLen

/-- One address for every node of `MGMT_HOST_SUFFIXES`, or the first error. -/
def forEveryNode (address : Nat → Except AddressError Text) :
    Except AddressError (LabNode → Text) := do
  let entries ← LabNode.all.mapM fun node => do return (node, ← address node.hostSuffix)
  return fun node => (entries.lookup node).getD []

def mgmtIpsForSubnet (subnet : Option Text) : Except AddressError (LabNode → Text) :=
  forEveryNode (mgmtIp subnet)

def mgmtIpv6IpsForSubnet (subnet : Option Text) : Except AddressError (LabNode → Text) :=
  forEveryNode (mgmtIpv6Ip subnet)

/-- The values that f-strings and templates take from the two subnets. -/
inductive MgmtValue where
  | ip (node : LabNode)
  | ip6 (node : LabNode)
  | gateway
  | gateway6
  | prefixLen
  | prefixLen6
deriving DecidableEq, Repr

abbrev MgmtValues := MgmtValue → Text

/-- An f-string over the management values. -/
abbrev FString := Symbols MgmtValue

def mgmtValues (ips ips6 : LabNode → Text) (gateway gateway6 : Text) (prefixLen prefixLen6 : Nat) :
    MgmtValues
  | .ip node => ips node
  | .ip6 node => ips6 node
  | .gateway => gateway
  | .gateway6 => gateway6
  | .prefixLen => natText prefixLen
  | .prefixLen6 => natText prefixLen6

/-- A dictionary comprehension that succeeds holds the computed value of every key. -/
theorem lookup_of_mapM {address : Nat → Except AddressError Text} {nodes : List LabNode}
    {entries : List (LabNode × Text)}
    (ok : nodes.mapM (fun node => do return (node, ← address node.hostSuffix)) = .ok entries) :
    ∀ node ∈ nodes, address node.hostSuffix = .ok ((entries.lookup node).getD []) := by
  have every := (PyJson.mapM_ok_iff _ nodes entries).mp ok
  clear ok
  induction every with
  | nil =>
      intro node member
      cases member
  | @cons first entry nodes entries made rest ih =>
      intro node member
      obtain ⟨value, computed, same⟩ := bind_ok_iff.mp made
      cases same
      by_cases here : node = first
      · subst here
        simpa using computed
      · have later := ih node ((List.mem_cons.mp member).resolve_left here)
        rw [List.lookup_cons, beq_false_of_ne here]
        exact later

theorem forEveryNode_ok {address : Nat → Except AddressError Text} {addresses : LabNode → Text}
    (ok : forEveryNode address = .ok addresses) (node : LabNode) :
    address node.hostSuffix = .ok (addresses node) := by
  obtain ⟨entries, mapped, same⟩ := bind_ok_iff.mp ok
  cases same
  exact lookup_of_mapM mapped node node.mem_all

theorem forEveryNode_of_ok {address : Nat → Except AddressError Text} {addresses : LabNode → Text}
    (every : ∀ node : LabNode, address node.hostSuffix = .ok (addresses node)) :
    forEveryNode address = .ok addresses := by
  have entries : LabNode.all.mapM (fun node => do return (node, ← address node.hostSuffix)) =
      .ok (LabNode.all.map fun node => (node, addresses node)) := by
    simp only [LabNode.all, List.mapM_cons, List.mapM_nil, every]
    rfl
  rw [forEveryNode, entries]
  apply congrArg Except.ok
  funext node
  cases node <;> rfl

/-- Addresses of an IPv4 network are IPv4 addresses, at the offset of their suffix. -/
theorem mgmtIp_value {subnet : Option Text} {address : IPv4Address} {prefixLen suffix : Nat}
    {host : Text} (v4 : ipNetwork (subnetOr defaultMgmtSubnet subnet) = .ok ⟨.v4 address, prefixLen⟩)
    (ok : mgmtIp subnet suffix = .ok host) :
    ∃ sum : IPv4Address, sum.value = address.value + suffix ∧ host = sum.str := by
  obtain ⟨network, parsed, ok⟩ := bind_ok_iff.mp ok
  rw [v4] at parsed
  cases parsed
  obtain ⟨sum, added, same⟩ := bind_ok_iff.mp ok
  cases same
  simp only [Address.add, IPv4Address.ofInt] at added
  split at added
  · rename_i bound
    cases added
    exact ⟨⟨address.value + suffix, bound⟩, rfl, rfl⟩
  · cases added

theorem mgmtIp_of_lt {subnet : Option Text} {address : IPv4Address} {prefixLen suffix : Nat}
    (v4 : ipNetwork (subnetOr defaultMgmtSubnet subnet) = .ok ⟨.v4 address, prefixLen⟩)
    (bound : address.value + suffix < 2 ^ 32) :
    mgmtIp subnet suffix = .ok (IPv4Address.str ⟨address.value + suffix, bound⟩) := by
  rw [mgmtIp, v4]
  simp only [bind, Except.bind, Address.add, IPv4Address.ofInt, dif_pos bound]
  rfl

theorem mgmtIp_v4 {subnet : Option Text} {address : IPv4Address} {prefixLen suffix : Nat}
    {host : Text} (v4 : ipNetwork (subnetOr defaultMgmtSubnet subnet) = .ok ⟨.v4 address, prefixLen⟩)
    (ok : mgmtIp subnet suffix = .ok host) : ∃ sum : IPv4Address, host = sum.str := by
  obtain ⟨sum, -, same⟩ := mgmtIp_value v4 ok
  exact ⟨sum, same⟩

theorem mgmtGateway_eq (subnet : Option Text) : mgmtGateway subnet = mgmtIp subnet 1 := rfl

theorem ofInt_v6 {value : Nat} {scopeId : Option Text} {address : IPv6Address}
    (ok : IPv6Address.ofInt value scopeId = .ok address) : address.scopeId = scopeId := by
  rw [IPv6Address.ofInt] at ok
  split at ok
  · cases ok
    rfl
  · cases ok

/-- The sum of an IPv6 address has no scope id. -/
theorem add_v6_digits {address : IPv6Address} {offset : Nat} {sum : Address}
    (added : (Address.v6 address).add offset = .ok sum) : ∃ host : IPv6Address, sum.str = host.digits := by
  obtain ⟨host, made, rfl⟩ := map_ok_iff.mp added
  refine ⟨host, ?_⟩
  rw [Address.str, IPv6Address.str, ofInt_v6 made]

/-- The gateway of an IPv6 network has no scope id, whatever the network has. -/
theorem mgmtIpv6Gateway_v6 {subnet : Option Text} {address : IPv6Address} {prefixLen : Nat}
    {gateway : Text}
    (v6 : ipNetwork (subnetOr defaultMgmtIpv6Subnet subnet) = .ok ⟨.v6 address, prefixLen⟩)
    (ok : mgmtIpv6Gateway subnet = .ok gateway) : ∃ sum : IPv6Address, gateway = sum.digits := by
  obtain ⟨network, parsed, ok⟩ := bind_ok_iff.mp ok
  rw [v6] at parsed
  cases parsed
  obtain ⟨sum, added, same⟩ := bind_ok_iff.mp ok
  cases same
  exact add_v6_digits added

theorem mgmtIpv6Ip_v6 {subnet : Option Text} {address : IPv6Address} {prefixLen : Nat}
    (v6 : ipNetwork (subnetOr defaultMgmtIpv6Subnet subnet) = .ok ⟨.v6 address, prefixLen⟩)
    (suffix : Nat) : mgmtIpv6Ip subnet suffix = .ok (address.str ++ natText suffix) := by
  rw [mgmtIpv6Ip, v6]
  rfl

end QuantumSafe
