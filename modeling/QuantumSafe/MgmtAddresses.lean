import QuantumSafe.IpAddressText
import QuantumSafe.MgmtSubnets

set_option autoImplicit false

/- Where the management addresses of the lab nodes lie in their subnets. -/
namespace QuantumSafe

open PyText PyIpAddress

theorem hostSuffix_injective : Function.Injective LabNode.hostSuffix := by
  intro first second same
  cases first <;> cases second <;> first | rfl | cases same

theorem one_lt_hostSuffix (node : LabNode) : 1 < node.hostSuffix := by
  cases node <;> decide

theorem hostSuffix_le (node : LabNode) : node.hostSuffix ≤ LabNode.testRunner.hostSuffix := by
  cases node <;> decide

/-- What the address plan promises of the IPv4 addresses of the lab nodes: they are
hosts of the network, each of its own, and none is the gateway. -/
structure Ipv4Hosts (network : Network) (gateway : Text) (ips : LabNode → Text) : Prop where
  distinct : Function.Injective ips
  inside : ∀ node, ∃ host : IPv4Address, ips node = host.str ∧ network.contains (.v4 host) = true ∧
    host.value ≠ network.networkAddress.value ∧ host.value ≠ network.broadcastValue
  notGateway : ∀ node, ips node ≠ gateway

section Ipv4

variable {subnet : Option Text} {address : IPv4Address} {prefixLen : Nat} {ips : LabNode → Text}

/-- The addresses are given by their offsets from the network address. -/
theorem mgmtIps_value
    (v4 : ipNetwork (subnetOr defaultMgmtSubnet subnet) = .ok ⟨.v4 address, prefixLen⟩)
    (ok : mgmtIpsForSubnet subnet = .ok ips) (node : LabNode) :
    ∃ host : IPv4Address, host.value = address.value + node.hostSuffix ∧ ips node = host.str :=
  mgmtIp_value v4 (forEveryNode_ok ok node)

/-- A node's text is the text of a host in the network iff its suffix fits in the host part. -/
theorem contains_host_iff (masked : Network.Masked ⟨.v4 address, prefixLen⟩) {host : IPv4Address}
    {offset : Nat} (value : host.value = address.value + offset) :
    Network.contains ⟨.v4 address, prefixLen⟩ (.v4 host) = true ↔ offset < 2 ^ (32 - prefixLen) := by
  have bound : address.value + offset < 2 ^ 32 := value ▸ host.bound
  have within : prefixLen ≤ 32 := masked.within
  have aligned : 2 ^ (32 - prefixLen) ∣ address.value := masked.noHostBits
  rw [← add_and_netmask bound within aligned, ← value]
  exact beq_iff_eq

theorem mgmtIps_distinct
    (v4 : ipNetwork (subnetOr defaultMgmtSubnet subnet) = .ok ⟨.v4 address, prefixLen⟩)
    (ok : mgmtIpsForSubnet subnet = .ok ips) : Function.Injective ips := by
  intro first second same
  obtain ⟨host, value, shown⟩ := mgmtIps_value v4 ok first
  obtain ⟨host', value', shown'⟩ := mgmtIps_value v4 ok second
  rw [shown, shown'] at same
  have hosts := IPv4Address.str_injective same
  rw [hosts, value'] at value
  exact hostSuffix_injective (by omega)

/-- No node has the gateway's suffix, so none has its address. -/
theorem mgmtIps_notGateway
    (v4 : ipNetwork (subnetOr defaultMgmtSubnet subnet) = .ok ⟨.v4 address, prefixLen⟩)
    (ok : mgmtIpsForSubnet subnet = .ok ips) :
    ∃ gateway, mgmtGateway subnet = .ok gateway ∧ ∀ node, ips node ≠ gateway := by
  obtain ⟨first, value, -⟩ := mgmtIps_value v4 ok .ceos1Both
  have offset := one_lt_hostSuffix .ceos1Both
  have bound : address.value + 1 < 2 ^ 32 := by
    have last := first.bound
    omega
  refine ⟨_, mgmtIp_of_lt v4 bound, ?_⟩
  intro node same
  obtain ⟨host, value, shown⟩ := mgmtIps_value v4 ok node
  rw [shown] at same
  have hosts : host.value = address.value + 1 :=
    congrArg IPv4Address.value (IPv4Address.str_injective same)
  have later := one_lt_hostSuffix node
  omega

/-- The addresses are hosts of the subnet exactly in subnets of 64 addresses or more. -/
theorem mgmtIpsForSubnet_hosts_iff
    (v4 : ipNetwork (subnetOr defaultMgmtSubnet subnet) = .ok ⟨.v4 address, prefixLen⟩)
    (ok : mgmtIpsForSubnet subnet = .ok ips) :
    (∃ gateway, mgmtGateway subnet = .ok gateway ∧ Ipv4Hosts ⟨.v4 address, prefixLen⟩ gateway ips) ↔
      prefixLen ≤ 26 := by
  have masked := ipNetwork_masked v4
  have within : prefixLen ≤ 32 := masked.within
  constructor
  · intro settled
    obtain ⟨gateway, -, hosts⟩ := settled
    obtain ⟨host, shown, member, -⟩ := hosts.inside .testRunner
    obtain ⟨sum, value, shown'⟩ := mgmtIps_value v4 ok .testRunner
    rw [IPv4Address.str_injective (shown.symm.trans shown')] at member
    have fits := (contains_host_iff masked value).mp member
    by_contra long
    have few : 2 ^ (32 - prefixLen) ≤ 2 ^ 5 := Nat.pow_le_pow_right (by decide) (by omega)
    have suffix : LabNode.testRunner.hostSuffix = 54 := rfl
    omega
  · intro short
    obtain ⟨gateway, known, notGateway⟩ := mgmtIps_notGateway v4 ok
    refine ⟨gateway, known, mgmtIps_distinct v4 ok, ?_, notGateway⟩
    intro node
    obtain ⟨host, value, shown⟩ := mgmtIps_value v4 ok node
    have many : 2 ^ 6 ≤ 2 ^ (32 - prefixLen) := Nat.pow_le_pow_right (by decide) (by omega)
    have last := hostSuffix_le node
    have suffix : LabNode.testRunner.hostSuffix = 54 := rfl
    have positive := one_lt_hostSuffix node
    refine ⟨host, shown, (contains_host_iff masked value).mpr (by omega), ?_, ?_⟩
    · change host.value ≠ address.value
      omega
    · rw [masked.broadcastValue_eq]
      change host.value ≠ address.value + (2 ^ (32 - prefixLen) - 1)
      omega

theorem mgmtIpsForSubnet_of_lt
    (v4 : ipNetwork (subnetOr defaultMgmtSubnet subnet) = .ok ⟨.v4 address, prefixLen⟩)
    (bound : address.value + LabNode.testRunner.hostSuffix < 2 ^ 32) :
    mgmtIpsForSubnet subnet = .ok fun node =>
      IPv4Address.str ⟨address.value + node.hostSuffix,
        Nat.lt_of_le_of_lt (Nat.add_le_add_left (hostSuffix_le node) address.value) bound⟩ :=
  forEveryNode_of_ok fun _ => mgmtIp_of_lt v4 _

end Ipv4

theorem mgmtIpsForSubnet_hosts_default :
    ∃ ips gateway, mgmtIpsForSubnet none = .ok ips ∧ mgmtGateway none = .ok gateway ∧
      Ipv4Hosts ⟨.v4 ⟨0xac147f00, by decide⟩, 24⟩ gateway ips := by
  have v4 : ipNetwork (subnetOr defaultMgmtSubnet none) = .ok ⟨.v4 ⟨0xac147f00, by decide⟩, 24⟩ := by
    decide +kernel
  have ok := mgmtIpsForSubnet_of_lt v4 (by decide)
  obtain ⟨gateway, known, hosts⟩ := (mgmtIpsForSubnet_hosts_iff v4 ok).mpr (by decide)
  exact ⟨_, gateway, ok, known, hosts⟩

/-- In a subnet of 32 addresses the nodes from radius on lie outside. -/
theorem mgmtIpsForSubnet_outside_slash27 :
    ∃ address ips,
      ipNetwork (subnetOr defaultMgmtSubnet (some (text "10.0.0.0/27"))) = .ok ⟨.v4 address, 27⟩ ∧
      mgmtIpsForSubnet (some (text "10.0.0.0/27")) = .ok ips ∧ ips .radius = text "10.0.0.50" ∧
      ¬ ∃ gateway, mgmtGateway (some (text "10.0.0.0/27")) = .ok gateway ∧
        Ipv4Hosts ⟨.v4 address, 27⟩ gateway ips := by
  have v4 : ipNetwork (subnetOr defaultMgmtSubnet (some (text "10.0.0.0/27"))) =
      .ok ⟨.v4 ⟨0x0a000000, by decide⟩, 27⟩ := by
    decide +kernel
  refine ⟨_, _, v4, mgmtIpsForSubnet_of_lt v4 (by decide), by decide +kernel, ?_⟩
  intro settled
  obtain ⟨gateway, -, hosts⟩ := settled
  obtain ⟨host, shown, member, -⟩ := hosts.inside .radius
  rw [← IPv4Address.str_injective shown] at member
  revert member
  decide +kernel

/-- The value of a decimal suffix that is read as hexadecimal digits. -/
def readAsHex (suffix : Nat) : Nat := digitsValue 16 (natText suffix)

theorem readAsHex_hostSuffix_injective : Function.Injective fun node => readAsHex (LabNode.hostSuffix node) := by
  have values : (LabNode.all.map fun node => readAsHex node.hostSuffix).Nodup := by decide
  intro first second same
  exact List.inj_on_of_nodup_map values first.mem_all second.mem_all same

theorem one_lt_readAsHex (node : LabNode) : 1 < readAsHex node.hostSuffix := by
  cases node <;> decide

theorem isHexDigit_of_mem_natText {n : Nat} {c : Char} (member : c ∈ natText n) : isHexDigit c = true :=
  isHexDigit_of_isDigit (Nat.isDigit_of_mem_toDigits (by decide) (by decide) member)

/-- Up to three digits, read as hexadecimal, do not leave the last hextet. -/
theorem readAsHex_lt {suffix : Nat} (short : suffix < 1000) : readAsHex suffix < 2 ^ 16 := by
  have few : (natText suffix).length ≤ 3 :=
    (Nat.length_toDigits_le_iff (by decide) (by decide)).mpr short
  have value : readAsHex suffix < 16 ^ (natText suffix).length :=
    digitsValue_lt fun c member => isHexDigit_of_mem_natText member
  exact Nat.lt_of_lt_of_le value ((Nat.pow_le_pow_right (by decide) few).trans (by decide))

/-- The same for the IPv6 addresses, whose texts are read back. -/
structure Ipv6Hosts (address : IPv6Address) (prefixLen : Nat) (gateway : Text) (ips6 : LabNode → Text) :
    Prop where
  inside : ∀ node, ∃ host : IPv6Address, IPv6Address.ofText (ips6 node) = some host ∧
    host.value = address.value + readAsHex node.hostSuffix ∧
    Network.contains ⟨.v6 address, prefixLen⟩ (.v6 host) = true
  distinct : Function.Injective fun node => IPv6Address.ofText (ips6 node)
  notNetwork : ∀ node, IPv6Address.ofText (ips6 node) ≠ some address
  notGateway : ∀ node, IPv6Address.ofText (ips6 node) ≠ IPv6Address.ofText gateway

section Ipv6

variable {subnet : Option Text} {address : IPv6Address} {prefixLen : Nat}

theorem low_hextet_clear (masked : Network.Masked ⟨.v6 address, prefixLen⟩) (short : prefixLen ≤ 112) :
    2 ^ 16 ∣ address.value := by
  have aligned : 2 ^ (128 - prefixLen) ∣ address.value := masked.noHostBits
  exact Nat.dvd_trans (Nat.pow_dvd_pow 2 (by omega)) aligned

theorem add_lt_of_clear {offset : Nat} (clear : 2 ^ 16 ∣ address.value) (small : offset < 2 ^ 16) :
    address.value + offset < 2 ^ 128 := by
  have bound := address.bound
  obtain ⟨block, blocks⟩ := clear
  omega

/-- A suffix of up to three digits is read as the last hextet of the address. -/
theorem ofText_append_suffix {suffix : Nat} (unscoped : address.scopeId = none)
    (clear : 2 ^ 16 ∣ address.value) (short : suffix < 1000) :
    IPv6Address.ofText (address.str ++ natText suffix) =
      some ⟨address.value + readAsHex suffix, none, add_lt_of_clear clear (readAsHex_lt short)⟩ := by
  have few : (natText suffix).length ≤ 3 :=
    (Nat.length_toDigits_le_iff (by decide) (by decide)).mpr short
  rw [IPv6Address.str, unscoped]
  apply IPv6Address.ofText_eq_some
  · intro c member
    rcases List.mem_append.mp member with inAddress | inSuffix
    · exact mem_digits address inAddress
    · exact Or.inl (isHexDigit_of_mem_natText inSuffix)
  · exact parseIPv6_digits_append address clear
      (List.all_eq_true.mpr fun c member => isHexDigit_of_mem_natText member) Nat.toDigits_ne_nil few

theorem ofText_str (unscoped : address.scopeId = none) :
    IPv6Address.ofText address.str = some ⟨address.value, none, address.bound⟩ := by
  rw [IPv6Address.str, unscoped]
  exact IPv6Address.ofText_eq_some address.bound (fun c => mem_digits address) (parseIPv6_digits address)

theorem mgmtIpv6Ips_eq
    (v6 : ipNetwork (subnetOr defaultMgmtIpv6Subnet subnet) = .ok ⟨.v6 address, prefixLen⟩) :
    mgmtIpv6IpsForSubnet subnet = .ok fun node => address.str ++ natText node.hostSuffix :=
  forEveryNode_of_ok fun node => mgmtIpv6Ip_v6 v6 node.hostSuffix

theorem mgmtIpv6Gateway_of_lt
    (v6 : ipNetwork (subnetOr defaultMgmtIpv6Subnet subnet) = .ok ⟨.v6 address, prefixLen⟩)
    (bound : address.value + 1 < 2 ^ 128) :
    mgmtIpv6Gateway subnet = .ok (IPv6Address.str ⟨address.value + 1, none, bound⟩) := by
  rw [mgmtIpv6Gateway, v6]
  simp only [bind, Except.bind, Address.add, IPv6Address.ofInt, dif_pos bound]
  rfl

/-- A network that leaves the last hextet to the hosts contains its address with any last
hextet. -/
theorem contains_low (masked : Network.Masked ⟨.v6 address, prefixLen⟩) (short : prefixLen ≤ 112)
    {host : IPv6Address} {offset : Nat} (value : host.value = address.value + offset)
    (small : offset < 2 ^ 16) : Network.contains ⟨.v6 address, prefixLen⟩ (.v6 host) = true := by
  have within : prefixLen ≤ 128 := masked.within
  have aligned : 2 ^ (128 - prefixLen) ∣ address.value := masked.noHostBits
  have many : 2 ^ 16 ≤ 2 ^ (128 - prefixLen) := Nat.pow_le_pow_right (by decide) (by omega)
  have bound : address.value + offset < 2 ^ 128 := value ▸ host.bound
  have same := (add_and_netmask bound within aligned).mpr (by omega)
  rw [← value] at same
  exact beq_iff_eq.mpr same

theorem ipv6Hosts_of_clear (masked : Network.Masked ⟨.v6 address, prefixLen⟩) (short : prefixLen ≤ 112)
    (unscoped : address.scopeId = none) (gatewayBound : address.value + 1 < 2 ^ 128) :
    Ipv6Hosts address prefixLen (IPv6Address.str ⟨address.value + 1, none, gatewayBound⟩)
      fun node => address.str ++ natText node.hostSuffix := by
  have clear := low_hextet_clear masked short
  have suffixLt (node : LabNode) : node.hostSuffix < 1000 :=
    Nat.lt_of_le_of_lt (hostSuffix_le node) (by decide)
  have read (node : LabNode) := ofText_append_suffix unscoped clear (suffixLt node)
  refine ⟨?_, ?_, ?_, ?_⟩
  · intro node
    exact ⟨_, read node, rfl, contains_low masked short rfl (readAsHex_lt (suffixLt node))⟩
  · intro first second same
    dsimp only at same
    rw [read, read] at same
    have values := congrArg IPv6Address.value (Option.some.inj same)
    dsimp only at values
    exact readAsHex_hostSuffix_injective (by dsimp only; omega)
  · intro node same
    rw [read] at same
    have values : address.value + readAsHex node.hostSuffix = address.value :=
      congrArg IPv6Address.value (Option.some.inj same)
    have offset := one_lt_readAsHex node
    omega
  · intro node same
    rw [read, ofText_str rfl] at same
    have values : address.value + readAsHex node.hostSuffix = address.value + 1 :=
      congrArg IPv6Address.value (Option.some.inj same)
    have offset := one_lt_readAsHex node
    omega

/-- In a network without a zone id that leaves the last hextet to the hosts, every
suffix of up to three digits gives the host whose last hextet shows these digits. -/
theorem mgmtIpv6IpsForSubnet_hosts
    (v6 : ipNetwork (subnetOr defaultMgmtIpv6Subnet subnet) = .ok ⟨.v6 address, prefixLen⟩)
    (unscoped : address.scopeId = none) (short : prefixLen ≤ 112) :
    (∀ suffix < 1000, ∃ host, mgmtIpv6Ip subnet suffix = .ok host ∧
      ∃ read : IPv6Address, IPv6Address.ofText host = some read ∧
        read.value = address.value + readAsHex suffix ∧ read.scopeId = none ∧
        Network.contains ⟨.v6 address, prefixLen⟩ (.v6 read) = true) ∧
      ∃ gateway ips6, mgmtIpv6Gateway subnet = .ok gateway ∧ mgmtIpv6IpsForSubnet subnet = .ok ips6 ∧
        Ipv6Hosts address prefixLen gateway ips6 := by
  have masked := ipNetwork_masked v6
  have clear := low_hextet_clear masked short
  have gatewayBound : address.value + 1 < 2 ^ 128 := add_lt_of_clear clear (by decide)
  constructor
  · intro suffix digits
    exact ⟨_, mgmtIpv6Ip_v6 v6 suffix, _, ofText_append_suffix unscoped clear digits, rfl, rfl,
      contains_low masked short rfl (readAsHex_lt digits)⟩
  · exact ⟨_, _, mgmtIpv6Gateway_of_lt v6 gatewayBound, mgmtIpv6Ips_eq v6,
      ipv6Hosts_of_clear masked short unscoped gatewayBound⟩

end Ipv6

/-- The network address ends in a zero hextet that is not compressed. -/
theorem mgmtIpv6IpsForSubnet_hosts_uncompressed :
    ∃ gateway ips6, mgmtIpv6Gateway (some (text "2001:0:0:4:5:6:7:0/112")) = .ok gateway ∧
      mgmtIpv6IpsForSubnet (some (text "2001:0:0:4:5:6:7:0/112")) = .ok ips6 ∧
      Ipv6Hosts ⟨0x20010000000000040005000600070000, none, by decide⟩ 112 gateway ips6 := by
  have v6 : ipNetwork (subnetOr defaultMgmtIpv6Subnet (some (text "2001:0:0:4:5:6:7:0/112"))) =
      .ok ⟨.v6 ⟨0x20010000000000040005000600070000, none, by decide⟩, 112⟩ := by
    decide +kernel
  exact (mgmtIpv6IpsForSubnet_hosts v6 rfl (by decide)).2

/-- After a zone id the digits of the suffix belong to the zone id: every node gets the
network address of a zone of its own. -/
theorem mgmtIpv6Ip_zone_reads_network_address :
    ∃ address host, ipNetwork (subnetOr defaultMgmtIpv6Subnet (some (text "fe80::%eth0/64"))) =
        .ok ⟨.v6 address, 64⟩ ∧
      mgmtIpv6Ip (some (text "fe80::%eth0/64")) LabNode.ceos1Both.hostSuffix = .ok host ∧
      host = text "fe80::%eth011" ∧
      (IPv6Address.ofText host).map IPv6Address.value = some address.value ∧
      ¬ ∃ gateway ips6, mgmtIpv6Gateway (some (text "fe80::%eth0/64")) = .ok gateway ∧
        mgmtIpv6IpsForSubnet (some (text "fe80::%eth0/64")) = .ok ips6 ∧
        Ipv6Hosts address 64 gateway ips6 := by
  have v6 : ipNetwork (subnetOr defaultMgmtIpv6Subnet (some (text "fe80::%eth0/64"))) =
      .ok ⟨.v6 ⟨0xfe80 * 2 ^ 112, some (text "eth0"), by decide⟩, 64⟩ := by
    decide +kernel
  have host := mgmtIpv6Ip_v6 v6 LabNode.ceos1Both.hostSuffix
  have value : (IPv6Address.ofText (text "fe80::%eth011")).map IPv6Address.value =
      some (0xfe80 * 2 ^ 112) := by
    decide +kernel
  have written : IPv6Address.str ⟨0xfe80 * 2 ^ 112, some (text "eth0"), by decide⟩ ++
      natText LabNode.ceos1Both.hostSuffix = text "fe80::%eth011" := by
    decide +kernel
  refine ⟨_, _, v6, host, written, written ▸ value, ?_⟩
  intro settled
  obtain ⟨gateway, ips6, -, known, hosts⟩ := settled
  rw [mgmtIpv6Ips_eq v6] at known
  cases known
  obtain ⟨read, parsed, offset, -⟩ := hosts.inside .ceos1Both
  rw [written] at parsed
  rw [parsed] at value
  have same : read.value = 0xfe80 * 2 ^ 112 := Option.some.inj value
  have later := one_lt_readAsHex .ceos1Both
  dsimp only at offset
  omega

end QuantumSafe
