import QuantumSafe.CeosContract

set_option autoImplicit false

/- The templates that `render_config_templates` and `build_substitutions` read from
`configs/`, as lists of lines. Runs of lines that the three switch templates share
stand once. -/
namespace QuantumSafe.RenderTopo

open PyText CeosContract

/-- The text of a file of lines. -/
def fileText (lines : List Text) : Text := unlines (lines ++ [[]])

def loginLines : List Text :=
  [ text "no aaa root",
    text "!",
    text "logging console informational",
    text "logging vrf MGMT host ${SYSLOG_SERVER_IPV4} 6514 protocol tls ssl-profile SYSLOG",
    text "logging vrf MGMT host ${SYSLOG_SERVER_IPV6} 6514 protocol tls ssl-profile SYSLOG",
    text "logging trap informational",
    text "!",
    text "aaa authentication policy local allow-nopassword-remote-login" ]

def platformLines : List Text :=
  [ text "aaa authorization exec default local",
    text "username admin nopassword role network-admin privilege 15",
    text "!",
    text "service routing protocols model multi-agent",
    text "!",
    text "platform tfa",
    text "   interface mode relaying",
    text "!",
    text "vrf instance MGMT",
    text "!",
    text "! Default gateway for custom mgmt subnet (Containerlab bridge).",
    text "ip route vrf MGMT 0.0.0.0/0 ${MGMT_GATEWAY}",
    text "ipv6 route vrf MGMT ::/0 ${MGMT_IPV6_GATEWAY}",
    text "!",
    text "interface Management0",
    text "   vrf MGMT" ]

def managementApiLines : List Text :=
  [ text "management api gnmi",
    text "   transport grpc default",
    text "      vrf MGMT",
    text "      ssl profile GNMI",
    text "!",
    text "management api restconf",
    text "   transport https restconf",
    text "      ssl profile RESTCONF",
    text "   vrf MGMT",
    text "!",
    text "management api eos-sdk-rpc",
    text "   transport grpc default",
    text "      local interface Management0",
    text "      service all",
    text "      no disabled",
    text "      ssl profile GNMI",
    text "!",
    text "management api gribi",
    text "   transport grpc default",
    text "      vrf MGMT",
    text "      ssl profile GRIBI",
    text "!",
    text "management api gnsi",
    text "   transport gnmi default",
    text "   service authz",
    text "   service certz",
    text "!",
    text "management api gnpsi",
    text "   transport grpc default",
    text "      listen-address vrf MGMT ::",
    text "      port 6031",
    text "      ssl profile GNPSI",
    text "      source sFlow",
    text "      no disabled",
    text "!",
    text "management api netconf",
    text "   transport ssh default",
    text "      vrf MGMT",
    text "!",
    text "management api http-commands",
    text "   no shutdown",
    text "   protocol https ssl profile EAPI",
    text "   !",
    text "   vrf MGMT",
    text "      no shutdown",
    text "!",
    text "management ssh",
    text "   key-exchange mlkem768x25519-sha256",
    text "   cipher aes256-gcm@openssh.com",
    text "   mac hmac-sha2-256 hmac-sha2-512",
    text "   shutdown",
    text "   !",
    text "   vrf MGMT",
    text "      no shutdown",
    text "      !",
    text "!",
    text "! RadSec/eAPI/gNMI/RESTCONF PKI is installed post-boot via containerlab exec (copy is exec-only, not startup-config).",
    text "management security" ]

def telemetryLines : List Text :=
  [ text "sflow sample 4096",
    text "sflow polling-interval 30",
    text "sflow run",
    text "sflow interface egress enable default Ethernet8",
    text "!",
    text "radius-server host ${RADIUS_SERVER_IP} vrf MGMT tls ssl-profile RADSEC",
    text "!",
    text "aaa group server radius RADIUS",
    text "   server ${RADIUS_SERVER_IP} tls vrf MGMT" ]

def routingLines : List Text :=
  [ text "!",
    text "ip routing",
    text "ipv6 unicast-routing",
    text "!" ]

/-- One `ssl profile` stanza of the security section. -/
def profileLines (ceos : Ceos) (profile group certificate : Text) : List Text :=
  [ text "   ssl profile " ++ profile,
    text "      tls versions 1.3",
    text "      key-establishment-group " ++ group,
    text "      cipher v1.3 TLS_AES_256_GCM_SHA384:TLS_CHACHA20_POLY1305_SHA256:TLS_AES_128_GCM_SHA256",
    text "      certificate " ++ ceos.name ++ text "-" ++ certificate ++ text ".pem key " ++ ceos.name ++
      text "-" ++ certificate ++ text ".key" ]

def trustLine : Text := text "      trust certificate radsec-ca.pem"

def trustedProfileLines (ceos : Ceos) (profile group certificate : Text) : List Text :=
  profileLines ceos profile group certificate ++ [trustLine]

def securityLines (ceos : Ceos) : List Text :=
  let trusted (profile certificate : Text) :=
    trustedProfileLines ceos profile (text "X25519MLKEM768") certificate
  let next := [text "   !"]
  profileLines ceos (text "EAPI") (text "X25519MLKEM768") (text "eapi") ++ next ++
    trusted (text "GNMI") (text "gnmi") ++ next ++ trusted (text "RESTCONF") (text "gnmi") ++ next ++
    trusted (text "RADSEC") (text "client") ++ next ++
    (if ceos = .ceos2Pqc then trusted (text "DOT1X") (text "client") ++ next else []) ++
    trustedProfileLines ceos (text "SYSLOG") (text "X25519MLKEM768:ecdh_x25519:secp256r1")
      (text "client") ++ next ++
    trusted (text "GRIBI") (text "gnmi") ++ next ++ trusted (text "GNSI") (text "gnmi") ++ next ++
    trusted (text "GNPSI") (text "gnmi")

def accountingLines : Ceos → List Text
  | .ceos1Both =>
    [ text "aaa authentication dot1x default group RADIUS",
      text "aaa accounting dot1x default start-stop group RADIUS" ]
  | _ => []

/-- From the addresses of Management0 to the last data-plane interface. -/
def interfaceLines : Ceos → List Text
  | .ceos1Both =>
    [ text "   ip address ${MGMT_IP_CEOS1_BOTH}/${MGMT_PREFIX}",
      text "   ipv6 address ${MGMT_IPV6_CEOS1_BOTH}/${MGMT_IPV6_PREFIX}",
      text "!",
      text "interface Ethernet1",
      text "   no switchport",
      text "   ip address 10.255.0.1/30",
      text "   ipv6 address 2001:db8:255:0::1/126",
      text "   mac security profile dynamic",
      text "   dot1x pae authenticator",
      text "   dot1x reauthentication",
      text "   dot1x port-control auto",
      text "   dot1x timeout reauth-period 60",
      text "!",
      text "interface Ethernet2",
      text "   no switchport",
      text "   ip address 10.255.0.5/30",
      text "   ipv6 address 2001:db8:255:0::5/126",
      text "   mac security profile quadra-master",
      text "!",
      text "interface Ethernet8",
      text "   no switchport",
      text "   ip address 10.0.1.254/24",
      text "   ipv6 address 2001:db8:1::fe/64",
      text "   sflow enable" ]
  | .ceos2Pqc =>
    [ text "   ip address ${MGMT_IP_CEOS2_PQC}/${MGMT_PREFIX}",
      text "   ipv6 address ${MGMT_IPV6_CEOS2_PQC}/${MGMT_IPV6_PREFIX}",
      text "!",
      text "interface Ethernet1",
      text "   no switchport",
      text "   ip address 10.255.0.2/30",
      text "   ipv6 address 2001:db8:255:0::2/126",
      text "   mac security profile dynamic",
      text "   dot1x pae supplicant macsec-sp",
      text "!",
      text "interface Ethernet8",
      text "   no switchport",
      text "   ip address 10.0.2.254/24",
      text "   ipv6 address 2001:db8:2::fe/64",
      text "   sflow enable" ]
  | .ceos3Qkd =>
    [ text "   ip address ${MGMT_IP_CEOS3_QKD}/${MGMT_PREFIX}",
      text "   ipv6 address ${MGMT_IPV6_CEOS3_QKD}/${MGMT_IPV6_PREFIX}",
      text "!",
      text "interface Ethernet1",
      text "   no switchport",
      text "   ip address 10.255.0.6/30",
      text "   ipv6 address 2001:db8:255:0::6/126",
      text "   mac security profile quadra-slave",
      text "!",
      text "interface Ethernet8",
      text "   no switchport",
      text "   ip address 10.0.3.254/24",
      text "   ipv6 address 2001:db8:3::fe/64",
      text "   sflow enable" ]

def routeLines : Ceos → List Text
  | .ceos1Both =>
    [ text "ip route 10.0.2.0/24 10.255.0.2",
      text "ip route 10.0.3.0/24 10.255.0.6",
      text "ipv6 route 2001:db8:2::/64 2001:db8:255:0::2",
      text "ipv6 route 2001:db8:3::/64 2001:db8:255:0::6",
      text "!" ]
  | .ceos2Pqc =>
    [ text "ip route 10.0.1.0/24 10.255.0.1",
      text "ip route 10.0.3.0/24 10.255.0.1",
      text "ipv6 route 2001:db8:1::/64 2001:db8:255:0::1",
      text "ipv6 route 2001:db8:3::/64 2001:db8:255:0::1",
      text "!" ]
  | .ceos3Qkd =>
    [ text "ip route 10.0.1.0/24 10.255.0.5",
      text "ip route 10.0.2.0/24 10.255.0.5",
      text "ipv6 route 2001:db8:1::/64 2001:db8:255:0::5",
      text "ipv6 route 2001:db8:2::/64 2001:db8:255:0::5",
      text "!" ]

/-- What follows the RadSec server group. -/
def linkLines : Ceos → List Text
  | .ceos1Both =>
    [ text "!",
      text "dot1x system-auth-control",
      text "!",
      text "mac security",
      text "   profile dynamic",
      text "      key source dot1x",
      text "!",
      text "${QUADRA_MACSEC_MASTER}",
      text "!",
      text "${QUADRA_DAEMON_MASTER}",
      text "!",
      text "${CONTROL_PLANE_ACL}",
      text "end" ]
  | .ceos2Pqc =>
    [ text "!",
      text "dot1x system-auth-control",
      text "!",
      text "dot1x",
      text "   supplicant profile macsec-sp",
      text "      identity ceos2-pqc",
      text "      eap-method tls",
      text "      ssl profile DOT1X",
      text "!",
      text "mac security",
      text "   profile dynamic",
      text "      key source dot1x",
      text "!",
      text "${CONTROL_PLANE_ACL}",
      text "end" ]
  | .ceos3Qkd =>
    [ text "!",
      text "${QUADRA_MACSEC_SLAVE}",
      text "!",
      text "${QUADRA_DAEMON_SLAVE}",
      text "!",
      text "${CONTROL_PLANE_ACL}",
      text "end" ]

/-- `configs/ceos/{name}.cfg.in`. -/
def ceosTemplate (ceos : Ceos) : List Text :=
  [text "hostname " ++ ceos.name] ++ loginLines ++ accountingLines ceos ++ platformLines ++
    interfaceLines ceos ++ routingLines ++ routeLines ceos ++ managementApiLines ++ securityLines ceos ++
    [text "!"] ++ telemetryLines ++ linkLines ceos

/-- `configs/ceos/control-plane-acl.cfg.in`. -/
def controlPlaneAclTemplate : List Text :=
  [ text "!",
    text "! default-control-plane-acl is read-only; clone it, add RESTCONF (6020) and eos-sdk-rpc (9543).",
    text "ip access-list quantum-safe-cp",
    text "   counters per-entry",
    text "   5 permit tcp any any eq 6020",
    text "   6 permit tcp any any eq 9543",
    text "   7 permit tcp any any eq 6031",
    text "   10 permit icmp any any",
    text "   20 permit ip any any tracked",
    text "   30 permit udp any any eq bfd ttl eq 255",
    text "   40 permit udp any any eq bfd-echo ttl eq 254",
    text "   50 permit udp any any eq multihop-bfd micro-bfd sbfd",
    text "   60 permit udp any eq sbfd any eq sbfd-initiator",
    text "   70 permit ospf any any",
    text "   80 permit tcp any any eq ssh telnet www snmp bgp https msdp ldp netconf-ssh gnmi",
    text "   90 permit udp any any eq bootps bootpc snmp rip ntp ldp ptp-event ptp-general",
    text "   100 permit tcp any any eq mlag ttl eq 255",
    text "   110 permit udp any any eq mlag ttl eq 255",
    text "   120 permit vrrp any any",
    text "   130 permit ahp any any",
    text "   140 permit pim any any",
    text "   150 permit igmp any any",
    text "   160 permit tcp any any range 5900 5910",
    text "   170 permit tcp any any range 50000 50100",
    text "   180 permit udp any any range 51000 51100",
    text "   190 permit tcp any any eq 3333",
    text "   200 permit tcp any any eq nat ttl eq 255",
    text "   210 permit tcp any eq bgp any",
    text "   220 permit rsvp any any",
    text "   230 permit tcp any any eq 9340",
    text "   240 permit tcp any any eq 9559",
    text "   250 permit udp any any eq 8503",
    text "   260 permit udp any any eq lsp-ping",
    text "   270 permit udp any eq lsp-ping any range 51900 51999",
    text "!",
    text "system control-plane",
    text "   ip access-group quantum-safe-cp vrf MGMT in",
    text "   ipv6 access-group quantum-safe-cp-v6 vrf MGMT in",
    text "!",
    text "ipv6 access-list quantum-safe-cp-v6",
    text "   counters per-entry",
    text "   5 permit tcp any any eq 6020",
    text "   6 permit tcp any any eq 9543",
    text "   7 permit tcp any any eq 6031",
    text "   10 permit icmp any any",
    text "   20 permit ipv6 any any tracked",
    text "   30 permit udp any any eq bfd",
    text "   70 permit ospf any any",
    text "   80 permit tcp any any eq ssh telnet www snmp bgp https msdp ldp netconf-ssh gnmi",
    text "   90 permit udp any any eq bootps bootpc snmp rip ntp ldp",
    text "   100 permit tcp any any eq mlag",
    text "   110 permit udp any any eq mlag",
    text "   120 permit vrrp any any",
    text "   130 permit ahp any any",
    text "   140 permit pim any any",
    text "   150 permit igmp any any",
    text "   160 permit tcp any any range 5900 5910",
    text "   170 permit tcp any any range 50000 50100",
    text "   180 permit udp any any range 51000 51100",
    text "   190 permit tcp any any eq 3333",
    text "   200 permit tcp any any eq nat",
    text "   210 permit tcp any eq bgp any",
    text "   220 permit rsvp any any",
    text "   230 permit tcp any any eq 9340",
    text "   240 permit tcp any any eq 9559",
    text "   250 permit udp any any eq 8503",
    text "   260 permit udp any any eq lsp-ping",
    text "   270 permit udp any eq lsp-ping any range 51900 51999",
    text "!" ]

/-- `configs/ceos/quadra-macsec-master.cfg.in`. -/
def quadraMacsecMasterTemplate : List Text :=
  [ text "! QuaDRA static SAK MACsec — master (ceos1-both). Keys are placeholders until the agent runs.",
    text "mac security",
    text "   profile ${QUADRA_MACSEC_PROFILE}",
    text "      cipher aes256-gcm-xpn",
    text "      key source sak static",
    text "      secure channel rx",
    text "         identifier ${QUADRA_SC_RX_ID}",
    text "         an 0 key ${QUADRA_KEY_RX}",
    text "      secure channel tx",
    text "         identifier ${QUADRA_SC_TX_ID}",
    text "         an 0 key ${QUADRA_KEY_TX}" ]

/-- `configs/ceos/quadra-macsec-slave.cfg.in`. -/
def quadraMacsecSlaveTemplate : List Text :=
  [ text "! QuaDRA static SAK MACsec — slave (ceos3-qkd). rx/tx keys and SC IDs are reversed vs master.",
    text "mac security",
    text "   profile ${QUADRA_MACSEC_PROFILE}",
    text "      cipher aes256-gcm-xpn",
    text "      key source sak static",
    text "      secure channel rx",
    text "         identifier ${QUADRA_SC_TX_ID}",
    text "         an 0 key ${QUADRA_KEY_TX}",
    text "      secure channel tx",
    text "         identifier ${QUADRA_SC_RX_ID}",
    text "         an 0 key ${QUADRA_KEY_RX}" ]

/-- `configs/ceos/quadra-daemon-master.cfg.in`. -/
def quadraDaemonMasterTemplate : List Text :=
  [ text "! QuaDRA agent — master on ceos1-both (shutdown in startup-config; post-boot exec starts when swix present).",
    text "! Note: peer-mode CLI value is inverted — \"slave\" selects the master role (see internal/docs/quadra.md).",
    text "daemon quadra",
    text "   exec /usr/bin/quadra",
    text "   shutdown",
    text "   option macsec-intf value ${QUADRA_MACSEC_INTF}",
    text "   option peer value ${QUADRA_PEER_IP}",
    text "   option peer-mode value slave",
    text "   option key-rotation value 120s",
    text "   option kme value ${MGMT_IP_KME_A}:${KME_A_PORT}",
    text "   option kme-vrf value MGMT",
    text "   option cacert value /mnt/flash/kme-ca.crt.pem",
    text "   option cert value /mnt/flash/kme-sae-bundle.pem",
    text "   option peer-sae value ${KME_B_SAE_ID}",
    text "   option recovery-keys value ${QUADRA_KEY_RX},${QUADRA_KEY_TX}" ]

/-- `configs/ceos/quadra-daemon-slave.cfg.in`. -/
def quadraDaemonSlaveTemplate : List Text :=
  [ text "! QuaDRA agent — slave on ceos3-qkd (shutdown in startup-config; post-boot exec starts when swix present).",
    text "! Note: peer-mode CLI value is inverted — \"master\" selects the slave role (see internal/docs/quadra.md).",
    text "daemon quadra",
    text "   exec /usr/bin/quadra",
    text "   shutdown",
    text "   option macsec-intf value ${QUADRA_MACSEC_INTF}",
    text "   option peer value ${QUADRA_PEER_IP}",
    text "   option peer-mode value master",
    text "   option kme value ${MGMT_IP_KME_B}:${KME_B_PORT}",
    text "   option kme-vrf value MGMT",
    text "   option cacert value /mnt/flash/kme-ca.crt.pem",
    text "   option cert value /mnt/flash/kme-sae-b-bundle.pem",
    text "   option peer-sae value ${KME_SAE_ID}",
    text "   option recovery-keys value ${QUADRA_KEY_TX},${QUADRA_KEY_RX}" ]

/-- `configs/radius/raddb/clients.conf.in`. -/
def clientsTemplate : List Text :=
  [ text "client dockernet \x7b",
    text "    ipaddr  = 172.17.0.0/16",
    text "    secret  = testing123",
    text "\x7d" ]

/-- `configs/radius/raddb/clients-radsec.conf.in`. -/
def clientsRadsecTemplate : List Text :=
  [ text "# RadSec NAS clients (TLS, port 2083). Rendered to lab/.gen/clients-radsec.conf.",
    text "",
    text "client ceos1-both \x7b",
    text "    ipv6addr = ${MGMT_IPV6_CEOS1_BOTH}",
    text "    proto   = tls",
    text "    secret  = radsec",
    text "    nas_type = other",
    text "    require_message_authenticator = true",
    text "    limit_proxy_state = true",
    text "\x7d",
    text "",
    text "client ceos2-pqc \x7b",
    text "    ipv6addr = ${MGMT_IPV6_CEOS2_PQC}",
    text "    proto   = tls",
    text "    secret  = radsec",
    text "    nas_type = other",
    text "    require_message_authenticator = true",
    text "    limit_proxy_state = true",
    text "\x7d",
    text "",
    text "client ceos3-qkd \x7b",
    text "    ipv6addr = ${MGMT_IPV6_CEOS3_QKD}",
    text "    proto   = tls",
    text "    secret  = radsec",
    text "    nas_type = other",
    text "    require_message_authenticator = true",
    text "    limit_proxy_state = true",
    text "\x7d",
    text "",
    text "# PQC collector probe from test-runner (switch client cert, probe source IP).",
    text "client test-runner-v4 \x7b",
    text "    ipaddr   = ${MGMT_IP_TEST_RUNNER}",
    text "    proto   = tls",
    text "    secret  = radsec",
    text "    nas_type = other",
    text "    require_message_authenticator = true",
    text "    limit_proxy_state = true",
    text "\x7d",
    text "",
    text "client test-runner-v6 \x7b",
    text "    ipv6addr = ${MGMT_IPV6_TEST_RUNNER}",
    text "    proto   = tls",
    text "    secret  = radsec",
    text "    nas_type = other",
    text "    require_message_authenticator = true",
    text "    limit_proxy_state = true",
    text "\x7d" ]

end QuantumSafe.RenderTopo
