import QuantumSafe.CeosContract

set_option autoImplicit false

/- The checks of `validate_ceos_configs`, in the order of the source. -/
namespace QuantumSafe.CeosContract

open PyText PyRegex SymbolicText PyIpAddress

/-- Interface addresses, gateways and static routes. -/
def addressChecks (ceos : Ceos) : List Check :=
  let expected := ceosDataPlane ceos
  [ wants (lit "vrf instance MGMT") (lit "must define vrf instance MGMT"),
    wants (lit "ip address " ++ expected.mgmtIp) (lit "Management0 must have " ++ expected.mgmtIp),
    wants (lit "ip route vrf MGMT 0.0.0.0/0 " ++ expected.mgmtGateway)
      (lit "must use mgmt gateway " ++ expected.mgmtGateway),
    wants (lit "ipv6 address " ++ expected.mgmtIp6) (lit "Management0 must have " ++ expected.mgmtIp6),
    wants (lit "ipv6 route vrf MGMT ::/0 " ++ expected.mgmtGateway6)
      (lit "must use mgmt IPv6 gateway " ++ expected.mgmtGateway6),
    wants (lit "ip address " ++ expected.eth1) (lit "Ethernet1 must have " ++ expected.eth1),
    wants (lit "ipv6 address " ++ expected.eth1Ipv6) (lit "Ethernet1 must have " ++ expected.eth1Ipv6) ] ++
  expected.eth2.toList.map (fun eth2 =>
    wants (lit "ip address " ++ eth2) (lit "Ethernet2 must have " ++ eth2)) ++
  expected.eth2Ipv6.toList.map (fun eth2 =>
    wants (lit "ipv6 address " ++ eth2) (lit "Ethernet2 must have " ++ eth2)) ++
  [ wants (lit "ip address " ++ expected.eth8) (lit "Ethernet8 must have " ++ expected.eth8),
    wants (lit "ipv6 address " ++ expected.eth8Ipv6)
      (lit "Ethernet8 must have " ++ expected.eth8Ipv6) ] ++
  expected.staticRoutes.map (fun route =>
    wants (lit "ip route " ++ route.1 ++ lit " " ++ route.2)
      (lit "must route " ++ route.1 ++ lit " via " ++ route.2)) ++
  expected.staticRoutes6.map (fun route =>
    wants (lit "ipv6 route " ++ route.1 ++ lit " " ++ route.2)
      (lit "must route " ++ route.1 ++ lit " via " ++ route.2))

def radsecServer : Check :=
  wants (lit "radius-server host " ++ slot (.ip6 .radius) ++ lit " vrf MGMT tls ssl-profile " ++
      chars sslProfile)
    (lit "must configure RadSec server in MGMT VRF over IPv6")

def legacyRadsecServer : Check :=
  forbids (lit "radius-server host " ++ slot (.ip .radius) ++ lit " vrf MGMT")
    (lit "must not configure legacy IPv4 RadSec server")

def tlsChecks : List Check :=
  [ wants (lit "ssl profile RADSEC") (lit "must define ssl profile RADSEC"),
    wants (lit "tls versions 1.3") (lit "must restrict ssl profile to TLS 1.3") ]

def syslogHost (syslogIp : FString) : Check :=
  wants (lit "logging vrf MGMT host " ++ syslogIp ++ lit " " ++ num syslogPort ++
      lit " protocol tls ssl-profile " ++ chars syslogSslProfile)
    (lit "must forward syslog to " ++ syslogIp ++ lit ":" ++ num syslogPort ++
      lit " via TLS profile " ++ chars syslogSslProfile)

def forwardingChecks : List Check :=
  [ wants (lit "server " ++ slot (.ip6 .radius) ++ lit " tls vrf MGMT")
      (lit "aaa group must use RadSec transport in MGMT VRF"),
    wants (lit "logging vrf MGMT") (lit "must configure remote syslog in vrf MGMT"),
    syslogHost (slot (.ip .syslog)),
    syslogHost (slot (.ip6 .syslog)) ]

def definesProfile (name : Text) : Check :=
  wants (lit "ssl profile " ++ chars name) (lit "must define ssl profile " ++ chars name)

def eapiChecks (ceos : Ceos) : List Check :=
  [ wants (lit "logging trap informational") (lit "must trap informational syslog messages"),
    definesProfile syslogSslProfile,
    definesProfile eapiSslProfile,
    wants (lit "protocol https ssl profile " ++ chars eapiSslProfile)
      (lit "must enable eAPI HTTPS with ssl profile " ++ chars eapiSslProfile),
    wants (lit "certificate " ++ chars ceos.name ++ lit "-eapi.pem key " ++ chars ceos.name ++
        lit "-eapi.key")
      (lit "must reference per-switch eAPI certificate") ]

def gnmiChecks (ceos : Ceos) : List Check :=
  [ definesProfile gnmiSslProfile,
    wantsIn (.after (text "management api gnmi")) (lit "ssl profile " ++ chars gnmiSslProfile)
      (lit "gNMI transport must reference ssl profile " ++ chars gnmiSslProfile),
    wants (lit "certificate " ++ chars ceos.name ++ lit "-gnmi.pem key " ++ chars ceos.name ++
        lit "-gnmi.key")
      (lit "must reference per-switch gNMI certificate"),
    wants (lit "management api gnmi") (lit "must enable management api gnmi"),
    wants (lit "transport grpc default") (lit "must configure gNMI grpc default transport"),
    definesProfile restconfSslProfile,
    wants (lit "management api restconf") (lit "must enable management api restconf"),
    wantsIn (.after (text "management api restconf")) (lit "ssl profile " ++ chars restconfSslProfile)
      (lit "RESTCONF transport must reference ssl profile " ++ chars restconfSslProfile),
    wants (lit "management api eos-sdk-rpc") (lit "must enable management api eos-sdk-rpc"),
    wantsIn (.after (text "management api eos-sdk-rpc")) (lit "ssl profile " ++ chars gnmiSslProfile)
      (lit "eos-sdk-rpc transport must reference ssl profile " ++ chars gnmiSslProfile) ]

def eossdkrpcChecks : List Check :=
  let eossdkrpc := Scope.block (text "management api eos-sdk-rpc")
  [ wantsIn eossdkrpc (lit "local interface Management0")
      (lit "eos-sdk-rpc transport must bind local interface Management0"),
    wantsIn eossdkrpc (lit "service all") (lit "eos-sdk-rpc transport must enable service all"),
    wantsIn eossdkrpc (lit "no disabled")
      (lit "eos-sdk-rpc transport must be enabled (no disabled)") ]

def gribiChecks : List Check :=
  let gribi := Scope.block (text "management api gribi")
  [ definesProfile gribiSslProfile,
    wants (lit "management api gribi") (lit "must enable management api gribi"),
    wantsIn gribi (lit "ssl profile " ++ chars gribiSslProfile)
      (lit "gRIBI transport must reference ssl profile " ++ chars gribiSslProfile),
    wantsIn gribi (lit "vrf MGMT") (lit "gRIBI transport must bind vrf MGMT") ]

def gnsiChecks : List Check :=
  let gnsi := Scope.block (text "management api gnsi")
  [ definesProfile gnsiSslProfile,
    wants (lit "management api gnsi") (lit "must enable management api gnsi"),
    wantsIn gnsi (lit "service authz") (lit "gNSI must enable service authz"),
    wantsIn gnsi (lit "service certz") (lit "gNSI must enable service certz"),
    forbidsIn gnsi (lit "transport grpc")
      (lit "gNSI must not use transport grpc on EOS 4.36.2F (use transport gnmi default to attach Certz/Authz to gNMI :6030)"),
    wantsIn gnsi (lit "transport gnmi default")
      (lit "gNSI must attach to gNMI via transport gnmi default") ]

def gnpsiChecks : List Check :=
  let gnpsi := Scope.block (text "management api gnpsi")
  [ definesProfile gnpsiSslProfile,
    wants (lit "management api gnpsi") (lit "must enable management api gnpsi"),
    wantsIn gnpsi (lit "ssl profile " ++ chars gnpsiSslProfile)
      (lit "gNPSI transport must reference ssl profile " ++ chars gnpsiSslProfile),
    wantsIn gnpsi (lit "port " ++ num gnpsiPort)
      (lit "gNPSI transport must listen on port " ++ num gnpsiPort),
    wantsIn gnpsi (lit "listen-address vrf MGMT ::")
      (lit "gNPSI transport must listen on vrf MGMT (:: dual-stack)"),
    forbidsIn gnpsi (lit "listen-address vrf MGMT 0.0.0.0")
      (lit "gNPSI allows only one listen-address; use vrf MGMT :: (not 0.0.0.0)"),
    wantsIn gnpsi (lit "source sFlow") (lit "gNPSI transport must use source sFlow"),
    wantsIn gnpsi (lit "no disabled") (lit "gNPSI transport must be enabled (no disabled)"),
    wants (lit "sflow run") (lit "must enable sFlow for gNPSI"),
    wantsIn (.block (text "interface Ethernet8")) (lit "sflow enable")
      (lit "Ethernet8 (host link) must enable sFlow ingress (sflow enable)"),
    wants (lit "sflow interface egress enable default Ethernet8")
      (lit "must enable sFlow egress on host link Ethernet8") ]

def trustsCa (name : Text) : Check :=
  wantsIn (.profile name) (lit "trust certificate radsec-ca.pem")
    (chars name ++ lit " ssl profile must trust radsec-ca.pem for mTLS")

def trustChecks (ceos : Ceos) : List Check :=
  [ trustsCa gribiSslProfile,
    trustsCa gnsiSslProfile,
    trustsCa gnpsiSslProfile,
    wantsIn (.profile syslogSslProfile)
      (lit "certificate " ++ chars ceos.name ++ lit "-client.pem key " ++ chars ceos.name ++
        lit "-client.key")
      (lit "SYSLOG ssl profile must use per-switch client certificate"),
    wantsIn (.profile syslogSslProfile) (lit "trust certificate radsec-ca.pem")
      (lit "SYSLOG ssl profile must trust radsec-ca.pem"),
    trustsCa gnmiSslProfile,
    trustsCa restconfSslProfile ]

def permitsPort (port : Nat) (service : FString) : Check :=
  wants (lit "permit tcp any any eq " ++ num port)
    (lit "control-plane ACL must permit TCP " ++ num port ++ lit " (" ++ service ++ lit ")")

def controlPlaneChecks : List Check :=
  [ wants (lit "ip access-list " ++ chars controlPlaneAcl)
      (lit "must define control-plane ACL " ++ chars controlPlaneAcl),
    permitsPort restconfPort (lit "RESTCONF"),
    permitsPort eossdkrpcPort (lit "eos-sdk-rpc"),
    permitsPort gnpsiPort (lit "gNPSI"),
    permitsPort gribiPort (lit "gRIBI"),
    wants (lit "ip access-group " ++ chars controlPlaneAcl ++ lit " vrf MGMT in")
      (lit "must apply " ++ chars controlPlaneAcl ++ lit " on system control-plane vrf MGMT"),
    wants (lit "ipv6 access-group " ++ chars controlPlaneAcl ++ lit "-v6 vrf MGMT in")
      (lit "must apply " ++ chars controlPlaneAcl ++ lit "-v6 on system control-plane vrf MGMT"),
    forbids (lit "copy flash:")
      (lit "must not use copy flash in startup-config (use containerlab exec)"),
    wants (lit "aaa group server radius RADIUS") (lit "must define aaa group server radius RADIUS"),
    wants (lit "management ssh") (lit "must configure management ssh"),
    wants (lit "key-exchange " ++ chars sshPqcKex)
      (lit "must configure SSH PQC key exchange (" ++ chars sshPqcKex ++ lit ")") ]

def sshCipher : Check :=
  .found sshCipherPattern (lit "must configure SSH PQC ciphers (" ++ chars sshPqcCiphers ++ lit " only)")

def sshMac : Check :=
  wants (lit "mac " ++ chars sshPqcMacs) (lit "must configure SSH PQC MAC algorithms")

def sshVrf : Check := .found sshVrfPattern (lit "must enable SSH in vrf MGMT")

def sshDefaultShutdown : Check :=
  .found sshDefaultShutdownPattern (lit "must disable SSH on the default VRF (shutdown)")

def macsecChecks : List Check :=
  [ wants (lit "dot1x system-auth-control") (lit "must enable dot1x system-auth-control"),
    wants (lit "profile " ++ chars macsecProfile)
      (lit "must define mac security profile " ++ chars macsecProfile),
    wants (lit "key source dot1x") (lit "mac security profile must use key source dot1x"),
    wants (lit "mac security profile " ++ chars macsecProfile)
      (lit "Ethernet1 must apply mac security profile " ++ chars macsecProfile) ]

def authenticatorChecks : List Check :=
  [ wants (lit "aaa authentication dot1x default group RADIUS")
      (lit "must authenticate dot1x via RadSec group RADIUS"),
    wants (lit "aaa accounting dot1x default start-stop group RADIUS")
      (lit "must account dot1x via RadSec group RADIUS"),
    wants (lit "dot1x pae authenticator") (lit "Ethernet1 must act as dot1x authenticator"),
    wants (lit "dot1x port-control auto") (lit "Ethernet1 must use dot1x port-control auto"),
    wants (lit "dot1x reauthentication") (lit "Ethernet1 must enable dot1x reauthentication"),
    wants (lit "dot1x timeout reauth-period " ++ num dot1xReauthPeriodSec)
      (lit "Ethernet1 must set dot1x timeout reauth-period " ++ num dot1xReauthPeriodSec) ]

def supplicantChecks : List Check :=
  [ wants (lit "supplicant profile " ++ chars dot1xSupplicantProfile)
      (lit "must define dot1x supplicant profile " ++ chars dot1xSupplicantProfile),
    wants (lit "identity " ++ chars dot1xEapIdentity)
      (lit "dot1x supplicant must use identity " ++ chars dot1xEapIdentity),
    wants (lit "eap-method tls") (lit "dot1x supplicant must use eap-method tls"),
    wants (lit "ssl profile " ++ chars dot1xEapSslProfile)
      (lit "dot1x supplicant must reference ssl profile " ++ chars dot1xEapSslProfile),
    wantsIn (.after (text "management security")) (lit "ssl profile " ++ chars dot1xEapSslProfile)
      (lit "must define ssl profile " ++ chars dot1xEapSslProfile),
    wants (lit "dot1x pae supplicant " ++ chars dot1xSupplicantProfile)
      (lit "Ethernet1 must enable dot1x supplicant " ++ chars dot1xSupplicantProfile) ]

def noDot1x : Check := forbids (lit "dot1x") (lit "must not configure dot1x on the QuaDRA link")

/-- The entries of `QUADRA_MACSEC_INTF`, `QUADRA_PEER_IP` and `QUADRA_KME_BUNDLE`
for one switch. -/
structure QuadraLink where
  profile : Text
  intf : Text
  peerIp : Text
  bundle : Text

def quadraMasterLink : QuadraLink :=
  ⟨quadraMacsecProfileMaster, text "Ethernet2", text "10.255.0.6", text "kme-sae-bundle.pem"⟩

def quadraSlaveLink : QuadraLink :=
  ⟨quadraMacsecProfileSlave, text "Ethernet1", text "10.255.0.5", text "kme-sae-b-bundle.pem"⟩

def quadraChecks (link : QuadraLink) : List Check :=
  let quadraBlock := Scope.block (text "daemon quadra")
  [ wants (lit "profile " ++ chars link.profile)
      (lit "must define QuaDRA mac security profile " ++ chars link.profile),
    wants (lit "key source sak static") (lit "QuaDRA profile must use key source sak static"),
    wants (lit "cipher aes256-gcm-xpn") (lit "QuaDRA profile must use aes256-gcm-xpn cipher"),
    wants (lit "an 0 key " ++ chars quadraKeyRx) (lit "QuaDRA profile must include rx placeholder key"),
    wants (lit "an 0 key " ++ chars quadraKeyTx) (lit "QuaDRA profile must include tx placeholder key"),
    wantsIn (.after (text "interface " ++ link.intf)) (lit "mac security profile " ++ chars link.profile)
      (chars link.intf ++ lit " must apply mac security profile " ++ chars link.profile),
    wants (lit "daemon quadra") (lit "must define daemon quadra"),
    wants (lit "exec /usr/bin/quadra") (lit "daemon quadra must exec /usr/bin/quadra"),
    forbidsIn quadraBlock (lit "no shutdown")
      (lit "daemon quadra must remain shutdown until manually enabled"),
    wantsIn quadraBlock (lit "shutdown")
      (lit "daemon quadra must be shutdown (agent not auto-started)"),
    wants (lit "option macsec-intf value " ++ chars link.intf)
      (lit "daemon quadra must set macsec-intf " ++ chars link.intf),
    wants (lit "option peer value " ++ chars link.peerIp)
      (lit "daemon quadra must set peer " ++ chars link.peerIp),
    wants (lit "option kme-vrf value MGMT") (lit "daemon quadra must set kme-vrf MGMT"),
    wants (lit "option cacert value /mnt/flash/kme-ca.crt.pem")
      (lit "daemon quadra must reference kme-ca.crt.pem"),
    wants (lit "option cert value /mnt/flash/" ++ chars link.bundle)
      (lit "daemon quadra must reference /mnt/flash/" ++ chars link.bundle) ]

def kmeEndpoint (node : LabNode) (port : Nat) : FString := slot (.ip node) ++ lit ":" ++ num port

def quadraMasterChecks : List Check :=
  [ wants (lit "option kme value " ++ kmeEndpoint .kmeA kmeAPort)
      (lit "daemon quadra must point kme at kme-a (" ++ kmeEndpoint .kmeA kmeAPort ++ lit ")"),
    wants (lit "option peer-sae value " ++ chars kmeBSaeId)
      (lit "daemon quadra must set peer-sae " ++ chars kmeBSaeId),
    wants (lit "option peer-mode value slave")
      (lit "daemon quadra must use peer-mode slave (master role)"),
    wants (lit "option recovery-keys value " ++ chars quadraKeyRx ++ lit "," ++ chars quadraKeyTx)
      (lit "daemon quadra must set master recovery-keys") ]

def quadraSlaveChecks : List Check :=
  [ wants (lit "option kme value " ++ kmeEndpoint .kmeB kmeBPort)
      (lit "daemon quadra must point kme at kme-b (" ++ kmeEndpoint .kmeB kmeBPort ++ lit ")"),
    wants (lit "option peer-sae value " ++ chars kmeSaeId)
      (lit "daemon quadra must set peer-sae " ++ chars kmeSaeId),
    wants (lit "option peer-mode value master")
      (lit "daemon quadra must use peer-mode master (slave role)"),
    wants (lit "option recovery-keys value " ++ chars quadraKeyTx ++ lit "," ++ chars quadraKeyRx)
      (lit "daemon quadra must set slave recovery-keys") ]

/-- The services between the syslog check and the patterns of `management ssh`. -/
def serviceChecks (ceos : Ceos) : List Check :=
  eapiChecks ceos ++ gnmiChecks ceos ++ eossdkrpcChecks ++ gribiChecks ++ gnsiChecks ++ gnpsiChecks ++
    trustChecks ceos ++ controlPlaneChecks

/-- The checks after `management ssh`, which depend on the switch. -/
def linkChecks : Ceos → List Check
  | .ceos1Both => macsecChecks ++ authenticatorChecks ++ quadraChecks quadraMasterLink ++ quadraMasterChecks
  | .ceos2Pqc => macsecChecks ++ supplicantChecks
  | .ceos3Qkd => [noDot1x] ++ quadraChecks quadraSlaveLink ++ quadraSlaveChecks

def checks (ceos : Ceos) : List Check :=
  addressChecks ceos ++ [radsecServer, legacyRadsecServer] ++ tlsChecks ++ [.keyGroups] ++
    forwardingChecks ++ [.cleartext] ++ serviceChecks ceos ++ [sshCipher, sshMac, sshVrf,
      sshDefaultShutdown] ++ linkChecks ceos

def configErrors (values : MgmtValues) (ceos : Ceos) (config : Text) : List Violation :=
  (checks ceos).flatMap (Check.errors values ceos config)

/-- `validate_ceos_configs`, on the texts of the files under `lab/.gen` that exist. -/
def validateCeosConfigs (files : Ceos → Option Text) (mgmtSubnet mgmtIpv6Subnet : Option Text) :
    Except AddressError (List Violation) := do
  let values ← dataPlaneValues mgmtSubnet mgmtIpv6Subnet
  return Ceos.all.flatMap fun ceos =>
    match files ceos with
    | none => [.missingConfig ceos]
    | some config => configErrors values ceos config

/-- A forbidden text that is there is reported. -/
theorem forbids_found {needle config : Text} {message : FString} {values : MgmtValues} {ceos : Ceos}
    (present : contains needle config = true) :
    (forbids (chars needle) message).errors values ceos config ≠ [] := by
  rw [forbids, Check.errors, Rule.errors, fill_chars, Scope.part, present]
  exact List.cons_ne_nil _ _

end QuantumSafe.CeosContract
