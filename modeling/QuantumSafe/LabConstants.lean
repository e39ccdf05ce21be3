import QuantumSafe.RenderConfigs

set_option autoImplicit false

/- The constants of `lab/topology_contract.py` that `validate_topology` compares the
topology and the files of the repository with. -/
namespace QuantumSafe.LabContract

open PyText CeosContract RenderTopo

def mgmtNetwork : Text := text "quantum-safe-mgmt"
def mgmtBridge : Text := text "mgmt-bridge"
def mgmtVrfEnv : Text := text "MGMT"
def defaultCeosImage : Text := text "ceos:4.36.2F"
def ceosImagePlaceholder : Text := text "${CEOS_IMAGE}"
def mgmtIpv6SubnetPlaceholder : Text := text "${MGMT_IPV6_SUBNET}"
def alpineVersion : Text := text "3.24"
def hostImage : Text := text "alpine:" ++ alpineVersion
def radiusImage : Text := text "quantum-safe-radius:latest"
def syslogImage : Text := text "quantum-safe-syslog:latest"
def testRunnerImage : Text := text "quantum-safe-test-runner:latest"
def kmeImage : Text := text "quantum-safe-kme:latest"
def radsecSecret : Text := text "radsec"
def radsecPort : Nat := 2083
def tlsPqcGroup : Text := text "X25519MLKEM768"
def syslogTlsPqcSafeOpensslGroups : Text := text "X25519MLKEM768:secp256r1:X25519:ffdhe2048"
def syslogMaxConnections : Nat := 32

/-- `SOURCE_OPENSSL_DOCKERFILE_FORBIDDEN` -/
def sourceOpensslDockerfileForbidden : List Text :=
  [text "USE_SOURCE_OPENSSL", text "/opt/openssl", text "quantum-safe-openssl", text "OPENSSL_IMAGE"]

/-- `MGMT_NODES` -/
def mgmtNodes : List LabNode := [.ceos1Both, .ceos2Pqc, .ceos3Qkd, .radius, .syslog, .kmeA, .kmeB]

/-- `CEOS_MGMT_NODES` -/
def ceosMgmtNodes : List LabNode := [.ceos1Both, .ceos2Pqc, .ceos3Qkd]

/-- `MGMT_LINUX_NODES` -/
def mgmtLinuxNodes : List LabNode := [.radius, .syslog, .kmeA, .kmeB, .testRunner]

/-- `CEOS_QUADRA_NODES` -/
def ceosQuadraNodes : List Ceos := [.ceos1Both, .ceos3Qkd]

/-- `LINKS` -/
def links : List (Text × Text) :=
  [ (text "ceos1-both:eth1", text "ceos2-pqc:eth1"),
    (text "ceos1-both:eth2", text "ceos3-qkd:eth1"),
    (text "ceos1-both:eth8", text "host1:eth1"),
    (text "ceos2-pqc:eth8", text "host2:eth1"),
    (text "ceos3-qkd:eth8", text "host3:eth1") ]

/-- An entry of `HOST_DATA_PLANE`. -/
structure HostDataPlane where
  host : LabNode
  addr : Text
  gateway : Text
  addr6 : Text
  gateway6 : Text

def hostDataPlane : List HostDataPlane :=
  [ ⟨.host1, text "10.0.1.1/24", text "10.0.1.254", text "2001:db8:1::1/64", text "2001:db8:1::fe"⟩,
    ⟨.host2, text "10.0.2.1/24", text "10.0.2.254", text "2001:db8:2::1/64", text "2001:db8:2::fe"⟩,
    ⟨.host3, text "10.0.3.1/24", text "10.0.3.254", text "2001:db8:3::1/64", text "2001:db8:3::fe"⟩ ]

def radiusBinds : List Text :=
  [ text "../lab/.gen/clients.conf:/etc/raddb/clients.conf:ro",
    text "../lab/.gen/clients-radsec.conf:/etc/raddb/clients-radsec.conf:ro",
    text "../configs/radius/raddb/radiusd.conf:/etc/raddb/radiusd-log.conf:ro",
    text "../configs/radius/raddb/sites-available/tls:/etc/raddb/sites-available/tls:ro",
    text "../lab/.gen/pki/server.pem:/etc/raddb/certs/radsec/server.pem:ro",
    text "../lab/.gen/pki/ca.pem:/etc/raddb/certs/radsec/ca.pem:ro",
    text "../lab/.gen/pki/ceos1-both-client.pem:/etc/raddb/certs/probe/ceos1-both-client.pem:ro",
    text "../lab/.gen/pki/ceos1-both-client.key:/etc/raddb/certs/probe/ceos1-both-client.key:ro",
    text "../lab/.gen/pki/ceos2-pqc-client.pem:/etc/raddb/certs/probe/ceos2-pqc-client.pem:ro",
    text "../lab/.gen/pki/ceos2-pqc-client.key:/etc/raddb/certs/probe/ceos2-pqc-client.key:ro",
    text "../lab/.gen/pki/ceos3-qkd-client.pem:/etc/raddb/certs/probe/ceos3-qkd-client.pem:ro",
    text "../lab/.gen/pki/ceos3-qkd-client.key:/etc/raddb/certs/probe/ceos3-qkd-client.key:ro",
    text "logs/radius:/var/log/radius" ]

def syslogBinds : List Text :=
  [ text "../configs/syslog/syslog-ng.conf:/etc/syslog-ng/syslog-ng.conf:ro",
    text "../docker/syslog/openssl-pqc.cnf:/etc/syslog-ng/openssl-pqc.cnf:ro",
    text "../lab/.gen/pki/syslog-server.pem:/etc/syslog-ng/certs/server.pem:ro",
    text "../lab/.gen/pki/syslog-server.key:/etc/syslog-ng/certs/server.key:ro",
    text "../lab/.gen/pki/ca.pem:/etc/syslog-ng/certs/ca.pem:ro",
    text "logs/syslog:/var/log/syslog" ]

def kmeBinds : List Text := [text "../lab/.gen/kme-pki:/certs:ro"]

def ceosKmeBinds : List Text :=
  [ text "../lab/.gen/kme-pki/ca.crt.pem:/mnt/flash/kme-ca.crt.pem:ro",
    text "../lab/.gen/kme-pki/sae.crt.pem:/mnt/flash/kme-sae.crt.pem:ro",
    text "../lab/.gen/kme-pki/sae.key.pem:/mnt/flash/kme-sae.key.pem:ro",
    text "../lab/.gen/kme-pki/sae-b.crt.pem:/mnt/flash/kme-sae-b.crt.pem:ro",
    text "../lab/.gen/kme-pki/sae-b.key.pem:/mnt/flash/kme-sae-b.key.pem:ro",
    text "../lab/.gen/kme-pki/kme-sae-bundle.pem:/mnt/flash/kme-sae-bundle.pem:ro",
    text "../lab/.gen/kme-pki/kme-sae-b-bundle.pem:/mnt/flash/kme-sae-b-bundle.pem:ro" ]

def testRunnerProbeCertBinds : List Text :=
  ceosMgmtNodes.flatMap fun node =>
    [text "client.pem", text "client.key"].map fun suffix =>
      text "../lab/.gen/pki/" ++ node.name ++ text "-" ++ suffix ++ text ":/etc/probe/certs/" ++
        node.name ++ text "-" ++ suffix ++ text ":ro"

def testRunnerBinds : List Text :=
  [ text "../lab/.gen/pki/ca.pem:/etc/probe/certs/ca.pem:ro",
    text "../lab/.gen/pki/radsec-ca.pem:/etc/probe/certs/radsec-ca.pem:ro" ] ++ testRunnerProbeCertBinds

/-- The file of a switch under `lab/.gen/pki`, and where it is mounted. -/
def ceosPkiBind (ceos : Ceos) (suffix : Text) : Text :=
  text "../lab/.gen/pki/" ++ ceos.name ++ suffix ++ text ":/mnt/flash/" ++ ceos.name ++ suffix ++ text ":ro"

/-- `CEOS_BINDS[ceos]` -/
def ceosBinds (ceos : Ceos) : List Text :=
  [text "../lab/.gen/pki/radsec-ca.pem:/mnt/flash/radsec-ca.pem:ro"] ++
    [ text "-client.pem", text "-client.key", text "-eapi.pem", text "-eapi.key", text "-gnmi.pem",
      text "-gnmi.key" ].map (ceosPkiBind ceos) ++
    match ceos with
    | .ceos2Pqc => []
    | _ => ceosKmeBinds

def ceosStartupConfig (ceos : Ceos) : Text := text "../lab/.gen/" ++ ceos.name ++ text ".cfg"

/-- `CEOS_RADSEC_PKI_EXEC[ceos]` -/
def ceosRadsecPkiExec (ceos : Ceos) : Text :=
  text "bash -c '\x7b echo enable; echo \"copy flash:radsec-ca.pem certificate:\"; " ++
    text "echo \"copy flash:" ++ ceos.name ++ text "-client.pem certificate:\"; " ++
    text "echo \"copy flash:" ++ ceos.name ++ text "-client.key sslkey:\"; " ++
    text "echo \"copy flash:" ++ ceos.name ++ text "-eapi.pem certificate:\"; " ++
    text "echo \"copy flash:" ++ ceos.name ++ text "-eapi.key sslkey:\"; " ++
    text "echo \"copy flash:" ++ ceos.name ++ text "-gnmi.pem certificate:\"; " ++
    text "echo \"copy flash:" ++ ceos.name ++ text "-gnmi.key sslkey:\"; \x7d | Cli'"

def kmePkiFiles : List Text :=
  [ text "ca.crt.pem", text "kme-a.crt.pem", text "kme-a.key.pem", text "kme-b.crt.pem",
    text "kme-b.key.pem", text "sae.crt.pem", text "sae.key.pem", text "sae-b.crt.pem",
    text "sae-b.key.pem", text "kme-sae-bundle.pem", text "kme-sae-b-bundle.pem" ]

def pkiFiles : List Text :=
  [ text "ca.pem", text "radsec-ca.pem", text "server.pem", text "ceos1-both-client.pem",
    text "ceos1-both-client.key", text "ceos1-both-eapi.pem", text "ceos1-both-eapi.key",
    text "ceos1-both-gnmi.pem", text "ceos1-both-gnmi.key", text "ceos2-pqc-client.pem",
    text "ceos2-pqc-client.key", text "ceos2-pqc-eapi.pem", text "ceos2-pqc-eapi.key",
    text "ceos2-pqc-gnmi.pem", text "ceos2-pqc-gnmi.key", text "ceos3-qkd-client.pem",
    text "ceos3-qkd-client.key", text "ceos3-qkd-eapi.pem", text "ceos3-qkd-eapi.key",
    text "ceos3-qkd-gnmi.pem", text "ceos3-qkd-gnmi.key", text "syslog-server.pem",
    text "syslog-server.key" ]

/-- An entry of `KME_NODES`. -/
structure KmeNode where
  node : LabNode
  port : Nat
  kmeId : Text
  attachedSaeId : Text
  kmeCert : Text
  kmeKey : Text
  peerNode : LabNode
  peerPort : Nat
  saeCert : Option Text

def kmeNodeA : KmeNode where
  node := .kmeA
  port := kmeAPort
  kmeId := text "9b7703f1-9b6d-403d-b850-18a1b6fd6d8f"
  attachedSaeId := kmeSaeId
  kmeCert := text "/certs/kme-a.crt.pem"
  kmeKey := text "/certs/kme-a.key.pem"
  peerNode := .kmeB
  peerPort := kmeBPort
  saeCert := none

def kmeNodeB : KmeNode where
  node := .kmeB
  port := kmeBPort
  kmeId := text "ffb23f4d-5d5b-47e5-a8c5-fe9e47d646cd"
  attachedSaeId := kmeBSaeId
  kmeCert := text "/certs/kme-b.crt.pem"
  kmeKey := text "/certs/kme-b.key.pem"
  peerNode := .kmeA
  peerPort := kmeAPort
  saeCert := some (text "/certs/sae-b.crt.pem")

def kmeCommonSaeCert : Text := text "/certs/sae.crt.pem"

/-- `KME_COMMON_ENV`, without the `SAE_CERT` that each node sets. -/
def kmeCommonEnv : List (Text × Text) :=
  [ (text "HOST", text "::"),
    (text "DEFAULT_KEY_SIZE", text "256"),
    (text "MAX_KEY_COUNT", text "100000"),
    (text "MAX_KEYS_PER_REQUEST", text "128"),
    (text "MAX_KEY_SIZE", text "1024"),
    (text "MIN_KEY_SIZE", text "256"),
    (text "KEY_GEN_SEC_TO_GEN", text "30"),
    (text "CA_FILE", text "/certs/ca.crt.pem") ]

def kmeOtherKmes (peerIp : Text) (peerPort : Nat) : Text :=
  text "https://" ++ peerIp ++ text ":" ++ natText peerPort

def kmeSaeClientIps (ips ips6 : LabNode → Text) : Text :=
  join (text ",") (kmeSaeClientNodes.map ips ++ kmeSaeClientNodes.map ips6)

/-- `kme_env_for_node`, in the order of the keys. -/
def kmeEnvForNode (spec : KmeNode) (ips ips6 : LabNode → Text) : List (Text × Text) :=
  kmeCommonEnv ++
    [ (text "SAE_CERT", spec.saeCert.getD kmeCommonSaeCert),
      (text "PORT", natText spec.port),
      (text "KME_ID", spec.kmeId),
      (text "ATTACHED_SAE_ID", spec.attachedSaeId),
      (text "OTHER_KMES", kmeOtherKmes (ips spec.peerNode) spec.peerPort),
      (text "KME_CERT", spec.kmeCert),
      (text "KME_KEY", spec.kmeKey),
      (text "SAE_CLIENT_IPS", kmeSaeClientIps ips ips6) ]

end QuantumSafe.LabContract
