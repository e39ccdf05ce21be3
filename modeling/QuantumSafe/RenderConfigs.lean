import QuantumSafe.CeosTemplates
import QuantumSafe.CeosChecks
import QuantumSafe.RenderTopo

set_option autoImplicit false

/- `build_substitutions` and `render_config_templates` of `lab/render_topo.py`. -/
namespace QuantumSafe.RenderTopo

open PyText PyIpAddress CeosContract

def quadraScRxId : Text := text "01:02:03:0a:0b:0c::1001"
def quadraScTxId : Text := text "01:02:03:0a:0b:0c::1002"

/-- `KME_SAE_CLIENT_NODES`. -/
def kmeSaeClientNodes : List LabNode := [.kmeA, .ceos1Both, .ceos3Qkd]

inductive RenderError where
  | address (problem : AddressError)
  | unresolved (message : Text)
deriving DecidableEq, Repr

/-- `s.rstrip("\n")`. -/
def rstripNewlines (s : Text) : Text := s.rdropWhile (· == '\n')

def quadraBase (ips : LabNode → Text) : List (Text × Text) :=
  [ (text "KME_A_PORT", natText kmeAPort),
    (text "KME_B_PORT", natText kmeBPort),
    (text "KME_SAE_ID", kmeSaeId),
    (text "KME_B_SAE_ID", kmeBSaeId),
    (text "QUADRA_KEY_RX", quadraKeyRx),
    (text "QUADRA_KEY_TX", quadraKeyTx),
    (text "QUADRA_SC_RX_ID", quadraScRxId),
    (text "QUADRA_SC_TX_ID", quadraScTxId),
    (text "MGMT_IP_KME_A", ips .kmeA),
    (text "MGMT_IP_KME_B", ips .kmeB) ]

def quadraMasterCtx (ips : LabNode → Text) : List (Text × Text) :=
  quadraBase ips ++
    [ (text "QUADRA_MACSEC_PROFILE", quadraMacsecProfileMaster),
      (text "QUADRA_MACSEC_INTF", text "Ethernet2"),
      (text "QUADRA_PEER_IP", text "10.255.0.6") ]

def quadraSlaveCtx (ips : LabNode → Text) : List (Text × Text) :=
  quadraBase ips ++
    [ (text "QUADRA_MACSEC_PROFILE", quadraMacsecProfileSlave),
      (text "QUADRA_MACSEC_INTF", text "Ethernet1"),
      (text "QUADRA_PEER_IP", text "10.255.0.5") ]

/-- `substitute_placeholders` on a file of lines. -/
def renderFile (lines : List Text) (substitutions : List (Text × Text)) : Except RenderError Text :=
  (substitutePlaceholders (fileText lines) substitutions).mapError .unresolved

def renderQuadra (lines : List Text) (ctx : List (Text × Text)) : Except RenderError Text :=
  (renderFile lines ctx).map rstripNewlines

/-- The dictionary that `build_substitutions` returns, in its order. -/
def substitutionItems (ceosImage mgmtSubnet mgmtIpv6Subnet : Text) (values : MgmtValues)
    (macsecMaster macsecSlave daemonMaster daemonSlave : Text) : List (Text × Text) :=
  [ (text "CEOS_IMAGE", ceosImage),
    (text "MGMT_SUBNET", mgmtSubnet),
    (text "MGMT_GATEWAY", values .gateway),
    (text "MGMT_PREFIX", values .prefixLen),
    (text "MGMT_IPV6_SUBNET", mgmtIpv6Subnet),
    (text "MGMT_IPV6_GATEWAY", values .gateway6),
    (text "MGMT_IPV6_PREFIX", values .prefixLen6),
    (text "MGMT_IP_CEOS1_BOTH", values (.ip .ceos1Both)),
    (text "MGMT_IP_CEOS2_PQC", values (.ip .ceos2Pqc)),
    (text "MGMT_IP_CEOS3_QKD", values (.ip .ceos3Qkd)),
    (text "MGMT_IP_HOST1", values (.ip .host1)),
    (text "MGMT_IP_HOST2", values (.ip .host2)),
    (text "MGMT_IP_HOST3", values (.ip .host3)),
    (text "MGMT_IP_RADIUS", values (.ip .radius)),
    (text "MGMT_IP_SYSLOG", values (.ip .syslog)),
    (text "MGMT_IP_KME_A", values (.ip .kmeA)),
    (text "MGMT_IP_KME_B", values (.ip .kmeB)),
    (text "MGMT_IP_TEST_RUNNER", values (.ip .testRunner)),
    (text "MGMT_IPV6_CEOS1_BOTH", values (.ip6 .ceos1Both)),
    (text "MGMT_IPV6_CEOS2_PQC", values (.ip6 .ceos2Pqc)),
    (text "MGMT_IPV6_CEOS3_QKD", values (.ip6 .ceos3Qkd)),
    (text "MGMT_IPV6_HOST1", values (.ip6 .host1)),
    (text "MGMT_IPV6_HOST2", values (.ip6 .host2)),
    (text "MGMT_IPV6_HOST3", values (.ip6 .host3)),
    (text "MGMT_IPV6_RADIUS", values (.ip6 .radius)),
    (text "MGMT_IPV6_SYSLOG", values (.ip6 .syslog)),
    (text "MGMT_IPV6_KME_A", values (.ip6 .kmeA)),
    (text "MGMT_IPV6_KME_B", values (.ip6 .kmeB)),
    (text "MGMT_IPV6_TEST_RUNNER", values (.ip6 .testRunner)),
    (text "KME_SAE_CLIENT_IPS", join (text ",") (kmeSaeClientNodes.map (fun node => values (.ip node)) ++
      kmeSaeClientNodes.map fun node => values (.ip6 node))),
    (text "RADIUS_SERVER_IP", values (.ip6 .radius)),
    (text "SYSLOG_SERVER_IPV4", values (.ip .syslog)),
    (text "SYSLOG_SERVER_IPV6", values (.ip6 .syslog)),
    (text "CONTROL_PLANE_ACL", rstripNewlines (fileText controlPlaneAclTemplate)),
    (text "QUADRA_MACSEC_MASTER", macsecMaster),
    (text "QUADRA_MACSEC_SLAVE", macsecSlave),
    (text "QUADRA_DAEMON_MASTER", daemonMaster),
    (text "QUADRA_DAEMON_SLAVE", daemonSlave) ]

/-- The values of the two subnets, in the order in which the dictionary computes them. -/
def subnetValues (mgmtSubnet mgmtIpv6Subnet : Text) : Except AddressError MgmtValues := do
  let ips ← mgmtIpsForSubnet (some mgmtSubnet)
  let ips6 ← mgmtIpv6IpsForSubnet (some mgmtIpv6Subnet)
  let gateway ← mgmtGateway (some mgmtSubnet)
  let prefixLen ← mgmtPrefixLen (some mgmtSubnet)
  let gateway6 ← mgmtIpv6Gateway (some mgmtIpv6Subnet)
  let prefixLen6 ← mgmtIpv6PrefixLen (some mgmtIpv6Subnet)
  return mgmtValues ips ips6 gateway gateway6 prefixLen prefixLen6

def buildSubstitutions (ceosImage mgmtSubnet mgmtIpv6Subnet : Text) :
    Except RenderError (List (Text × Text)) := do
  let values ← (subnetValues mgmtSubnet mgmtIpv6Subnet).mapError .address
  let ips := fun node => values (.ip node)
  let macsecMaster ← renderQuadra quadraMacsecMasterTemplate (quadraMasterCtx ips)
  let macsecSlave ← renderQuadra quadraMacsecSlaveTemplate (quadraSlaveCtx ips)
  let daemonMaster ← renderQuadra quadraDaemonMasterTemplate (quadraMasterCtx ips)
  let daemonSlave ← renderQuadra quadraDaemonSlaveTemplate (quadraSlaveCtx ips)
  return substitutionItems ceosImage mgmtSubnet mgmtIpv6Subnet values macsecMaster macsecSlave
    daemonMaster daemonSlave

def ceosOutput (ceos : Ceos) : Text := ceos.name ++ text ".cfg"

/-- `TEMPLATE_PATHS`: the output names with the templates they are rendered from. -/
def templatePaths : List (Text × List Text) :=
  [ (ceosOutput .ceos1Both, ceosTemplate .ceos1Both),
    (ceosOutput .ceos2Pqc, ceosTemplate .ceos2Pqc),
    (ceosOutput .ceos3Qkd, ceosTemplate .ceos3Qkd),
    (text "clients.conf", clientsTemplate),
    (text "clients-radsec.conf", clientsRadsecTemplate) ]

/-- `render_config_templates`: the texts it writes under `lab/.gen`. -/
def renderConfigTemplates (ceosImage mgmtSubnet mgmtIpv6Subnet : Text) :
    Except RenderError (List (Text × Text)) := do
  let substitutions ← buildSubstitutions ceosImage mgmtSubnet mgmtIpv6Subnet
  templatePaths.mapM fun template => do
    return (template.1, ← renderFile template.2 substitutions)

/-- The switch configurations as `read_text` gives them back. -/
def writtenConfig (written : List (Text × Text)) (ceos : Ceos) : Option Text :=
  (written.lookup (ceosOutput ceos)).map universalNewlines

end QuantumSafe.RenderTopo
