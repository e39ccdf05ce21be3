import QuantumSafe.Reports
import QuantumSafe.RepositoryChecks

set_option autoImplicit false

/- `validate_topology` of `lab/topology_contract.py`, on the mapping that
`load_topology` returns. -/
namespace QuantumSafe.LabContract

open PyText PyValue PyIpAddress CeosContract RenderTopo Reports
open PyRegex (WordClass)

/-- What ends a run of the validator early. -/
inductive PyException where
  | address (problem : AddressError)
  | value (problem : Raised)
deriving DecidableEq, Repr

/-- The swix file that `resolve_quadra_swix` finds: its path relative to the lab
directory, and its name. -/
structure QuadraSwix where
  rel : Text
  name : Text

def quadraSwixClabBind (swix : QuadraSwix) : Text :=
  swix.rel ++ text ":/mnt/flash/" ++ swix.name ++ text ":ro"

def quadraSwixInstallExec (swix : QuadraSwix) : Text :=
  text "bash -c '\x7b S=\"" ++ swix.name ++ text "\"; " ++
    text "\x7b echo enable; echo \"show extensions\"; \x7d | Cli | grep -F \"$S\" | grep -q \", I,\" || " ++
    text "\x7b echo enable; echo \"copy flash:$S extension:\"; echo \"extension $S\"; " ++
    text "echo \"copy installed-extensions boot-extensions\"; \x7d | Cli; " ++
    text "\x7b echo enable; echo configure; echo \"daemon quadra\"; echo \"no shutdown\"; echo end; \x7d | Cli; " ++
    text "\x7d'"

/-- `if cfg.get(key) != expected: errors.append(message)` -/
def fieldErrors (cfg : Value) (key expected message : Text) : Except Raised (List Text) := do
  return require ((← cfg.get key).isStr expected) message

/-- `if cfg.get(key) not in (expected, placeholder): errors.append(message)` -/
def eitherErrors (cfg : Value) (key expected placeholder message : Text) : Except Raised (List Text) := do
  let value ← cfg.get key
  return require (value.isStr expected || value.isStr placeholder) message

/-- `if cfg.get("network-mode") == "none": errors.append(message)` -/
def networkModeErrors (cfg : Value) (message : Text) : Except Raised (List Text) := do
  return require (!(← cfg.get (text "network-mode")).isStr (text "none")) message

def dockerMgmtMessage (node : Text) : Text :=
  node ++ text " must use default docker mgmt (do not set network-mode: none)"

/-- `if expected_bind not in binds` for each expected bind. -/
def bindsErrors (binds : Value) (start : Text) (expected : List Text) : Except Raised (List Text) :=
  forEach expected fun bind => do return require (← binds.has bind) (start ++ bind)

/-- The checks of a node, or the message that it is missing. -/
def nodeErrors (nodes : Value) (node : LabNode) (errors : Value → Except Raised (List Text)) :
    Except Raised (List Text) := do
  match ← nodes.get node.name with
  | .none => return [text "missing node " ++ node.name]
  | cfg => errors cfg

def nameErrors (data : Value) : Except Raised (List Text) :=
  inTurn
    [ fieldErrors data (text "name") labName (text "name must be " ++ labName),
      fieldErrors data (text "prefix") clabPrefix (text "prefix must be " ++ clabPrefix) ]

/-- The checks of the `mgmt` section. Each gateway is computed where it is compared. -/
def mgmtErrors (mgmt : Value) (subnet subnet6 : Text) : Except PyException (List Text) :=
  inTurn
    [ (fieldErrors mgmt (text "network") mgmtNetwork
        (text "mgmt.network must be " ++ mgmtNetwork)).mapError .value,
      (fieldErrors mgmt (text "bridge") mgmtBridge
        (text "mgmt.bridge must be " ++ mgmtBridge)).mapError .value,
      (fieldErrors mgmt (text "ipv4-subnet") subnet
        (text "mgmt.ipv4-subnet must be " ++ subnet)).mapError .value,
      do
        let gateway ← (mgmtGateway (some subnet)).mapError .address
        (eitherErrors mgmt (text "ipv4-gw") gateway (text "${MGMT_GATEWAY}")
          (text "mgmt.ipv4-gw must be " ++ gateway)).mapError .value,
      (eitherErrors mgmt (text "ipv6-subnet") subnet6 mgmtIpv6SubnetPlaceholder
        (text "mgmt.ipv6-subnet must be " ++ subnet6)).mapError .value,
      do
        let gateway6 ← (mgmtIpv6Gateway (some subnet6)).mapError .address
        (eitherErrors mgmt (text "ipv6-gw") gateway6 (text "${MGMT_IPV6_GATEWAY}")
          (text "mgmt.ipv6-gw must be " ++ gateway6)).mapError .value ]

/-- The checks of the `topology` section in front of those of its nodes. -/
def kindsErrors (topology : Value) (ceosImage : Text) : Except Raised (List Text) :=
  inTurn
    [ do
        let nodes ← topology.getOr (text "nodes") (.dict [])
        return require (!(← nodes.has mgmtBridge)) (text "topology must not declare " ++ mgmtBridge ++
          text " node (mgmt.bridge names the host bridge backing docker mgmt)"),
      do
        let allKinds ← topology.getOr (text "kinds") (.dict [])
        let kinds ← allKinds.getOr (text "arista_ceos") (.dict [])
        inTurn
          [ eitherErrors kinds (text "image") ceosImage ceosImagePlaceholder
              (text "arista_ceos image must be " ++ ceosImage),
            do
              let env ← kinds.getOr (text "env") (.dict [])
              fieldErrors env (text "CLAB_MGMT_VRF") mgmtVrfEnv (text "CLAB_MGMT_VRF must be " ++ mgmtVrfEnv) ] ]

/-- The addresses of a node, and that it keeps the docker management network. -/
def addressErrors (nodes : Value) (ips ips6 : LabNode → Text) (node : LabNode) : Except Raised (List Text) :=
  nodeErrors nodes node fun cfg =>
    inTurn
      [ fieldErrors cfg (text "mgmt-ipv4") (ips node) (node.name ++ text " mgmt-ipv4 must be " ++ ips node),
        fieldErrors cfg (text "mgmt-ipv6") (ips6 node) (node.name ++ text " mgmt-ipv6 must be " ++ ips6 node),
        if node ∈ ceosMgmtNodes then
          networkModeErrors cfg (node.name ++
            text " must use default docker mgmt (cEOS eth0 is reserved; " ++
            text "do not set network-mode: none or wire eth0 in links)")
        else if node ∈ mgmtLinuxNodes then networkModeErrors cfg (dockerMgmtMessage node.name)
        else .ok [] ]

def hostErrors (nodes : Value) (expected : HostDataPlane) : Except Raised (List Text) :=
  let host := expected.host.name
  nodeErrors nodes expected.host fun cfg =>
    inTurn
      [ fieldErrors cfg (text "kind") (text "linux") (host ++ text " kind must be linux"),
        fieldErrors cfg (text "image") hostImage (host ++ text " image must be " ++ hostImage),
        networkModeErrors cfg (dockerMgmtMessage host) ]

/-- What the checks of the syslog, KME and test-runner nodes have in common. -/
def linuxNodeErrors (cfg : Value) (node : LabNode) (image : Text) (ips : LabNode → Text)
    (expectedBinds : List Text) : Except Raised (List Text) :=
  inTurn
    [ fieldErrors cfg (text "kind") (text "linux") (node.name ++ text " kind must be linux"),
      fieldErrors cfg (text "image") image (node.name ++ text " image must be " ++ image),
      fieldErrors cfg (text "mgmt-ipv4") (ips node) (node.name ++ text " mgmt-ipv4 must be " ++ ips node),
      do
        let binds ← cfg.getOr (text "binds") (.list [])
        bindsErrors binds (node.name ++ text " must bind ") expectedBinds ]

def startupErrors (nodes : Value) (ceos : Ceos) : Except Raised (List Text) := do
  let cfg ← nodes.getOr ceos.name (.dict [])
  fieldErrors cfg (text "startup-config") (ceosStartupConfig ceos)
    (ceos.name ++ text " startup-config must be " ++ ceosStartupConfig ceos)

/-- `nodes.get(node, {}).get("binds", [])` and the checks of it. -/
def nodeBindsErrors (nodes : Value) (node : Text) (start : Text) (expected : List Text) :
    Except Raised (List Text) := do
  let cfg ← nodes.getOr node (.dict [])
  let binds ← cfg.getOr (text "binds") (.list [])
  bindsErrors binds start expected

/-- `cfg.get("cap-add") or cfg.get("cap_add") or []` -/
def capAdd (cfg : Value) : Except Raised Value := do
  let dashed ← cfg.get (text "cap-add")
  if dashed.truthy then return dashed
  let underscored ← cfg.get (text "cap_add")
  return if underscored.truthy then underscored else .list []

section

variable (printable : Char → Bool)

/-- The environment of a KME node is compared by the `str` of its values. -/
def kmeEnvErrors (cfg : Value) (spec : KmeNode) (ips ips6 : LabNode → Text) : Except Raised (List Text) := do
  let env ← cfg.getOr (text "env") (.dict [])
  forEach (kmeEnvForNode spec ips ips6) fun (key, value) => do
    return require ((← (← env.get key).strOf printable) == value)
      (spec.node.name ++ text " env " ++ key ++ text " must be " ++ reprText printable value)

def kmeNodeErrors (nodes : Value) (spec : KmeNode) (ips ips6 : LabNode → Text) : Except Raised (List Text) :=
  nodeErrors nodes spec.node fun cfg =>
    inTurn
      [ linuxNodeErrors cfg spec.node kmeImage ips kmeBinds,
        kmeEnvErrors printable cfg spec ips ips6,
        do
          return require (← (← capAdd cfg).has (text "NET_ADMIN")) (spec.node.name ++
            text " must include cap-add NET_ADMIN for mgmt-plane iptables isolation") ]

def hostExecCommands (nodeCfg : Value) : Except Raised (List Text) := do
  match ← nodeCfg.getOr (text "exec") (.list []) with
  | .none => return []
  | .list commands => commands.mapM (Value.strOf printable)
  | _ => .error (.valueError (text "host exec must be a list"))

/-- Whether a switch runs the given command. -/
def execErrors (nodes : Value) (ceos : Ceos) (expected message : Text) : Except Raised (List Text) := do
  let commands ← hostExecCommands printable (← nodes.getOr ceos.name (.dict []))
  return require (commands.contains expected) (ceos.name ++ message)

def ceosNodeErrors (nodes : Value) (ceos : Ceos) : Except Raised (List Text) :=
  inTurn
    [ nodeBindsErrors nodes ceos.name (ceos.name ++ text " must bind ") (ceosBinds ceos),
      execErrors printable nodes ceos (ceosRadsecPkiExec ceos) (text " must exec RadSec PKI install") ]

/-- The two loops over the switches that run QuaDRA, when its file is found. -/
def quadraErrors (nodes : Value) (swix : Option QuadraSwix) : Except Raised (List Text) :=
  match swix with
  | none => .ok []
  | some swix =>
      inTurn
        [ forEach ceosQuadraNodes fun ceos =>
            nodeBindsErrors nodes ceos.name (ceos.name ++ text " must bind QuaDRA swix ")
              [quadraSwixClabBind swix],
          forEach ceosQuadraNodes fun ceos =>
            execErrors printable nodes ceos (quadraSwixInstallExec swix)
              (text " must exec QuaDRA extension install") ]

/-- The nested loops over the links of a topology and over the endpoints of each. -/
def forEachEndpoint (topology : Value) (check : Text → List Text) : Except Raised (List Text) := do
  let links ← topology.getOr (text "links") (.list [])
  forEach (← links.iter) fun link => do
    let endpoints ← link.getOr (text "endpoints") (.list [])
    forEach (← endpoints.iter) fun endpoint => do return check (← endpoint.asStr)

/-- The endpoint belongs to the node. -/
def endpointOf (node endpoint : Text) : Bool := startswith endpoint (node ++ text ":")

/-- `kme_data_plane_endpoints` -/
def kmeDataPlaneEndpoints (topology : Value) : Except Raised (List Text) := do
  let endpoints ← forEachEndpoint topology fun endpoint =>
    if endpointOf LabNode.kmeA.name endpoint || endpointOf LabNode.kmeB.name endpoint then [endpoint] else []
  return endpoints.dedup.filter fun endpoint => endpoint ≠ text "kme-a:eth0" ∧ endpoint ≠ text "kme-b:eth0"

def kmeLinkErrors (topology : Value) : Except Raised (List Text) := do
  let endpoints ← kmeDataPlaneEndpoints topology
  let found := Value.list ((endpoints.insertionSort (· ≤ ·)).map .str)
  return require endpoints.isEmpty
    (text "KME nodes must not have data-plane links (found " ++ found.repr printable ++ text ")")

/-- `actual_links`, as a list of tuples. -/
def actualLinks (topology : Value) : Except Raised (List (List Value)) := do
  let links ← topology.getOr (text "links") (.list [])
  forEach (← links.iter) fun link => do
    if ← link.has (text "endpoints") then return [← (← link.subscript (text "endpoints")).hashedTuple]
    else return []

/-- The tuple of a link is the given pair of strings. -/
def isLink (first second : Text) : List Value → Bool
  | [left, right] => left.isStr first && right.isStr second
  | _ => false

def missingLinkErrors (topology : Value) : Except Raised (List Text) := do
  let actual ← actualLinks topology
  return links.flatMap fun (first, second) =>
    require (actual.any (isLink first second) || actual.any (isLink second first))
      (text "missing link " ++ first ++ text " <-> " ++ second)

/-- The loop that refuses management connectivity, for one endpoint. -/
def mgmtEndpointErrors (endpoint : Text) : List Text :=
  if endpointOf mgmtBridge endpoint || (text ":eth0").isSuffixOf endpoint then
    if mgmtNodes.any fun node => endpointOf node.name endpoint then
      [text "mgmt connectivity must use docker mgmt, not topology link " ++ reprText printable endpoint]
    else []
  else []

def linkErrors (topology : Value) : Except Raised (List Text) :=
  inTurn [missingLinkErrors topology, forEachEndpoint topology (mgmtEndpointErrors printable)]

def validateHostDataPlane (nodes : Value) : Except Raised (List Text) :=
  forEach hostDataPlane fun expected => do
    let host := expected.host.name
    match ← nodes.get host with
    | .none => return []
    | cfg =>
        let execText := join (text "\n") (← hostExecCommands printable cfg)
        return needs (text "ip addr add " ++ expected.addr ++ text " dev eth1")
            (host ++ text " exec must configure " ++ expected.addr ++ text " on eth1") execText ++
          needs (text "ip route replace default via " ++ expected.gateway ++ text " dev eth1")
            (host ++ text " exec must use default gateway " ++ expected.gateway) execText ++
          needs (text "ip -6 addr add " ++ expected.addr6 ++ text " dev eth1")
            (host ++ text " exec must configure " ++ expected.addr6 ++ text " on eth1") execText ++
          needs (text "ip -6 route replace default via " ++ expected.gateway6 ++ text " dev eth1")
            (host ++ text " exec must use default IPv6 gateway " ++ expected.gateway6) execText

def validateMgmtTopologyNodes (nodes : Value) : Except Raised (List Text) :=
  inTurn
    [ do
        return require (!(← nodes.has mgmtBridge)) (text "topology must not declare " ++ mgmtBridge ++
          text " as a node (mgmt.bridge names the host bridge backing docker mgmt)"),
      forEach mgmtLinuxNodes fun node => do
        let cfg ← nodes.getOr node.name (.dict [])
        let mode ← networkModeErrors cfg (dockerMgmtMessage node.name)
        let execText := join (text "\n") (← hostExecCommands printable cfg)
        return mode ++ refuses (text "dev eth0")
          (node.name ++ text " must not configure eth0 via exec (docker mgmt assigns it)") execText ]

/-- The checks of the nodes and links of the `topology` section. -/
def topologyErrors (topology : Value) (ips ips6 : LabNode → Text) (swix : Option QuadraSwix) :
    Except Raised (List Text) := do
  let nodes ← topology.getOr (text "nodes") (.dict [])
  inTurn
    [ forEach LabNode.all (addressErrors nodes ips ips6),
      forEach hostDataPlane (hostErrors nodes),
      nodeErrors nodes .radius fun cfg =>
        fieldErrors cfg (text "image") radiusImage (text "radius image must be " ++ radiusImage),
      nodeErrors nodes .syslog fun cfg => linuxNodeErrors cfg .syslog syslogImage ips syslogBinds,
      forEach Ceos.all (startupErrors nodes),
      nodeBindsErrors nodes LabNode.radius.name (text "radius must bind ") radiusBinds,
      kmeNodeErrors printable nodes kmeNodeA ips ips6,
      kmeNodeErrors printable nodes kmeNodeB ips ips6,
      nodeErrors nodes .testRunner fun cfg => linuxNodeErrors cfg .testRunner testRunnerImage ips testRunnerBinds,
      kmeLinkErrors printable topology,
      forEach Ceos.all (ceosNodeErrors printable nodes),
      quadraErrors printable nodes swix,
      linkErrors printable topology,
      validateHostDataPlane printable nodes,
      validateMgmtTopologyNodes printable nodes ]

/-- The message of an error in a switch configuration. -/
def violationText : Violation → Text
  | .missingConfig ceos => text "missing lab/.gen/" ++ ceos.name ++ text ".cfg (run make gen-topo)"
  | .broken ceos message => ceos.name ++ text ".cfg " ++ message
  | .cleartextHosts ceos lines =>
      ceos.name ++ text ".cfg must not configure cleartext syslog hosts: " ++
        (Value.list (lines.map .str)).repr printable

/-- The validators of the files of the repository. -/
def repositoryErrors [WordClass] (repo : Repository) (subnet subnet6 : Text) :
    Except AddressError (List Text) :=
  inTurn
    [ do
        let configs := fun ceos : Ceos => repo.read (text "lab/.gen/" ++ ceos.name ++ text ".cfg")
        let violations ← validateCeosConfigs configs (some subnet) (some subnet6)
        return violations.map (violationText printable),
      validateRadiusConfigs printable repo (some subnet) (some subnet6),
      .ok (validateSyslogConfigs printable repo),
      .ok (validateLabImagePins printable repo),
      .ok (validateTopoHostPaths repo) ]

/-- The keyword arguments of `validate_topology`. -/
structure Expected where
  ceosImage : Option Text
  mgmtSubnet : Option Text
  mgmtIpv6Subnet : Option Text

/-- What `validate_topology` depends on besides its arguments. -/
structure Environment where
  printable : Char → Bool
  repo : Repository
  quadraSwix : Option QuadraSwix

end

/-- `validate_topology(data, repo_root, ceos_image=..., mgmt_subnet=..., mgmt_ipv6_subnet=...)`. -/
def validateTopology [WordClass] (env : Environment) (expected : Expected) (data : List (Value × Value)) :
    Except PyException (List Text) := do
  let ceosImage := subnetOr defaultCeosImage expected.ceosImage
  let subnet := subnetOr defaultMgmtSubnet expected.mgmtSubnet
  let subnet6 := subnetOr defaultMgmtIpv6Subnet expected.mgmtIpv6Subnet
  let ips ← (mgmtIpsForSubnet (some subnet)).mapError .address
  let ips6 ← (mgmtIpv6IpsForSubnet (some subnet6)).mapError .address
  let mgmt := (find (text "mgmt") data).getD (.dict [])
  let topology := (find (text "topology") data).getD (.dict [])
  inTurn
    [ (nameErrors (.dict data)).mapError .value,
      mgmtErrors mgmt subnet subnet6,
      (kindsErrors topology ceosImage).mapError .value,
      (topologyErrors env.printable topology ips ips6 env.quadraSwix).mapError .value,
      (repositoryErrors env.printable env.repo subnet subnet6).mapError .address ]

end QuantumSafe.LabContract
