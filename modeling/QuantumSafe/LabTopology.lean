import QuantumSafe.RenderedContract
import QuantumSafe.TopologyLinks

set_option autoImplicit false

/- The lab's own topology at the default subnets, with the files it needs, and
which further links `validate_topology` accepts in it. -/
namespace QuantumSafe.LabContract

open PyText PyValue PyIpAddress CeosContract RenderTopo Reports
open PyRegex (WordClass)

def labIps (node : LabNode) : Text := (mgmtIp none node.hostSuffix).toOption.getD []

def labIps6 (node : LabNode) : Text := (mgmtIpv6Ip none node.hostSuffix).toOption.getD []

def labValues : MgmtValues :=
  mgmtValues labIps labIps6 (text "172.20.127.1") (text "2001:db8:127::1") 24 64

theorem mgmtIpsForSubnet_lab : mgmtIpsForSubnet (some defaultMgmtSubnet) = .ok labIps := by
  apply forEveryNode_of_ok
  intro node
  cases node <;> decide +kernel

theorem addresses_lab :
    (mgmtIpsForSubnet (some defaultMgmtSubnet)).mapError PyException.address = .ok labIps :=
  mapError_ok_iff.mpr mgmtIpsForSubnet_lab

theorem mgmtIpv6IpsForSubnet_lab : mgmtIpv6IpsForSubnet (some defaultMgmtIpv6Subnet) = .ok labIps6 := by
  apply forEveryNode_of_ok
  intro node
  cases node <;> decide +kernel

theorem addresses6_lab :
    (mgmtIpv6IpsForSubnet (some defaultMgmtIpv6Subnet)).mapError PyException.address = .ok labIps6 :=
  mapError_ok_iff.mpr mgmtIpv6IpsForSubnet_lab

theorem subnetValues_lab : subnetValues defaultMgmtSubnet defaultMgmtIpv6Subnet = .ok labValues := by
  have gateway : mgmtGateway (some defaultMgmtSubnet) = .ok (text "172.20.127.1") := by decide +kernel
  have gateway6 : mgmtIpv6Gateway (some defaultMgmtIpv6Subnet) = .ok (text "2001:db8:127::1") := by
    decide +kernel
  have prefixLen : mgmtPrefixLen (some defaultMgmtSubnet) = .ok 24 := by decide +kernel
  have prefixLen6 : mgmtIpv6PrefixLen (some defaultMgmtIpv6Subnet) = .ok 64 := by decide +kernel
  rw [subnetValues, mgmtIpsForSubnet_lab, mgmtIpv6IpsForSubnet_lab, gateway, gateway6, prefixLen, prefixLen6]
  rfl

/-- The rendered switch configurations of the lab pass the validator. -/
theorem validateCeosConfigs_lab :
    validateCeosConfigs (writtenConfig (renderedFiles labValues)) (some defaultMgmtSubnet)
      (some defaultMgmtIpv6Subnet) = .ok [] := by
  have v4 : IPv4Subnet defaultMgmtSubnet ⟨0xac147f00, by decide⟩ 24 := by
    unfold IPv4Subnet
    decide +kernel
  have v6 : IPv6Subnet defaultMgmtIpv6Subnet ⟨0x20010db8012700000000000000000000, none, by decide⟩ 64 := by
    unfold IPv6Subnet
    decide +kernel
  have computed := computed_of_subnetValues subnetValues_lab
  have sound := soundValues_of_computed computed v4 v6 plainZone_none
  rw [validateCeosConfigs_renderedFiles (fits_openZone sound.fits) computed]
  intro ceos
  exact configSettled_sound sound (configSettled_ceosTemplate ceos)

def strings (items : List Text) : Value := .list (items.map .str)

def mapping (entries : List (Text × Value)) : Value :=
  .dict (entries.map fun (key, value) => (.str key, value))

/-- A node with its addresses and further entries. -/
def labNode (node : LabNode) (kind : Text) (entries : List (Text × Value)) : Text × Value :=
  (node.name, mapping
    ([ (text "kind", .str kind), (text "mgmt-ipv4", .str (labIps node)),
      (text "mgmt-ipv6", .str (labIps6 node)) ] ++ entries))

def labCeos (ceos : Ceos) : Text × Value :=
  labNode ceos.node (text "arista_ceos")
    [ (text "startup-config", .str (ceosStartupConfig ceos)),
      (text "binds", strings (ceosBinds ceos)),
      (text "exec", strings [ceosRadsecPkiExec ceos]) ]

def labHost (expected : HostDataPlane) : Text × Value :=
  labNode expected.host (text "linux")
    [ (text "image", .str hostImage),
      (text "exec", strings
        [ text "ip link set eth1 up",
          text "ip addr add " ++ expected.addr ++ text " dev eth1",
          text "ip route replace default via " ++ expected.gateway ++ text " dev eth1",
          text "ip -6 addr add " ++ expected.addr6 ++ text " dev eth1",
          text "ip -6 route replace default via " ++ expected.gateway6 ++ text " dev eth1" ]) ]

def labService (node : LabNode) (image : Text) (binds : List Text) (entries : List (Text × Value)) :
    Text × Value :=
  labNode node (text "linux") ([(text "image", .str image), (text "binds", strings binds)] ++ entries)

def labKme (spec : KmeNode) : Text × Value :=
  labService spec.node kmeImage kmeBinds
    [ (text "cap-add", strings [text "NET_ADMIN"]),
      (text "env", mapping ((kmeEnvForNode spec labIps labIps6).map fun (key, value) => (key, .str value))) ]

def labNodes : Value :=
  mapping (Ceos.all.map labCeos ++ hostDataPlane.map labHost ++
    [ labService .radius radiusImage radiusBinds [],
      labService .syslog syslogImage syslogBinds [],
      labKme kmeNodeA,
      labKme kmeNodeB,
      labService .testRunner testRunnerImage testRunnerBinds [] ])

def labLink (ends : Text × Text) : Value := mapping [(text "endpoints", strings [ends.1, ends.2])]

/-- `topology` with further links behind those of the lab. -/
def labTopology (further : List (Text × Text)) : Value :=
  mapping
    [ (text "kinds", mapping
        [ (text "arista_ceos", mapping
            [ (text "image", .str ceosImagePlaceholder),
              (text "env", mapping [(text "CLAB_MGMT_VRF", .str mgmtVrfEnv)]) ]) ]),
      (text "nodes", labNodes),
      (text "links", .list ((links ++ further).map labLink)) ]

def labData (further : List (Text × Text)) : List (Value × Value) :=
  [ (.str (text "name"), .str labName),
    (.str (text "prefix"), .str clabPrefix),
    (.str (text "mgmt"), mapping
      [ (text "network", .str mgmtNetwork), (text "bridge", .str mgmtBridge),
        (text "ipv4-subnet", .str defaultMgmtSubnet), (text "ipv4-gw", .str (text "${MGMT_GATEWAY}")),
        (text "ipv6-subnet", .str defaultMgmtIpv6Subnet),
        (text "ipv6-gw", .str (text "${MGMT_IPV6_GATEWAY}")) ]),
    (.str (text "topology"), labTopology further) ]

/-- A RadSec client of `clients-radsec.conf`. -/
def labClient (name : Text) (address : Text) : Text :=
  text "client " ++ name ++ text " \x7b\n  " ++ address ++ text "\n  proto = tls\n  secret = radsec\n" ++
    text "  require_message_authenticator = true\n  limit_proxy_state = true\n\x7d\n"

/-- The texts that the validators of the repository look for, file by file. -/
def labFiles : List (Text × Text) :=
  [ (text "lab/.gen/clients.conf", text "client dockernet \x7b\n  ipaddr = 172.17.0.0/16\n\x7d\n"),
    (text "lab/.gen/clients-radsec.conf",
      (Ceos.all.flatMap fun ceos => labClient ceos.name (text "ipv6addr = " ++ labIps6 ceos.node)) ++
        labClient (text "test-runner-v4") (text "ipaddr = " ++ labIps .testRunner) ++
        labClient (text "test-runner-v6") (text "ipv6addr = " ++ labIps6 .testRunner)),
    (text "configs/radius/raddb/mods-available/eap",
      text "certificate_file = /etc/raddb/certs/radsec/server.pem\ntls_min_version = \"1.3\"\n"),
    (text "configs/radius/raddb/mods-config/files/authorize",
      text "DEFAULT Service-Type == NAS-Prompt-User, Auth-Type := Accept\n"),
    (text "configs/radius/raddb/policy.d/macsec-dot1x",
      text "EAP-Key-Name := &reply:EAP-Session-Id\nSession-Timeout := 60\n" ++
        text "Termination-Action := RADIUS-Request\n"),
    (text "configs/radius/raddb/sites-available/tls",
      text "ipv6addr = ::\nport = 2083\ntls_min_version = \"1.3\"\nrequire_client_cert = yes\n"),
    (text "configs/radius/raddb/radiusd.conf",
      text "logdir = /var/log/radius\nfile = /var/log/radius/radius.log\nauth = yes\n"),
    (text "docker/radius/Dockerfile", join (text "\n") radiusDockerfileFragments),
    (text "configs/syslog/syslog-ng.conf",
      text "ip(\"::\") ip-protocol(6) port(6514) transport(\"tls\") max-connections(32)\n"),
    (text "docker/syslog/openssl-pqc.cnf",
      text "MinProtocol = TLSv1.3\nGroups = X25519MLKEM768:secp256r1:X25519:ffdhe2048\n"),
    (text "docker/syslog/Dockerfile", join (text "\n") syslogDockerfileFragments),
    (text "docker/kme/Dockerfile", text "FROM runtime\n"),
    (text "docker/base/Dockerfile.builder", fromAlpine),
    (text "docker/base/Dockerfile.runtime", fromAlpine),
    (text "docker/test-runner/Dockerfile",
      text "FROM golang:${GO_VERSION}-alpine${ALPINE_VERSION}\n" ++ fromAlpine),
    (text "docker-bake.hcl",
      text "variable \"ALPINE_VERSION\" \x7b\n  default = \"3.24\"\n\x7d\ntarget \"test-runner\" \x7b\n" ++
        text "  args = \x7b\n    ALPINE_VERSION = ALPINE_VERSION\n  \x7d\n\x7d\n") ] ++
  (pkiFiles.map fun name => (text "lab/.gen/pki/" ++ name, [])) ++
  kmePkiFiles.map fun name => (text "lab/.gen/kme-pki/" ++ name, [])

/-- A path through `lab/..` is one below the root. -/
def belowRoot (path : Text) : Text :=
  if startswith path (text "lab/../") then path.drop 7 else path

def labRepository : Repository where
  read path :=
    let path := belowRoot path
    match Ceos.all.find? fun ceos => text "lab/.gen/" ++ ceos.name ++ text ".cfg" == path with
    | some ceos => writtenConfig (renderedFiles labValues) ceos
    | none => labFiles.lookup path
  special path := [text "lab/.gen/kme-pki", text "lab/logs/radius"].contains (belowRoot path)
  resolved path := text "/lab/" ++ path

def labEnvironment : Environment where
  printable _ := true
  repo := labRepository
  quadraSwix := none

/-- The validator with the default subnets and image. -/
def defaults : Expected := ⟨none, none, none⟩

attribute [local instance] PyRegex.asciiWords

theorem repositoryErrors_lab :
    repositoryErrors labEnvironment.printable labRepository defaultMgmtSubnet defaultMgmtIpv6Subnet = .ok [] := by
  rw [repositoryErrors, inTurn_clean_iff]
  simp only [List.forall_mem_cons]
  refine ⟨?_, ?_, ?_, ?_, ?_, List.forall_mem_nil _⟩
  · have configs : (fun ceos : Ceos => labRepository.read (text "lab/.gen/" ++ ceos.name ++ text ".cfg")) =
        writtenConfig (renderedFiles labValues) := by
      funext ceos
      cases ceos <;> rfl
    rw [configs, validateCeosConfigs_lab]
    rfl
  · have ips6 := mgmtIpv6IpsForSubnet_lab
    rw [validateRadiusConfigs, ips6]
    decide +kernel
  · decide +kernel
  · decide +kernel
  · decide +kernel

theorem links_lab (further : List (Text × Text)) :
    (labTopology further).getOr (text "links") (.list []) = .ok (.list ((links ++ further).map labLink)) := rfl

/-- The checks of endpoints, on links that are given as pairs. -/
theorem forEachEndpoint_lab (check : Text → List Text) (further : List (Text × Text)) :
    forEachEndpoint (labTopology further) check =
      .ok ((links ++ further).flatMap fun ends => [ends.1, ends.2].flatMap check) := by
  rw [forEachEndpoint, links_lab, ok_bind, Value.iter, ok_bind, forEach_map]
  apply forEach_ok
  intro ends _
  rfl

theorem actualLinks_lab (further : List (Text × Text)) :
    actualLinks (labTopology further) =
      .ok ((links ++ further).flatMap fun ends => [[.str ends.1, .str ends.2]]) := by
  rw [actualLinks, links_lab, ok_bind, Value.iter, ok_bind, forEach_map]
  apply forEach_ok
  intro ends _
  rfl

section

variable {further : List (Text × Text)}
  (plain : ∀ ends ∈ further, unrefused ends.1 = true ∧ unrefused ends.2 = true)

include plain in
theorem unrefused_lab : ∀ ends ∈ links ++ further, ∀ endpoint ∈ [ends.1, ends.2],
    unrefused endpoint = true := by
  have own : ∀ ends ∈ links, unrefused ends.1 = true ∧ unrefused ends.2 = true := by decide
  intro ends member endpoint at_
  have both := (List.mem_append.mp member).elim (own ends) (plain ends)
  rcases List.mem_pair.mp at_ with rfl | rfl
  · exact both.1
  · exact both.2

include plain in
theorem kmeLinkErrors_lab (printable : Char → Bool) :
    kmeLinkErrors printable (labTopology further) = .ok [] := by
  have none : (links ++ further).flatMap (fun ends => [ends.1, ends.2].flatMap fun endpoint =>
      if endpointOf LabNode.kmeA.name endpoint || endpointOf LabNode.kmeB.name endpoint then [endpoint]
      else []) = [] := by
    simp only [List.flatMap_eq_nil_iff]
    intro ends member endpoint at_
    have free := unrefused_lab plain ends member endpoint at_
    rw [unrefused, Bool.and_eq_true, Bool.not_eq_true'] at free
    rw [free.1]
    rfl
  rw [kmeLinkErrors, kmeDataPlaneEndpoints, forEachEndpoint_lab, none]
  rfl

include plain in
theorem linkErrors_lab (printable : Char → Bool) :
    linkErrors printable (labTopology further) = .ok [] := by
  rw [linkErrors, inTurn_clean_iff]
  simp only [List.forall_mem_cons]
  refine ⟨?_, ?_, List.forall_mem_nil _⟩
  · have present : ∀ ends ∈ links, ((links ++ further).flatMap fun ends =>
        [[Value.str ends.1, Value.str ends.2]]).any (isLink ends.1 ends.2) = true := by
      intro ends member
      refine List.any_eq_true.mpr ⟨[.str ends.1, .str ends.2], ?_, by simp [isLink, Value.isStr]⟩
      exact List.mem_flatMap.mpr ⟨ends, List.mem_append_left _ member, List.mem_singleton_self _⟩
    rw [missingLinkErrors, actualLinks_lab, ok_bind]
    apply congrArg Except.ok
    apply List.flatMap_eq_nil_iff.mpr
    rintro ⟨first, second⟩ member
    simp only [present (first, second) member, Bool.true_or, require, if_true]
  · rw [forEachEndpoint_lab]
    have none : (links ++ further).flatMap (fun ends =>
        [ends.1, ends.2].flatMap (mgmtEndpointErrors printable)) = [] := by
      simp only [List.flatMap_eq_nil_iff]
      intro ends member endpoint at_
      have free := unrefused_lab plain ends member endpoint at_
      rw [unrefused, Bool.and_eq_true, Bool.not_eq_true', Bool.not_eq_true'] at free
      exact (mgmtEndpointErrors_eq_nil_iff printable).mpr free.2
    rw [none]

include plain in
theorem topologyErrors_lab :
    topologyErrors labEnvironment.printable (labTopology further) labIps labIps6 none = .ok [] := by
  have nodes : (labTopology further).getOr (text "nodes") (.dict []) = .ok labNodes := rfl
  rw [topologyErrors, nodes, ok_bind, inTurn_clean_iff]
  simp only [List.forall_mem_cons]
  -- of the checks, only those of the links see what follows behind the links of the lab
  refine ⟨?_, ?_, ?_, ?_, ?_, ?_, ?_, ?_, ?_, kmeLinkErrors_lab plain _, ?_, rfl,
    linkErrors_lab plain _, ?_, ?_, List.forall_mem_nil _⟩
  all_goals decide +kernel

include plain in
/-- The lab stays accepted with any further links between endpoints that the two
checks let pass. -/
theorem validateTopology_lab : validateTopology labEnvironment defaults (labData further) = .ok [] := by
  refine bind_ok_iff.mpr ⟨labIps, addresses_lab, bind_ok_iff.mpr ⟨labIps6, addresses6_lab, ?_⟩⟩
  apply inTurn_clean_iff.mpr
  simp only [List.forall_mem_cons, mapError_ok_iff]
  refine ⟨?_, ?_, ?_, topologyErrors_lab plain, repositoryErrors_lab, List.forall_mem_nil _⟩
  · rfl
  · rfl
  · rfl

end

end QuantumSafe.LabContract
