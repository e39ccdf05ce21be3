import QuantumSafe.LabConstants
import QuantumSafe.PyValue

set_option autoImplicit false

/- The checks of `lab/topology_contract.py` that read files of the repository: host
paths, FreeRADIUS and syslog-ng configuration, image pins. -/
namespace QuantumSafe.LabContract

open PyText PyRegex PyValue PyIpAddress CeosContract

/-- What the checks see of the repository, by paths below its root. -/
structure Repository where
  /-- The text of a regular file. -/
  read : Text → Option Text
  /-- Something that is not a regular file is there. -/
  special : Text → Bool
  /-- `str(path.resolve())` -/
  resolved : Text → Text

def Repository.isFile (repo : Repository) (path : Text) : Bool := (repo.read path).isSome

/-- `path.exists()` -/
def Repository.present (repo : Repository) (path : Text) : Bool := repo.isFile path || repo.special path

/-- `if not ok: errors.append(message)` -/
def require (ok : Bool) (message : Text) : List Text := if ok then [] else [message]

/-- `if fragment not in s: errors.append(message)` -/
def needs (fragment message s : Text) : List Text := require (contains fragment s) message

/-- `if fragment in s: errors.append(message)` -/
def refuses (fragment message s : Text) : List Text := require (!contains fragment s) message

/-- The checks of the text of a file, if it is there. -/
def Repository.readIf (repo : Repository) (path : Text) (errors : Text → List Text) : List Text :=
  ((repo.read path).map errors).getD []

/-- `if not path.is_file()` with its message, else the checks of the text. -/
def Repository.readOr (repo : Repository) (path message : Text) (errors : Text → List Text) : List Text :=
  ((repo.read path).map errors).getD [message]

/-- `bind.split(":", 1)[0]` -/
def bindHostPath (bind : Text) : Text := splitHead (text ":") bind

/-- The path that `resolve_topo_path` resolves, below the root. -/
def topoPath (relativePath : Text) : Text := text "lab/" ++ relativePath

/-- `if not host_path.exists()` for the host path of a bind. -/
def bindErrors (repo : Repository) (owner bind : Text) : List Text :=
  let hostPath := topoPath (bindHostPath bind)
  require (repo.present hostPath) (owner ++ text " bind host path missing: " ++ repo.resolved hostPath)

def genFileErrors (repo : Repository) (directory name : Text) : List Text :=
  let path := text "lab/.gen/" ++ directory ++ text "/" ++ name
  require (repo.isFile path) (text "missing " ++ path ++ text " (run make gen-topo)")

def validateTopoHostPaths (repo : Repository) : List Text :=
  (Ceos.all.flatMap fun ceos =>
    let hostPath := topoPath (ceosStartupConfig ceos)
    require (repo.isFile hostPath)
      (ceos.name ++ text " startup-config host path missing: " ++ repo.resolved hostPath)) ++
  radiusBinds.flatMap (bindErrors repo (text "radius")) ++
  kmeBinds.flatMap (bindErrors repo (text "kme")) ++
  kmePkiFiles.flatMap (genFileErrors repo (text "kme-pki")) ++
  (Ceos.all.flatMap fun ceos => (ceosBinds ceos).flatMap (bindErrors repo ceos.name)) ++
  pkiFiles.flatMap (genFileErrors repo (text "pki"))

/-- The part behind the last separator, with at most the given number of separators. -/
def lastPartWithin (sep : Text) : Nat → Text → Text
  | 0, s => s
  | n + 1, s =>
      match cut sep s with
      | none => s
      | some (_, after) => lastPartWithin sep n after

/-- `s.split(sep)[-1]` -/
def lastPart (sep s : Text) : Text := lastPartWithin sep s.length s

section

variable (printable : Char → Bool)

def dockerfileSourceOpensslErrors (s label : Text) : List Text :=
  sourceOpensslDockerfileForbidden.flatMap fun forbidden =>
    refuses forbidden (label ++ text " must not contain: " ++ reprText printable forbidden) s

def fromAlpine : Text := text "FROM alpine:${ALPINE_VERSION}"

def bakeErrors (bake : Text) : List Text :=
  needs (text "variable \"ALPINE_VERSION\" \x7b\n  default = \"" ++ alpineVersion ++ text "\"\n\x7d")
    (text "docker-bake.hcl must pin ALPINE_VERSION default " ++ reprText printable alpineVersion) bake ++
  needs (text "ALPINE_VERSION = ALPINE_VERSION")
    (text "docker-bake.hcl test-runner target must pass ALPINE_VERSION")
    (splitHead (text "group ") (lastPart (text "target \"test-runner\"") bake))

def baseImageErrors (repo : Repository) (name : Text) : List Text :=
  let path := text "docker/base/Dockerfile." ++ name
  repo.readOr path (text "missing " ++ path) fun s =>
    needs fromAlpine (path ++ text " must FROM alpine:${ALPINE_VERSION}") s ++
    dockerfileSourceOpensslErrors printable s path

def serviceImageErrors (repo : Repository) (rel : Text) : List Text :=
  repo.readOr rel (text "missing " ++ rel) fun s =>
    refuses (text "ARG ALPINE_VERSION")
      (rel ++ text " must not declare ARG ALPINE_VERSION (pin is bake + docker/base)") s ++
    dockerfileSourceOpensslErrors printable s rel

def testRunnerImageErrors (repo : Repository) : List Text :=
  let path := text "docker/test-runner/Dockerfile"
  repo.readOr path (text "missing " ++ path) fun s =>
    needs fromAlpine (text "test-runner Dockerfile fetch stages must FROM alpine:${ALPINE_VERSION}") s ++
    needs (text "golang:${GO_VERSION}-alpine${ALPINE_VERSION}")
      (text "test-runner Dockerfile must pin golang to alpine${ALPINE_VERSION}") s ++
    dockerfileSourceOpensslErrors printable s path

def validateLabImagePins (repo : Repository) : List Text :=
  repo.readOr (text "docker-bake.hcl") (text "missing docker-bake.hcl") fun bake =>
    bakeErrors printable bake ++
    [text "builder", text "runtime"].flatMap (baseImageErrors printable repo) ++
    [text "docker/radius/Dockerfile", text "docker/syslog/Dockerfile",
      text "docker/kme/Dockerfile"].flatMap (serviceImageErrors printable repo) ++
    testRunnerImageErrors printable repo

/-- `s.replace(" ", "")` -/
def withoutBlanks (s : Text) : Text := replace (text " ") [] s

/-- `port\((514|601)\)`. -/
def cleartextPortPattern : Regex :=
  .seq (.literal (text "port(")) (.seq (.group 1 (.either (.literal (text "514")) (.literal (text "601"))))
    (.literal (text ")")))

def syslogConfErrors (syslogConf : Text) : List Text :=
  let port := natText syslogPort
  let connections := text "max-connections(" ++ natText syslogMaxConnections ++ text ")"
  needs (text "port(" ++ port ++ text ")") (text "syslog-ng.conf must listen on port " ++ port) syslogConf ++
  needs (text "transport(\"tls\")") (text "syslog-ng.conf must use TLS transport") syslogConf ++
  needs (text "ip(\"::\")") (text "syslog-ng.conf must listen on all interfaces via ip(\"::\")") syslogConf ++
  needs (text "ip-protocol(6)") (text "syslog-ng.conf must set ip-protocol(6) for dual-stack TLS syslog")
    (withoutBlanks syslogConf) ++
  require (!Regex.found cleartextPortPattern syslogConf)
    (text "syslog-ng.conf must not listen on cleartext syslog ports 514/601") ++
  needs connections
    (text "syslog-ng.conf must set " ++ connections ++
      text " (3 cEOS dual-stack TLS sessions exceed default 10)")
    (withoutBlanks syslogConf)

def opensslCnfErrors (opensslCnf : Text) : List Text :=
  needs tlsPqcGroup (text "syslog openssl-pqc.cnf must advertise " ++ tlsPqcGroup) opensslCnf ++
  needs syslogTlsPqcSafeOpensslGroups
    (text "syslog openssl-pqc.cnf must use PQC-safe groups (" ++
      reprText printable syslogTlsPqcSafeOpensslGroups ++ text ")")
    (withoutBlanks opensslCnf) ++
  needs (text "MinProtocol = TLSv1.3") (text "syslog openssl-pqc.cnf must require TLS 1.3") opensslCnf

def syslogDockerfileFragments : List Text :=
  [ text "SYSLOG_NG_VERSION=4.8.1", text "FROM builder", text "FROM runtime", text "openssl-pqc.cnf",
    text "OPENSSL_CONF=/etc/syslog-ng/openssl-pqc.cnf", text "syslog-ng.conf", text "entrypoint.sh",
    text "syslog-healthcheck.sh", text "HEALTHCHECK" ]

def validateSyslogConfigs (repo : Repository) : List Text :=
  let dockerfile := text "docker/syslog/Dockerfile"
  let syslogConf := text "configs/syslog/syslog-ng.conf"
  let opensslCnf := text "docker/syslog/openssl-pqc.cnf"
  ([dockerfile, syslogConf, opensslCnf].flatMap fun path => require (repo.isFile path) (text "missing " ++ path)) ++
  repo.readIf syslogConf syslogConfErrors ++
  repo.readIf opensslCnf (opensslCnfErrors printable) ++
  repo.readIf dockerfile (fun s => syslogDockerfileFragments.flatMap fun fragment =>
    needs fragment (text "syslog Dockerfile must contain: " ++ reprText printable fragment) s) ++
  [text "syslog-server.pem", text "syslog-server.key", text "ca.pem"].flatMap
    (genFileErrors repo (text "pki"))

/-- `client\s+{name}\s*\{([^}]+)\}` -/
def clientPattern (name : Text) : Regex :=
  .seq (.literal (text "client")) (.seq (.many 1 isSpace) (.seq (.literal name) (.seq (.many 0 isSpace)
    (.seq (.char (· == '\x7b')) (.seq (.group 1 (.many 1 (· != '\x7d'))) (.char (· == '\x7d')))))))

/-- `{ipKey}\s+=\s+{re.escape(ip)}\b` -/
def clientAddressPattern [WordClass] (ipKey ip : Text) : Regex :=
  .seq (.literal ipKey) (.seq (.many 1 isSpace) (.seq (.literal (text "=")) (.seq (.many 1 isSpace)
    (.seq (.literal ip) .wordEdge))))

/-- The body of a client block, or the message that there is none. -/
def clientErrors (clientsRadsec name message : Text) (errors : Text → List Text) : List Text :=
  match Regex.search (clientPattern name) clientsRadsec with
  | none => [message]
  | some block => errors (block.group 1)

/-- `if first not in s and second not in s` -/
def needsEither (first second message s : Text) : List Text :=
  require (contains first s || contains second s) message

def protoErrors (name : Text) : Text → List Text :=
  needsEither (text "proto   = tls") (text "proto = tls")
    (text "clients-radsec.conf " ++ name ++ text " must use proto tls")

def secretErrors (name : Text) : Text → List Text :=
  needsEither (text "secret  = " ++ radsecSecret) (text "secret = " ++ radsecSecret)
    (text "clients-radsec.conf " ++ name ++ text " secret must be " ++ radsecSecret)

def ceosClientErrors (clientsRadsec ceos ip : Text) : List Text :=
  clientErrors clientsRadsec ceos (text "clients-radsec.conf must define client " ++ ceos) fun body =>
    needsEither (text "ipv6addr  = " ++ ip) (text "ipv6addr = " ++ ip)
      (text "clients-radsec.conf " ++ ceos ++ text " ipv6addr must be " ++ ip) body ++
    refuses (text "ipaddr") (text "clients-radsec.conf " ++ ceos ++ text " must use ipv6addr, not ipaddr") body ++
    protoErrors ceos body ++
    secretErrors ceos body ++
    needs (text "require_message_authenticator = true")
      (text "clients-radsec.conf " ++ ceos ++ text " must set require_message_authenticator") body ++
    needs (text "limit_proxy_state = true")
      (text "clients-radsec.conf " ++ ceos ++ text " must set limit_proxy_state") body

def probeClientErrors [WordClass] (clientsRadsec name ipKey ip : Text) : List Text :=
  clientErrors clientsRadsec name
    (text "clients-radsec.conf must define client " ++ name ++ text " for PQC collector probes") fun body =>
    require (Regex.found (clientAddressPattern ipKey ip) body)
      (text "clients-radsec.conf " ++ name ++ text " " ++ ipKey ++ text " must be " ++ ip) ++
    protoErrors name body ++
    secretErrors name body

/-- `ips6` are the addresses of `mgmt_ipv6`; the IPv4 addresses are computed only here. -/
def clientsRadsecErrors [WordClass] (mgmtSubnet : Option Text) (ips6 : LabNode → Text) (clientsRadsec : Text) :
    Except AddressError (List Text) := do
  let ips ← mgmtIpsForSubnet mgmtSubnet
  return (Ceos.all.flatMap fun ceos => ceosClientErrors clientsRadsec ceos.name (ips6 ceos.node)) ++
    probeClientErrors clientsRadsec (text "test-runner-v4") (text "ipaddr") (ips .testRunner) ++
    probeClientErrors clientsRadsec (text "test-runner-v6") (text "ipv6addr") (ips6 .testRunner)

def eapErrors (eap : Text) : List Text :=
  needs (text "/etc/raddb/certs/radsec/server.pem")
    (text "eap module must reference RadSec server certificate") eap ++
  needs (text "tls_min_version = \"1.3\"") (text "eap module must restrict TLS to 1.3") eap

def authorizeErrors (authorize : Text) : List Text :=
  needs (text "DEFAULT Service-Type == NAS-Prompt-User, Auth-Type := Accept")
    (text "authorize must Accept only test aaa (NAS-Prompt-User), not dot1x EAP") authorize ++
  refuses (text "DEFAULT Auth-Type := Accept")
    (text "authorize must not blanket Accept (breaks dot1x EAP-TLS / MPPE)") authorize ++
  refuses (text "Auth-Type := EAP")
    (text "authorize must not set blanket Auth-Type EAP (use eap module in default site)") authorize

def macsecDot1xErrors (macsecDot1x : Text) : List Text :=
  let timeout := text "Session-Timeout := " ++ natText dot1xReauthPeriodSec
  needs (text "EAP-Key-Name := &reply:EAP-Session-Id")
    (text "macsec-dot1x policy must copy EAP-Session-Id to EAP-Key-Name") macsecDot1x ++
  needs timeout (text "macsec-dot1x policy must set " ++ timeout) macsecDot1x ++
  needs (text "Termination-Action := RADIUS-Request")
    (text "macsec-dot1x policy must set Termination-Action := RADIUS-Request") macsecDot1x

def tlsSiteErrors (tlsSite : Text) : List Text :=
  needs (text "tls_min_version = \"1.3\"") (text "tls site must set tls_min_version 1.3") tlsSite ++
  needs (text "port = " ++ natText radsecPort)
    (text "tls site must listen on port " ++ natText radsecPort) tlsSite ++
  needs (text "ipv6addr = ::") (text "tls site must listen on IPv6 (::) for RadSec") tlsSite ++
  needs (text "require_client_cert = yes") (text "tls site must require client certificates") tlsSite

def clientsErrors (clients : Text) : List Text :=
  needs (text "172.17.0.0/16") (text "clients.conf must include dockernet client 172.17.0.0/16") clients ++
  require (!(Ceos.all.any fun ceos => contains (text "client " ++ ceos.name) clients))
    (text "clients.conf must not define plain UDP ceos clients (use clients-radsec.conf)")

def radiusdErrors (radiusd : Text) : List Text :=
  needs (text "logdir = /var/log/radius")
    (text "radiusd.conf must set logdir = /var/log/radius for clab bind mount") radiusd ++
  needs (text "/var/log/radius/radius.log")
    (text "radiusd.conf must log to /var/log/radius/radius.log") radiusd ++
  needs (text "auth = yes") (text "radiusd.conf must enable auth logging (auth = yes)") radiusd

def radiusDockerfileFragments : List Text :=
  [ text "ARG FREERADIUS_VERSION=release_3_2_6", text "FROM builder", text "FROM runtime",
    text "OPENSSL_CONF=/etc/raddb/openssl-pqc.cnf", text "openssl-pqc.cnf", text "mods-available/eap",
    text "mods-enabled/eap", text "logdir = /var/log/radius", text "auth = yes", text "auth_log",
    text "updated = return", text "radius-detail.log", text "policy.d/macsec-dot1x", text "macsec-dot1x",
    text "sites-enabled/tls", text "clients-radsec.conf" ]

/-- A file of the `raddb` directory, or the message that it is missing. -/
def raddbErrors (repo : Repository) (name : Text) (errors : Text → List Text) : List Text :=
  let path := text "configs/radius/raddb/" ++ name
  repo.readOr path (text "missing " ++ path) errors

def validateRadiusConfigs [WordClass] (repo : Repository) (mgmtSubnet mgmtIpv6Subnet : Option Text) :
    Except AddressError (List Text) := do
  let ips6 ← mgmtIpv6IpsForSubnet mgmtIpv6Subnet
  let clientsRadsec ←
    match repo.read (text "lab/.gen/clients-radsec.conf") with
    | none => .ok [text "missing lab/.gen/clients-radsec.conf (run make gen-topo)"]
    | some s => clientsRadsecErrors mgmtSubnet ips6 s
  return clientsRadsec ++
    raddbErrors repo (text "mods-available/eap") eapErrors ++
    raddbErrors repo (text "mods-config/files/authorize") authorizeErrors ++
    raddbErrors repo (text "policy.d/macsec-dot1x") macsecDot1xErrors ++
    raddbErrors repo (text "sites-available/tls") tlsSiteErrors ++
    repo.readOr (text "lab/.gen/clients.conf") (text "missing lab/.gen/clients.conf (run make gen-topo)")
      clientsErrors ++
    raddbErrors repo (text "radiusd.conf") radiusdErrors ++
    repo.readOr (text "docker/radius/Dockerfile") (text "missing docker/radius/Dockerfile") fun dockerfile =>
      radiusDockerfileFragments.flatMap fun fragment =>
        needs fragment (text "Dockerfile must contain: " ++ reprText printable fragment) dockerfile

end

end QuantumSafe.LabContract
