import QuantumSafe.Openssl
import QuantumSafe.TopologyContract

set_option autoImplicit false

/- `lab/gen_pki.py`: the certificates of the RadSec, eAPI, gNMI and syslog
endpoints. -/
namespace QuantumSafe.GenPki

open PyText Aborting Openssl

def isHostChar (c : Char) : Bool := c.isAlphanum || c == '-' || c == '.' || c == '_'

/-- The name of a switch. -/
abbrev Hostname := { name : Text // ∀ c ∈ name, isHostChar c = true }

inductive Role where
  | eapi
  | gnmi
deriving DecidableEq

def Role.name : Role → Text
  | .eapi => text "eapi"
  | .gnmi => text "gnmi"

/-- The certificates of the work directory. -/
inductive RadsecStem where
  | ca
  | server
  | syslogServer
  | client (name : Hostname)
  | role (name : Hostname) (kind : Role)
deriving DecidableEq

/-- The common start of the names of a certificate's files. -/
def RadsecStem.fileStem : RadsecStem → Text
  | .ca => text "ca"
  | .server => text "server"
  | .syslogServer => text "syslog-server"
  | .client name => name.val ++ text "-client"
  | .role name kind => name.val ++ text "-" ++ kind.name

/-- The published files. -/
inductive RadsecOut where
  | pem (stem : RadsecStem)
  | key (stem : RadsecStem)
  | radsecCa
deriving DecidableEq

def RadsecOut.name : RadsecOut → Text
  | .pem stem => stem.fileStem ++ text ".pem"
  | .key stem => stem.fileStem ++ text ".key"
  | .radsecCa => text "radsec-ca.pem"

abbrev RadsecDirectory := Directory RadsecStem RadsecOut

/-- The arguments of `generate_radsec_pki`. -/
structure RadsecArgs where
  radiusIps : List IpText
  syslogIps : Option (List IpText)
  ceosHosts : Option (List (Hostname × Text))
  ceosMgmtIps : Option (List (Hostname × IpText))
  ceosMgmtIps6 : Option (List (Hostname × IpText))

private def ceos1Both : Hostname := ⟨text "ceos1-both", List.all_eq_true.mp (by decide)⟩
private def ceos2Pqc : Hostname := ⟨text "ceos2-pqc", List.all_eq_true.mp (by decide)⟩

def RadsecArgs.hosts (args : RadsecArgs) : List (Hostname × Text) :=
  match args.ceosHosts, args.ceosMgmtIps with
  | some (host :: hosts), _ => host :: hosts
  | _, some (entry :: entries) => (entry :: entries).map fun entry => (entry.1, entry.1.val)
  | _, _ => [(ceos1Both, ceos1Both.val), (ceos2Pqc, ceos2Pqc.val)]

/-- The addresses of a switch, IPv4 first. -/
def RadsecArgs.sanIps (args : RadsecArgs) (name : Hostname) : List IpText :=
  ((args.ceosMgmtIps.getD []).lookup name).toList ++
    ((args.ceosMgmtIps6.getD []).lookup name).toList

def caSubject : Text := text "/CN=quantum-safe-radsec-ca/O=Lab/C=US"

def markerKey (sanIps : List IpText) : Text := join (text ",") (sanIps.map Subtype.val)

def serverLines (name : Text) (sanIps : List IpText) : List Text :=
  let sanEntries := join (text ",") (sanIps.map fun ip => ipEntry ip.val)
  [text "subjectAltName = " ++ sanEntries ++ text ",DNS:" ++ name ++ text ",DNS:" ++
      containerName name,
    text "extendedKeyUsage = serverAuth", text "keyUsage = digitalSignature,keyEncipherment"]

def clientLines (cn : Text) : List Text :=
  [text "subjectAltName = DNS:" ++ cn, text "extendedKeyUsage = clientAuth",
    text "keyUsage = digitalSignature"]

/-- The marker names the requested addresses and the certificate is there. -/
def reuses (sanIps : List IpText) (entry : Entry) : Bool :=
  match entry.marker with
  | some marker => entry.crt.isSome && strip marker == markerKey sanIps
  | none => false

def writeMarker (stem : RadsecStem) (sanIps : List IpText) (d : RadsecDirectory) :
    RadsecDirectory :=
  d.setWork stem { d.work stem with marker := some (markerKey sanIps ++ text "\n") }

/-- Where each published file comes from. -/
def RadsecOut.source : RadsecOut → (RadsecStem → Entry) → Option Text
  | .pem .server, work =>
      match (work .server).crt, (work .server).key with
      | some certificate, some privateKey => some (certificate ++ privateKey)
      | _, _ => none
  | .pem stem, work => (work stem).crt
  | .key stem, work => (work stem).key
  | .radsecCa, work => (work .ca).crt

section Generate

variable (pem : Pem) (succeeds : Nat → Bool)

def ensureCa : Step RadsecDirectory := fun d =>
  if (d.work .ca).crt.isSome then .ok d else selfSign pem succeeds .ca caSubject [] d

/-- The refresh that the three kinds of server certificates have in common. -/
def refreshServerCert (stem : RadsecStem) (name : Text) (sanIps : List IpText) :
    Step RadsecDirectory := fun d =>
  if reuses sanIps (d.work stem) then .ok d
  else
    andThen (issue pem succeeds .ca stem (text "/CN=" ++ name ++ text "/O=Lab/C=US")
      (serverLines name sanIps)) (fun d => .ok (writeMarker stem sanIps d)) d

def publishPair (stem : RadsecStem) : Step RadsecDirectory :=
  andThen (publish (RadsecOut.pem stem).source (.pem stem))
    (publish (RadsecOut.key stem).source (.key stem))

def generateServerCert (name : Hostname) (role : Role) (sanIps : List IpText) :
    Step RadsecDirectory :=
  andThen (refreshServerCert pem succeeds (.role name role) name.val sanIps)
    (publishPair (.role name role))

def generateSyslogServerCert (syslogIps : List IpText) : Step RadsecDirectory :=
  andThen (refreshServerCert pem succeeds .syslogServer (text "syslog") syslogIps)
    (publishPair .syslogServer)

/-- The body of the loop over the switches that makes client certificates. -/
def ensureClientCert (host : Hostname × Text) : Step RadsecDirectory := fun d =>
  if (d.work (.client host.1)).crt.isSome then .ok d
  else
    issue pem succeeds .ca (.client host.1) (text "/CN=" ++ host.2 ++ text "/O=Lab/C=US")
      (clientLines host.2) d

/-- The body of the loop over the switches that makes server certificates. -/
def generateRoleCerts (args : RadsecArgs) (host : Hostname × Text) : Step RadsecDirectory :=
  let sanIps := args.sanIps host.1
  if sanIps = [] then .ok
  else forEach [Role.eapi, Role.gnmi] fun role => generateServerCert pem succeeds host.1 role sanIps

/-- The part of `generate_radsec_pki` that publishes what does not depend on the
addresses of the switches. -/
def publishClients (args : RadsecArgs) : Step RadsecDirectory :=
  andThen (publish (RadsecOut.pem .ca).source (.pem .ca))
  (andThen (publish RadsecOut.radsecCa.source .radsecCa)
  (andThen (publish (RadsecOut.pem .server).source (.pem .server))
  (forEach args.hosts fun host => publishPair (.client host.1))))

/-- The part that issues and publishes the certificates of the endpoints. -/
def issueEndpoints (args : RadsecArgs) : Step RadsecDirectory :=
  andThen (forEach args.hosts (generateRoleCerts pem succeeds args))
    (match args.syslogIps with
      | some syslogIps => generateSyslogServerCert pem succeeds syslogIps
      | none => .ok)

def generateRadsecPki (args : RadsecArgs) : Step RadsecDirectory :=
  andThen (ensureCa pem succeeds)
  (andThen (refreshServerCert pem succeeds .server (text "radius") args.radiusIps)
  (andThen (forEach args.hosts (ensureClientCert pem succeeds))
  (andThen (publishClients args)
  (issueEndpoints pem succeeds args))))

end Generate

theorem toNat_of_isHostChar {c : Char} (allowed : isHostChar c = true) :
    45 ≤ c.toNat ∧ c.toNat ≤ 122 := by
  simp only [isHostChar, Char.isAlphanum, isAlpha_eq, isUpper_eq, isLower_eq, Char.isDigit,
    Bool.or_eq_true, Bool.and_eq_true, decide_eq_true_eq, beq_iff_eq, ge_iff_le,
    UInt32.le_iff_toNat_le] at allowed
  have code : c.toNat = c.val.toNat := rfl
  rcases allowed with ((range | rfl) | rfl) | rfl
  · have numerals : 'A'.val.toNat = 65 ∧ 'Z'.val.toNat = 90 ∧ 'a'.val.toNat = 97 ∧
        'z'.val.toNat = 122 ∧ '0'.val.toNat = 48 ∧ '9'.val.toNat = 57 := by decide
    omega
  · decide
  · decide
  · decide

theorem host_solid (name : Hostname) : Solid name.val := by
  intro c inside
  have range := toNat_of_isHostChar (name.property c inside)
  constructor
  · rintro rfl
    exact absurd range (by decide)
  · simp only [isSpace, Bool.or_eq_false_iff, Bool.and_eq_false_iff, decide_eq_false_iff_not,
      beq_eq_false_iff_ne]
    omega

/-- Distinct certificates have distinct files. -/
theorem RadsecStem.fileStem_injective : Function.Injective RadsecStem.fileStem := by
  intro first second same
  -- the stems differ from their last characters on
  have ends := congrArg List.reverse same
  rcases first with _ | _ | _ | name | ⟨name, _ | _⟩ <;>
    rcases second with _ | _ | _ | other | ⟨other, _ | _⟩ <;>
    simp [fileStem, Role.name, text] at ends ⊢ <;>
    exact Subtype.ext ends

section Results

variable (pem : Pem)

/-- A published certificate that fits the published key beside it and that the
CA signed. -/
def LeafSound (authority : Certificate) (out : RadsecOut → Option Text) (stem : RadsecStem)
    (certificate : Certificate) : Prop :=
  pem.held (out (.pem stem)) = some (.certificate certificate) ∧
    pem.held (out (.key stem)) = some (.privateKey certificate.key) ∧
    certificate.signer = authority.key

/-- The same for the RADIUS server, whose certificate and key are one file. -/
def ServerFileSound (authority : Certificate) (out : RadsecOut → Option Text)
    (certificate : Certificate) : Prop :=
  (∃ content rest, out (.pem .server) = some content ∧
    pem.read content = some (.certificate certificate, rest) ∧
    pem.held (some rest) = some (.privateKey certificate.key)) ∧
    certificate.signer = authority.key

/-- A server certificate for exactly these addresses. -/
def EndpointSound (authority : Certificate) (out : RadsecOut → Option Text) (stem : RadsecStem)
    (sanIps : List IpText) : Prop :=
  ∃ certificate, (if stem = .server then ServerFileSound pem authority out certificate
      else LeafSound pem authority out stem certificate) ∧
    certificate.ips = sanIps.map Subtype.val

/-- The server certificates that the arguments ask for. -/
def RadsecArgs.endpoints (args : RadsecArgs) : List RadsecStem :=
  .server :: (args.hosts.flatMap fun host =>
    if args.sanIps host.1 = [] then [] else [.role host.1 .eapi, .role host.1 .gnmi]) ++
    (args.syslogIps.map fun _ => RadsecStem.syslogServer).toList

/-- The addresses that the arguments ask for in a server certificate. -/
def RadsecArgs.endpointIps (args : RadsecArgs) : RadsecStem → List IpText
  | .server => args.radiusIps
  | .syslogServer => args.syslogIps.getD []
  | .role name _ => args.sanIps name
  | _ => []

/-- Every certificate that the arguments ask for is published and sound. -/
def RadsecPkiSound (args : RadsecArgs) (out : RadsecOut → Option Text) : Prop :=
  ∃ authority, pem.held (out (.pem .ca)) = some (.certificate authority) ∧
    (∀ host ∈ args.hosts, ∃ certificate, LeafSound pem authority out (.client host.1) certificate) ∧
    ∀ stem ∈ args.endpoints, EndpointSound pem authority out stem (args.endpointIps stem)

/-- Whether the key of a certificate was made after the certificate: the last
successful request for it was not followed by a successful signature. -/
def stale (stem : RadsecStem) : List (Call RadsecStem) → Bool
  | .newKey other true :: rest => if other = stem then true else stale stem rest
  | .sign other true :: rest => if other = stem then false else stale stem rest
  | _ :: rest => stale stem rest
  | [] => false

/-- No server certificate that the run asks for and takes over from earlier runs
has had its key replaced since. -/
def NoStaleReuse (args : RadsecArgs) (d : RadsecDirectory) : Prop :=
  ∀ stem ∈ args.endpoints, reuses (args.endpointIps stem) (d.work stem) = true →
    stale stem d.calls = false

end Results

end QuantumSafe.GenPki
