import QuantumSafe.MgmtSubnets
import QuantumSafe.SyslogChecks

set_option autoImplicit false

/- `validate_ceos_configs` of `lab/topology_contract.py`: every check of a rendered
switch configuration, in the order of the source. -/
namespace QuantumSafe.CeosContract

open PyText PyRegex SymbolicText PyIpAddress SyslogChecks

def sslProfile : Text := text "RADSEC"
def eapiSslProfile : Text := text "EAPI"
def gnmiSslProfile : Text := text "GNMI"
def restconfSslProfile : Text := text "RESTCONF"
def gribiSslProfile : Text := text "GRIBI"
def gnsiSslProfile : Text := text "GNSI"
def gnpsiSslProfile : Text := text "GNPSI"
def restconfPort : Nat := 6020
def eossdkrpcPort : Nat := 9543
def gribiPort : Nat := 9340
def gnpsiPort : Nat := 6031
def controlPlaneAcl : Text := text "quantum-safe-cp"
def macsecProfile : Text := text "dynamic"
def dot1xSupplicantProfile : Text := text "macsec-sp"
def dot1xEapSslProfile : Text := text "DOT1X"
def dot1xEapIdentity : Text := text "ceos2-pqc"
def dot1xReauthPeriodSec : Nat := 60
def tlsPqcEosGroups : Text := text "X25519MLKEM768"
def syslogTlsPqcSafeEosGroups : Text := text "X25519MLKEM768:ecdh_x25519:secp256r1"
def sshPqcKex : Text := text "mlkem768x25519-sha256"
def sshPqcCiphers : Text := text "aes256-gcm@openssh.com"
def sshPqcMacs : Text := text "hmac-sha2-256 hmac-sha2-512"
def kmeAPort : Nat := 8010
def kmeBPort : Nat := 8020
def kmeSaeId : Text := text "25840139-0dd4-49ae-ba1e-b86731601803"
def kmeBSaeId : Text := text "c565d5aa-8670-4446-8471-b0e53e315d2a"
def quadraMacsecProfileMaster : Text := text "quadra-master"
def quadraMacsecProfileSlave : Text := text "quadra-slave"
def quadraKeyRx : Text := text "000102030405060708090a0b0c0d0e0f101112131415161718191a1b1c1d1e1f"
def quadraKeyTx : Text := text "202122232425262728292a2b2c2d2e2f303132333435363738393a3b3c3d3e3f"

/-- The switches, in the order of `ceos_data_plane`. -/
inductive Ceos where
  | ceos1Both
  | ceos2Pqc
  | ceos3Qkd
deriving DecidableEq, Repr

def Ceos.all : List Ceos := [.ceos1Both, .ceos2Pqc, .ceos3Qkd]

theorem Ceos.mem_all (ceos : Ceos) : ceos ∈ Ceos.all := by
  cases ceos <;> decide

def Ceos.node : Ceos → LabNode
  | .ceos1Both => .ceos1Both
  | .ceos2Pqc => .ceos2Pqc
  | .ceos3Qkd => .ceos3Qkd

def Ceos.name (ceos : Ceos) : Text := ceos.node.name

/-- A literal part of an f-string. -/
def lit (literal : String) {s : Text} (_ : literal = String.ofList s := by rfl) : FString := chars s

def num (n : Nat) : FString := chars (natText n)

/-- An entry of `ceos_data_plane`. -/
structure DataPlane where
  mgmtIp : FString
  mgmtGateway : FString
  mgmtIp6 : FString
  mgmtGateway6 : FString
  eth1 : FString
  eth1Ipv6 : FString
  eth2 : Option FString
  eth2Ipv6 : Option FString
  eth8 : FString
  eth8Ipv6 : FString
  staticRoutes : List (FString × FString)
  staticRoutes6 : List (FString × FString)

def ceosDataPlane (ceos : Ceos) : DataPlane :=
  let mgmtIp := slot (.ip ceos.node) ++ lit "/" ++ slot .prefixLen
  let mgmtIp6 := slot (.ip6 ceos.node) ++ lit "/" ++ slot .prefixLen6
  match ceos with
  | .ceos1Both =>
      { mgmtIp, mgmtGateway := slot .gateway, mgmtIp6, mgmtGateway6 := slot .gateway6
        eth1 := lit "10.255.0.1/30"
        eth1Ipv6 := lit "2001:db8:255:0::1/126"
        eth2 := some (lit "10.255.0.5/30")
        eth2Ipv6 := some (lit "2001:db8:255:0::5/126")
        eth8 := lit "10.0.1.254/24"
        eth8Ipv6 := lit "2001:db8:1::fe/64"
        staticRoutes := [(lit "10.0.2.0/24", lit "10.255.0.2"), (lit "10.0.3.0/24", lit "10.255.0.6")]
        staticRoutes6 :=
          [(lit "2001:db8:2::/64", lit "2001:db8:255:0::2"),
            (lit "2001:db8:3::/64", lit "2001:db8:255:0::6")] }
  | .ceos2Pqc =>
      { mgmtIp, mgmtGateway := slot .gateway, mgmtIp6, mgmtGateway6 := slot .gateway6
        eth1 := lit "10.255.0.2/30"
        eth1Ipv6 := lit "2001:db8:255:0::2/126"
        eth2 := none
        eth2Ipv6 := none
        eth8 := lit "10.0.2.254/24"
        eth8Ipv6 := lit "2001:db8:2::fe/64"
        staticRoutes := [(lit "10.0.1.0/24", lit "10.255.0.1"), (lit "10.0.3.0/24", lit "10.255.0.1")]
        staticRoutes6 :=
          [(lit "2001:db8:1::/64", lit "2001:db8:255:0::1"),
            (lit "2001:db8:3::/64", lit "2001:db8:255:0::1")] }
  | .ceos3Qkd =>
      { mgmtIp, mgmtGateway := slot .gateway, mgmtIp6, mgmtGateway6 := slot .gateway6
        eth1 := lit "10.255.0.6/30"
        eth1Ipv6 := lit "2001:db8:255:0::6/126"
        eth2 := none
        eth2Ipv6 := none
        eth8 := lit "10.0.3.254/24"
        eth8Ipv6 := lit "2001:db8:3::fe/64"
        staticRoutes := [(lit "10.0.1.0/24", lit "10.255.0.5"), (lit "10.0.2.0/24", lit "10.255.0.5")]
        staticRoutes6 :=
          [(lit "2001:db8:1::/64", lit "2001:db8:255:0::5"),
            (lit "2001:db8:2::/64", lit "2001:db8:255:0::5")] }

/-- The values of `ceos_data_plane(mgmt_subnet, mgmt_ipv6_subnet=...)` and of the
two dictionaries of addresses, computed in the order of the source. -/
def dataPlaneValues (mgmtSubnet mgmtIpv6Subnet : Option Text) : Except AddressError MgmtValues := do
  let ips ← mgmtIpsForSubnet mgmtSubnet
  let ips6 ← mgmtIpv6IpsForSubnet mgmtIpv6Subnet
  let prefixLen ← mgmtPrefixLen mgmtSubnet
  let prefixLen6 ← mgmtIpv6PrefixLen mgmtIpv6Subnet
  let gateway ← mgmtGateway mgmtSubnet
  let gateway6 ← mgmtIpv6Gateway mgmtIpv6Subnet
  return mgmtValues ips ips6 gateway gateway6 prefixLen prefixLen6

/-- `text.split("management security", 1)[-1].split("\n!", 1)[0]`. -/
def security (config : Text) : Text :=
  splitHead (text "\n!") (splitTail (text "management security") config)

/-- The part of a configuration that a check searches. -/
inductive Scope where
  | whole
  /-- `text.split(marker, 1)[-1]` -/
  | after (marker : Text)
  /-- `text.split(marker, 1)[-1].split("!", 1)[0]` -/
  | block (marker : Text)
  /-- `security.split(f"ssl profile {name}", 1)[-1].split("!", 1)[0]` -/
  | profile (name : Text)

def Scope.part (config : Text) : Scope → Text
  | .whole => config
  | .after marker => splitTail marker config
  | .block marker => splitHead (text "!") (splitTail marker config)
  | .profile name => splitHead (text "!") (splitTail (text "ssl profile " ++ name) (security config))

/-- One `if needle not in part` or `if needle in part` with the message it appends
after `f"{ceos}.cfg "`. -/
structure Rule where
  scope : Scope
  needle : FString
  wanted : Bool
  message : FString

inductive Violation where
  /-- `f"missing {path} (run make gen-topo)"` -/
  | missingConfig (ceos : Ceos)
  /-- `f"{ceos}.cfg {message}"` -/
  | broken (ceos : Ceos) (message : Text)
  /-- `f"{ceos}.cfg must not configure cleartext syslog hosts: {lines!r}"` -/
  | cleartextHosts (ceos : Ceos) (lines : List Text)
deriving DecidableEq, Repr

def Rule.errors (values : MgmtValues) (ceos : Ceos) (config : Text) (rule : Rule) : List Violation :=
  if contains (fill values rule.needle) (rule.scope.part config) = rule.wanted then []
  else [.broken ceos (fill values rule.message)]

/-- `^   ssl profile (\S+)(.*?)(?=^   ssl profile |\Z)` with `re.MULTILINE | re.DOTALL`. -/
def profilePattern : Regex :=
  .seq .lineStart (.seq (.literal (text "   ssl profile ")) (.seq (.group 1 (.many 1 nonSpace))
    (.seq (.group 2 (.manyLazy 0 anyChar))
      (.lookahead (.either (.seq .lineStart (.literal (text "   ssl profile "))) .textEnd)))))

/-- `key-establishment-group\s+\S*(?:ecdh_x25519|secp256r1)`. -/
def classicalGroupPattern : Regex :=
  .seq (.literal (text "key-establishment-group")) (.seq (.many 1 isSpace) (.seq (.many 0 nonSpace)
    (.either (.literal (text "ecdh_x25519")) (.literal (text "secp256r1")))))

/-- The body of the loop over the profiles of the security section. -/
def profileErrors (ceos : Ceos) (profileName block : Text) : List Violation :=
  if profileName = syslogSslProfile then
    if contains (text "key-establishment-group " ++ syslogTlsPqcSafeEosGroups) block then []
    else [.broken ceos (text "SYSLOG ssl profile must use PQC-safe groups " ++ text "'" ++
      syslogTlsPqcSafeEosGroups ++ text "'")]
  else
    (if contains (text "key-establishment-group " ++ tlsPqcEosGroups) block then []
      else [.broken ceos (text "ssl profile " ++ profileName ++ text " must use PQC-hybrid group " ++
        text "'" ++ tlsPqcEosGroups ++ text "' only")]) ++
    (if Regex.found classicalGroupPattern block then
      [.broken ceos (text "ssl profile " ++ profileName ++
        text " must not list classical TLS fallbacks (PQC-hybrid only)")]
      else [])

def keyGroupErrors (ceos : Ceos) (config : Text) : List Violation :=
  (Regex.findall profilePattern (security config)).flatMap fun profile =>
    profileErrors ceos (profile.group 1) (profile.group 2)

/-- The lines that the syslog check looks at. -/
def loggingSection (config : Text) : Text :=
  join (text "\n") ((splitlines config).filter fun line => startswith (strip line) (text "logging"))

def cleartextErrors (ceos : Ceos) (config : Text) : List Violation :=
  let cleartext := cleartextSyslogLines (loggingSection config)
  if cleartext ≠ [] then [.cleartextHosts ceos cleartext] else []

/-- `^\s+cipher aes256-gcm@openssh\.com\s*$` with `re.MULTILINE`. -/
def sshCipherPattern : Regex :=
  .seq .lineStart (.seq (.many 1 isSpace) (.seq (.literal (text "cipher " ++ sshPqcCiphers))
    (.seq (.many 0 isSpace) .lineEnd)))

/-- `management ssh.*?vrf MGMT\s+no shutdown` with `re.DOTALL`. -/
def sshVrfPattern : Regex :=
  .seq (.literal (text "management ssh")) (.seq (.manyLazy 0 anyChar)
    (.seq (.literal (text "vrf MGMT")) (.seq (.many 1 isSpace) (.literal (text "no shutdown")))))

/-- `management ssh.*?^\s+shutdown\s*$` with `re.DOTALL | re.MULTILINE`. -/
def sshDefaultShutdownPattern : Regex :=
  .seq (.literal (text "management ssh")) (.seq (.manyLazy 0 anyChar)
    (.seq .lineStart (.seq (.many 1 isSpace) (.seq (.literal (text "shutdown"))
      (.seq (.many 0 isSpace) .lineEnd)))))

inductive Check where
  | rule (needed : Rule)
  /-- `if not re.search(pattern, text)` -/
  | found (pattern : Regex) (message : FString)
  | keyGroups
  | cleartext

def Check.errors (values : MgmtValues) (ceos : Ceos) (config : Text) : Check → List Violation
  | .rule needed => needed.errors values ceos config
  | .found pattern message =>
      if Regex.found pattern config then [] else [.broken ceos (fill values message)]
  | .keyGroups => keyGroupErrors ceos config
  | .cleartext => cleartextErrors ceos config

def wants (needle message : FString) : Check := .rule ⟨.whole, needle, true, message⟩

def wantsIn (scope : Scope) (needle message : FString) : Check := .rule ⟨scope, needle, true, message⟩

def forbids (needle message : FString) : Check := .rule ⟨.whole, needle, false, message⟩

def forbidsIn (scope : Scope) (needle message : FString) : Check :=
  .rule ⟨scope, needle, false, message⟩

end QuantumSafe.CeosContract
