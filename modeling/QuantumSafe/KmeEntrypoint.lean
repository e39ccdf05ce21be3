import QuantumSafe.PacketFilter
import QuantumSafe.ShellText
import QuantumSafe.IpAddressText
import Mathlib.Logic.Function.Basic

set_option autoImplicit false

/- `docker/kme/entrypoint.sh`: the rules that restrict the API of a KME. Every command
of the script succeeds. -/
namespace QuantumSafe.KmeEntrypoint

open PyText PyIpAddress ShellText PacketFilter

/-- The variables that the script reads; an unset one is empty. -/
structure Environment where
  port : Text
  saeClientIps : Text
  saeClientIp : Text
  otherKmes : Text

/-- `PORT="${PORT:-8010}"` -/
def Environment.PORT (env : Environment) : Text := if env.port.isEmpty then text "8010" else env.port

inductive Table where
  | iptables
  | ip6tables
deriving DecidableEq, Repr

/-- `-p tcp --dport PORT`, with `-s source` or for every source. -/
structure Matching where
  dport : Text
  source : Option Text
deriving DecidableEq

/-- The variables `_wants_v4` and `_wants_v6`, and the `INPUT` chains of both tables. -/
structure Firewall where
  wants : Table → Bool
  chain : Table → Chain Matching

def Firewall.initial : Firewall := ⟨fun _ => false, fun _ => []⟩

def isIpv6 (source : Text) : Bool := source.contains ':'

def firewallTable (source : Text) : Table := if isIpv6 source then .ip6tables else .iptables

def noteSource (source : Text) (firewall : Firewall) : Firewall :=
  if source.isEmpty then firewall
  else if isIpv6 source then { firewall with wants := Function.update firewall.wants .ip6tables true }
  else { firewall with wants := Function.update firewall.wants .iptables true }

def allowSource (port source : Text) (firewall : Firewall) : Firewall :=
  let table := firewallTable source
  if source.isEmpty then firewall
  else
    let rule := ⟨⟨port, some source⟩, .accept⟩
    { firewall with chain := Function.update firewall.chain table ((firewall.chain table).insert rule) }

def restrictFamily (port : Text) (table : Table) (firewall : Firewall) : Firewall :=
  let rule := ⟨⟨port, none⟩, .drop⟩
  { firewall with chain := Function.update firewall.chain table ((firewall.chain table).append rule) }

/-- `$(echo "${list}" | tr ',' '\n')`, in words. -/
def wordsOf (list : Text) : List Text := fields (tr ',' '\n' (echo list))

/-- `$(echo "$client" | tr -d ' ')` -/
def clientText (client : Text) : Text := trDelete ' ' (echo client)

/-- Where `https?://([^:/]+)` matches, what it captures. -/
def capturedHost (s : Text) : Option Text :=
  let host (start : Text) : Option Text :=
    if startswith s start then
      let captured := (s.drop start.length).takeWhile fun c => c != ':' && c != '/'
      if captured.isEmpty then none else some captured
    else none
  (host (text "https://")).or (host (text "http://"))

/-- `sed -E 's|https?://([^:/]+).*|\1|'` on one line. -/
def sedHost : Text → Text
  | [] => []
  | c :: rest =>
      match capturedHost (c :: rest) with
      | some host => host
      | none => c :: sedHost rest

/-- `$(echo "$peer" | sed -E ...)` -/
def peerHost (peer : Text) : Text := sedHost (echo peer)

/-- The first loop over the clients. -/
def noteClients (env : Environment) (firewall : Firewall) : Firewall :=
  if !env.saeClientIps.isEmpty then
    (wordsOf env.saeClientIps).foldl (fun firewall client => noteSource (clientText client) firewall) firewall
  else if !env.saeClientIp.isEmpty then noteSource env.saeClientIp firewall
  else firewall

/-- The first loop over the peers. -/
def notePeers (env : Environment) (firewall : Firewall) : Firewall :=
  if !env.otherKmes.isEmpty then
    (wordsOf env.otherKmes).foldl (fun firewall peer => noteSource (peerHost peer) firewall) firewall
  else firewall

def restrictFamilies (port : Text) (firewall : Firewall) : Firewall :=
  let firewall := if firewall.wants .iptables then restrictFamily port .iptables firewall else firewall
  if firewall.wants .ip6tables then restrictFamily port .ip6tables firewall else firewall

/-- `[ "$_wants_..." = true ] && _allow_source ...`, for the family of the source. -/
def allowWanted (port source : Text) (firewall : Firewall) : Firewall :=
  if isIpv6 source then
    if firewall.wants .ip6tables then allowSource port source firewall else firewall
  else if firewall.wants .iptables then allowSource port source firewall
  else firewall

def allowClients (env : Environment) (firewall : Firewall) : Firewall :=
  if !env.saeClientIps.isEmpty then
    (wordsOf env.saeClientIps).foldl (fun firewall client => allowWanted env.PORT (clientText client) firewall)
      firewall
  else if !env.saeClientIp.isEmpty then allowWanted env.PORT env.saeClientIp firewall
  else firewall

def allowPeers (env : Environment) (firewall : Firewall) : Firewall :=
  if !env.otherKmes.isEmpty then
    (wordsOf env.otherKmes).foldl (fun firewall peer =>
      let host := peerHost peer
      if !host.isEmpty then allowWanted env.PORT host firewall else firewall) firewall
  else firewall

/-- The firewall when the server is started. -/
def entrypoint (env : Environment) : Firewall :=
  allowPeers env (allowClients env (restrictFamilies env.PORT (notePeers env (noteClients env .initial))))

structure Packet where
  dport : Text
  source : Address

def tableOf : Address → Table
  | .v4 _ => .iptables
  | .v6 _ => .ip6tables

def Packet.table (packet : Packet) : Table := tableOf packet.source

/-- The address that a text is written for, without a zone. -/
def numericAddress (s : Text) : Option Address :=
  match parseIPv4 s with
  | some value => if bound : value < 2 ^ 32 then some (.v4 ⟨value, bound⟩) else none
  | none =>
      match IPv6Address.ofText s with
      | some address => if address.scopeId = none then some (.v6 address) else none
      | none => none

/-- Whether a source argument stands for an address. What is not an address itself
(a host name) is looked up. -/
def sourceIs (lookup : Text → List Address) (source : Text) (address : Address) : Bool :=
  match numericAddress source with
  | some own => own == address
  | none => (lookup source).contains address

def hits (lookup : Text → List Address) (rule : Matching) (packet : Packet) : Bool :=
  rule.dport == packet.dport &&
    match rule.source with
    | none => true
    | some source => sourceIs lookup source packet.source

/-- A TCP packet reaches the API. A packet that no rule hits is accepted. -/
def Firewall.accepts (lookup : Text → List Address) (firewall : Firewall) (packet : Packet) : Bool :=
  verdict (hits lookup) .accept (firewall.chain packet.table) packet == .accept

end QuantumSafe.KmeEntrypoint
