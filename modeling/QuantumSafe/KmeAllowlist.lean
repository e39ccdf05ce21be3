import Mathlib.Data.Set.Insert
import QuantumSafe.KmeEntrypoint

set_option autoImplicit false

/- Which sources reach the API of a KME once its entrypoint has run. -/
namespace QuantumSafe.KmeEntrypoint

open PyText PyIpAddress ShellText PacketFilter

/-- The texts that the loops over the clients visit. -/
def clientSources (env : Environment) : List Text :=
  if !env.saeClientIps.isEmpty then (wordsOf env.saeClientIps).map clientText
  else if !env.saeClientIp.isEmpty then [env.saeClientIp]
  else []

/-- The texts that the loops over the peers visit. -/
def peerSources (env : Environment) : List Text :=
  if !env.otherKmes.isEmpty then (wordsOf env.otherKmes).map peerHost else []

def sources (env : Environment) : List Text := clientSources env ++ peerSources env

def noteAll (sources : List Text) (firewall : Firewall) : Firewall :=
  sources.foldl (fun firewall source => noteSource source firewall) firewall

def allowAll (port : Text) (sources : List Text) (firewall : Firewall) : Firewall :=
  sources.foldl (fun firewall source => allowWanted port source firewall) firewall

theorem noteClients_eq (env : Environment) (firewall : Firewall) :
    noteClients env firewall = noteAll (clientSources env) firewall := by
  rw [noteClients, clientSources, noteAll]
  split
  · rw [List.foldl_map]
  · split <;> rfl

theorem notePeers_eq (env : Environment) (firewall : Firewall) :
    notePeers env firewall = noteAll (peerSources env) firewall := by
  rw [notePeers, peerSources, noteAll]
  split
  · rw [List.foldl_map]
  · rfl

theorem allowClients_eq (env : Environment) (firewall : Firewall) :
    allowClients env firewall = allowAll env.PORT (clientSources env) firewall := by
  rw [allowClients, clientSources, allowAll]
  split
  · rw [List.foldl_map]
  · split <;> rfl

theorem allowWanted_nil (port : Text) (firewall : Firewall) : allowWanted port [] firewall = firewall := by
  have plain : isIpv6 [] = false := rfl
  rw [allowWanted, plain, if_neg Bool.false_ne_true]
  split <;> rfl

theorem allowPeers_eq (env : Environment) (firewall : Firewall) :
    allowPeers env firewall = allowAll env.PORT (peerSources env) firewall := by
  rw [allowPeers, peerSources, allowAll]
  split
  · rw [List.foldl_map]
    have same (firewall : Firewall) (peer : Text) :
        (if !(peerHost peer).isEmpty then allowWanted env.PORT (peerHost peer) firewall else firewall) =
          allowWanted env.PORT (peerHost peer) firewall := by
      split
      · rfl
      · rename_i empty
        have none : peerHost peer = [] := by simpa using empty
        rw [none, allowWanted_nil]
    simp only [same]
  · rfl

theorem entrypoint_eq (env : Environment) :
    entrypoint env =
      allowAll env.PORT (sources env) (restrictFamilies env.PORT (noteAll (sources env) .initial)) := by
  rw [entrypoint, noteClients_eq, notePeers_eq, allowClients_eq, allowPeers_eq, sources]
  simp only [noteAll, allowAll, List.foldl_append]

/- Noting -/

theorem noteSource_wants (source : Text) (firewall : Firewall) (table : Table) :
    (noteSource source firewall).wants table = true ↔
      (source ≠ [] ∧ firewallTable source = table) ∨ firewall.wants table = true := by
  rw [noteSource, firewallTable]
  by_cases empty : source = []
  · rw [empty]
    simp
  · have filled : source.isEmpty = false := by simpa using empty
    rw [filled, if_neg Bool.false_ne_true]
    split <;> cases table <;> simp [empty]

theorem noteSource_chain (source : Text) (firewall : Firewall) :
    (noteSource source firewall).chain = firewall.chain := by
  rw [noteSource]
  split
  · rfl
  · split <;> rfl

theorem noteAll_chain (sources : List Text) (firewall : Firewall) :
    (noteAll sources firewall).chain = firewall.chain := by
  induction sources generalizing firewall with
  | nil => rfl
  | cons source rest ih =>
      rw [noteAll, List.foldl_cons, ← noteAll, ih, noteSource_chain]

theorem noteAll_wants (sources : List Text) (firewall : Firewall) (table : Table) :
    (noteAll sources firewall).wants table = true ↔
      (∃ source ∈ sources, source ≠ [] ∧ firewallTable source = table) ∨ firewall.wants table = true := by
  induction sources generalizing firewall with
  | nil => simp [noteAll]
  | cons source rest ih =>
      rw [noteAll, List.foldl_cons, ← noteAll, ih, noteSource_wants, List.exists_mem_cons_iff, ← or_assoc]
      exact or_congr_left or_comm

/- Restricting -/

def dropRule (port : Text) : Rule Matching := ⟨⟨port, none⟩, .drop⟩

theorem restrictFamilies_wants (port : Text) (firewall : Firewall) :
    (restrictFamilies port firewall).wants = firewall.wants := by
  rw [restrictFamilies]
  split <;> split <;> rfl

theorem restrictFamilies_chain (port : Text) (firewall : Firewall) (table : Table) :
    (restrictFamilies port firewall).chain table =
      firewall.chain table ++ if firewall.wants table then [dropRule port] else [] := by
  rw [restrictFamilies]
  by_cases v4 : firewall.wants .iptables = true <;> by_cases v6 : firewall.wants .ip6tables = true <;>
    cases table <;>
    simp [v4, v6, restrictFamily, Chain.append, dropRule]

/- Allowing -/

def acceptRule (port source : Text) : Rule Matching := ⟨⟨port, some source⟩, .accept⟩

/-- The sources that get a rule in a table. -/
def admitted (firewall : Firewall) (table : Table) (source : Text) : Bool :=
  !source.isEmpty && firewall.wants table && firewallTable source == table

theorem allowWanted_wants (port source : Text) (firewall : Firewall) :
    (allowWanted port source firewall).wants = firewall.wants := by
  rw [allowWanted, allowSource]
  split <;> split <;> first | rfl | (split <;> rfl)

theorem allowWanted_chain (port source : Text) (firewall : Firewall) (table : Table) :
    (allowWanted port source firewall).chain table =
      if admitted firewall table source then acceptRule port source :: firewall.chain table
      else firewall.chain table := by
  by_cases empty : source = []
  · rw [empty, allowWanted_nil]
    rfl
  · have filled : source.isEmpty = false := by simpa using empty
    rw [allowWanted, allowSource, admitted, firewallTable, filled]
    by_cases v6 : isIpv6 source = true <;> by_cases v4 : firewall.wants .iptables = true <;>
      by_cases wanted : firewall.wants .ip6tables = true <;> cases table <;>
      simp [v4, v6, wanted, Chain.insert, acceptRule]

theorem allowAll_chain (port : Text) (sources : List Text) (firewall : Firewall) (table : Table) :
    (allowAll port sources firewall).chain table =
      ((sources.filter (admitted firewall table)).map (acceptRule port)).reverse ++ firewall.chain table := by
  induction sources generalizing firewall with
  | nil => rfl
  | cons source rest ih =>
      have same : admitted (allowWanted port source firewall) table = admitted firewall table := by
        funext other
        rw [admitted, admitted, allowWanted_wants]
      rw [allowAll, List.foldl_cons, ← allowAll, ih, same, allowWanted_chain]
      by_cases admits : admitted firewall table source = true
      · rw [if_pos admits, List.filter_cons_of_pos admits, List.map_cons, List.reverse_cons,
          List.append_assoc, List.singleton_append]
      · rw [if_neg admits, List.filter_cons_of_neg admits]

/-- The sources of the family of a table. -/
def ofTable (env : Environment) (table : Table) (source : Text) : Prop :=
  source ∈ sources env ∧ source ≠ [] ∧ firewallTable source = table

theorem entrypoint_chain (env : Environment) (table : Table) :
    ∃ front,
      (∀ rule, rule ∈ front ↔ ∃ source, ofTable env table source ∧ rule = acceptRule env.PORT source) ∧
      (entrypoint env).chain table =
        front ++ if (noteAll (sources env) .initial).wants table then [dropRule env.PORT] else [] := by
  let restricted := restrictFamilies env.PORT (noteAll (sources env) .initial)
  refine ⟨(((sources env).filter (admitted restricted table)).map (acceptRule env.PORT)).reverse,
    fun rule => ?_, ?_⟩
  · rw [List.mem_reverse, List.mem_map]
    refine exists_congr fun source => ?_
    rw [List.mem_filter, admitted, restrictFamilies_wants, Bool.and_eq_true, Bool.and_eq_true, beq_iff_eq,
      noteAll_wants, ofTable]
    constructor
    · rintro ⟨⟨member, ⟨filled, -⟩, own⟩, same⟩
      exact ⟨⟨member, by simpa using filled, own⟩, same.symm⟩
    · rintro ⟨⟨member, filled, own⟩, same⟩
      exact ⟨⟨member, ⟨by simpa using filled, Or.inl ⟨source, member, filled, own⟩⟩, own⟩, same.symm⟩
  · rw [entrypoint_eq, allowAll_chain, restrictFamilies_chain, noteAll_chain]
    rfl

/-- A packet reaches the server if no source of its family is noted, or a noted one stands
for its address. -/
theorem accepts_iff (lookup : Text → List Address) (env : Environment) (packet : Packet)
    (toPort : packet.dport = env.PORT) :
    (entrypoint env).accepts lookup packet = true ↔
      (¬ ∃ source, ofTable env packet.table source) ∨
        ∃ source, ofTable env packet.table source ∧ sourceIs lookup source packet.source = true := by
  have ⟨front, inFront, chain⟩ := entrypoint_chain env packet.table
  have accepting : ∀ rule ∈ front, rule.target = .accept := by
    intro rule member
    have ⟨source, _, same⟩ := (inFront rule).mp member
    rw [same, acceptRule]
  have hit : (∃ rule ∈ front, hits lookup rule.matching packet = true) ↔
      ∃ source, ofTable env packet.table source ∧ sourceIs lookup source packet.source = true := by
    constructor
    · rintro ⟨rule, member, hit⟩
      have ⟨source, noted, same⟩ := (inFront rule).mp member
      rw [same, hits, acceptRule, Bool.and_eq_true] at hit
      exact ⟨source, noted, hit.2⟩
    · rintro ⟨source, noted, same⟩
      refine ⟨acceptRule env.PORT source, (inFront _).mpr ⟨source, noted, rfl⟩, ?_⟩
      rw [hits, acceptRule, toPort, beq_self_eq_true, Bool.true_and]
      exact same
  have wanted : (noteAll (sources env) .initial).wants packet.table = true ↔
      ∃ source, ofTable env packet.table source := by
    rw [noteAll_wants, or_iff_left (by exact Bool.false_ne_true)]
    rfl
  rw [Firewall.accepts, beq_iff_eq, chain, verdict_accepts_iff accepting, hit, or_comm]
  refine or_congr_left ?_
  rw [← wanted]
  split
  · rename_i restricted
    have dropped : hits lookup (dropRule env.PORT).matching packet = true := by
      rw [hits, dropRule, toPort, beq_self_eq_true]
      rfl
    exact iff_of_false (verdict_drop dropped rfl) (not_not.mpr restricted)
  · rename_i free
    exact iff_of_true rfl free

/- The lists of the environment -/

/-- The client addresses that the environment lists: `SAE_CLIENT_IP` is the fallback. -/
def Environment.clients (env : Environment) : List Text :=
  if !env.saeClientIps.isEmpty then listed env.saeClientIps
  else if !env.saeClientIp.isEmpty then [env.saeClientIp]
  else []

def Environment.peers (env : Environment) : List Text := listed env.otherKmes

/-- The text is an address in digits, dots and colons. -/
structure AddressText (entry : Text) (address : Address) : Prop where
  plain : ∀ c ∈ entry, isHexDigit c = true ∨ c = '.' ∨ c = ':'
  read : numericAddress entry = some address

/-- The text is the URL of a server at an IPv4 address. -/
def PeerText (peer : Text) (address : Address) : Prop :=
  ∃ scheme host rest, (scheme = text "https://" ∨ scheme = text "http://") ∧
    peer = scheme ++ host ++ rest ∧ AddressText host address ∧ tableOf address = .iptables ∧
    (∀ c, rest.head? = some c → c = ':' ∨ c = '/') ∧ Solid rest

/-- The source is one of the listed clients or peers. -/
def Listed (env : Environment) (address : Address) : Prop :=
  (∃ client ∈ env.clients, AddressText client address) ∨ ∃ peer ∈ env.peers, PeerText peer address

theorem numericAddress_v4 {entry : Text} {address : IPv4Address}
    (read : numericAddress entry = some (.v4 address)) : parseIPv4 entry = some address.value := by
  rw [numericAddress] at read
  split at read
  · rename_i value parsed
    split at read
    · cases read
      exact parsed
    · cases read
  · split at read
    · split at read <;> cases read
    · cases read

theorem numericAddress_v6 {entry : Text} {address : IPv6Address}
    (read : numericAddress entry = some (.v6 address)) : IPv6Address.ofText entry = some address := by
  rw [numericAddress] at read
  split at read
  · split at read <;> cases read
  · split at read
    · rename_i own parsed
      split at read
      · cases read
        exact parsed
      · cases read
    · cases read

/-- The script tells the families apart by the colon. -/
theorem AddressText.table {entry : Text} {address : Address} (written : AddressText entry address) :
    firewallTable entry = tableOf address := by
  rw [firewallTable, isIpv6]
  cases address with
  | v4 own =>
      refine if_neg fun found => ?_
      have colon := List.contains_iff_mem.mp found
      rcases mem_of_parseIPv4 (numericAddress_v4 written.read) ':' colon with digit | dot
      · cases digit
      · cases dot
  | v6 own => exact if_pos (List.contains_iff_mem.mpr (colon_mem_of_ofText (numericAddress_v6 written.read)))

theorem AddressText.filled {entry : Text} {address : Address} (written : AddressText entry address) :
    entry ≠ [] := by
  rintro rfl
  cases written.read

theorem AddressText.notMem {entry : Text} {address : Address} (written : AddressText entry address)
    {c : Char} (digit : isHexDigit c = false) (dot : c ≠ '.') (colon : c ≠ ':') : c ∉ entry := by
  intro member
  rcases written.plain c member with isDigit | isDot | isColon
  · rw [digit] at isDigit
    cases isDigit
  · exact dot isDot
  · exact colon isColon

theorem AddressText.solid {entry : Text} {address : Address} (written : AddressText entry address) :
    Solid entry := by
  intro c member
  rw [← Bool.not_eq_true]
  intro blank
  rw [isBlank, Bool.or_eq_true, Bool.or_eq_true, beq_iff_eq, beq_iff_eq, beq_iff_eq] at blank
  rcases blank with (rfl | rfl) | rfl <;> exact written.notMem (by decide) (by decide) (by decide) member

theorem AddressText.clientText {entry : Text} {address : Address} (written : AddressText entry address) :
    clientText entry = entry := by
  have noDash : '-' ∉ entry := written.notMem (by decide) (by decide) (by decide)
  have noBlank : ' ' ∉ entry := written.notMem (by decide) (by decide) (by decide)
  rw [KmeEntrypoint.clientText, echo_of_head fun dash => noDash (List.mem_of_head? dash), trDelete]
  exact List.filter_eq_self.mpr fun c member => bne_iff_ne.mpr fun same => noBlank (same ▸ member)

/-- The words of a list that does not start like an option. -/
theorem wordsOf_eq_listed {list : Text} (solid : ∀ entry ∈ listed list, Solid entry)
    (plain : ∀ entry ∈ listed list, entry.head? ≠ some '-') : wordsOf list = listed list := by
  rw [wordsOf, echo_of_listed plain, fields_tr_eq_listed solid]

theorem clientSources_eq {env : Environment}
    (clients : ∀ client ∈ env.clients, ∃ address, AddressText client address) :
    clientSources env = env.clients := by
  rw [Environment.clients] at clients ⊢
  rw [clientSources]
  split
  · rename_i several
    rw [if_pos several] at clients
    have solid : ∀ client ∈ listed env.saeClientIps, Solid client := by
      intro client member
      have ⟨address, written⟩ := clients client member
      exact written.solid
    have plain : ∀ client ∈ listed env.saeClientIps, client.head? ≠ some '-' := by
      intro client member dash
      have ⟨address, written⟩ := clients client member
      exact written.notMem (by decide) (by decide) (by decide) (List.mem_of_head? dash)
    rw [wordsOf_eq_listed solid plain]
    refine (List.map_congr_left fun client member => ?_).trans (List.map_id _)
    have ⟨address, written⟩ := clients client member
    exact written.clientText
  · rfl

theorem capturedHost_url {scheme host rest : Text}
    (isUrl : scheme = text "https://" ∨ scheme = text "http://") (filled : host ≠ [])
    (plain : ∀ c ∈ host, (c != ':' && c != '/') = true)
    (ends : ∀ c, rest.head? = some c → c = ':' ∨ c = '/') :
    capturedHost (scheme ++ host ++ rest) = some host := by
  have stops : rest.takeWhile (fun c => c != ':' && c != '/') = [] := by
    cases rest with
    | nil => rfl
    | cons c rest =>
        rcases ends c rfl with rfl | rfl <;> rfl
  have captured : (host ++ rest).takeWhile (fun c => c != ':' && c != '/') = host := by
    rw [List.takeWhile_append_of_pos plain, stops, List.append_nil]
  have shown : host.isEmpty = false := by simpa using filled
  rw [capturedHost, List.append_assoc]
  rcases isUrl with rfl | rfl
  · have starts : startswith (text "https://" ++ (host ++ rest)) (text "https://") = true :=
      (startswith_iff _ _).mpr (List.prefix_append _ _)
    simp only [starts, if_true, List.drop_left, captured, shown, Bool.false_eq_true, if_false, Option.some_or]
  · have starts : startswith (text "http://" ++ (host ++ rest)) (text "http://") = true :=
      (startswith_iff _ _).mpr (List.prefix_append _ _)
    have other : startswith (text "http://" ++ (host ++ rest)) (text "https://") = false := rfl
    simp only [starts, other, if_true, List.drop_left, captured, shown, Bool.false_eq_true, if_false,
      Option.none_or]

/-- The `sed` command leaves the host of a URL. -/
theorem peerHost_url {scheme host rest : Text}
    (isUrl : scheme = text "https://" ∨ scheme = text "http://") (filled : host ≠ [])
    (plain : ∀ c ∈ host, (c != ':' && c != '/') = true)
    (ends : ∀ c, rest.head? = some c → c = ':' ∨ c = '/') : peerHost (scheme ++ host ++ rest) = host := by
  have captured := capturedHost_url isUrl filled plain ends
  have first : (scheme ++ host ++ rest).head? = some 'h' := by
    rcases isUrl with rfl | rfl <;> rfl
  have echoed : echo (scheme ++ host ++ rest) = scheme ++ host ++ rest := by
    apply echo_of_head
    rw [first]
    decide
  rw [peerHost, echoed]
  cases whole : scheme ++ host ++ rest with
  | nil =>
      rw [whole] at captured
      cases captured
  | cons c tail =>
      rw [whole] at captured
      rw [sedHost, captured]

theorem PeerText.solid {peer : Text} {address : Address} (written : PeerText peer address) : Solid peer := by
  obtain ⟨scheme, host, rest, isUrl, rfl, isAddress, -, -, solidRest⟩ := written
  intro c member
  rcases List.mem_append.mp member with front | later
  · rcases List.mem_append.mp front with inScheme | inHost
    · have solidScheme : Solid scheme := by
        rcases isUrl with rfl | rfl
        · exact solid_of_all (by decide)
        · exact solid_of_all (by decide)
      exact solidScheme c inScheme
    · exact isAddress.solid c inHost
  · exact solidRest c later

theorem PeerText.head {peer : Text} {address : Address} (written : PeerText peer address) :
    peer.head? = some 'h' := by
  obtain ⟨scheme, host, rest, isUrl, rfl, -⟩ := written
  rcases isUrl with rfl | rfl <;> rfl

theorem AddressText.hostChars {entry : Text} {address : Address} (written : AddressText entry address)
    (isV4 : tableOf address = .iptables) : ∀ c ∈ entry, (c != ':' && c != '/') = true := by
  have noColon : ':' ∉ entry := by
    have table := written.table
    rw [isV4, firewallTable, isIpv6] at table
    intro colon
    rw [if_pos (List.contains_iff_mem.mpr colon)] at table
    cases table
  have noSlash : '/' ∉ entry := written.notMem (by decide) (by decide) (by decide)
  intro c member
  rw [Bool.and_eq_true, bne_iff_ne, bne_iff_ne]
  exact ⟨fun same => noColon (same ▸ member), fun same => noSlash (same ▸ member)⟩

/-- The `sed` command leaves the address of a peer. -/
theorem PeerText.host {peer : Text} {address : Address} (written : PeerText peer address) :
    AddressText (peerHost peer) address := by
  obtain ⟨scheme, host, rest, isUrl, rfl, isAddress, isV4, ends, -⟩ := written
  rw [peerHost_url isUrl isAddress.filled (isAddress.hostChars isV4) ends]
  exact isAddress

theorem peerSources_eq {env : Environment} (peers : ∀ peer ∈ env.peers, ∃ address, PeerText peer address) :
    peerSources env = env.peers.map peerHost := by
  have solid : ∀ peer ∈ listed env.otherKmes, Solid peer := by
    intro peer member
    have ⟨address, written⟩ := peers peer member
    exact written.solid
  have plain : ∀ peer ∈ listed env.otherKmes, peer.head? ≠ some '-' := by
    intro peer member
    have ⟨address, written⟩ := peers peer member
    rw [written.head]
    decide
  rw [peerSources]
  split
  · rw [wordsOf_eq_listed solid plain, Environment.peers]
  · rename_i empty
    have none : env.otherKmes = [] := by simpa using empty
    rw [Environment.peers, none]
    rfl

theorem sourceIs_iff {lookup : Text → List Address} {source : Text} {own address : Address}
    (written : AddressText source own) : sourceIs lookup source address = true ↔ own = address := by
  rw [sourceIs, written.read]
  exact beq_iff_eq

/-- A listed client is accepted, whatever the peers are. -/
theorem accepts_client (lookup : Text → List Address) {env : Environment}
    (clients : ∀ client ∈ env.clients, ∃ address, AddressText client address) {client : Text}
    {address : Address} (member : client ∈ env.clients) (written : AddressText client address) :
    (entrypoint env).accepts lookup ⟨env.PORT, address⟩ = true := by
  rw [accepts_iff lookup env _ rfl]
  have noted : client ∈ sources env := by
    rw [sources, clientSources_eq clients]
    exact List.mem_append_left _ member
  exact Or.inr ⟨client, ⟨noted, written.filled, written.table⟩, (sourceIs_iff written).mpr rfl⟩

theorem address_of_source {env : Environment}
    (clients : ∀ client ∈ env.clients, ∃ address, AddressText client address)
    (peers : ∀ peer ∈ env.peers, ∃ address, PeerText peer address) {source : Text}
    (member : source ∈ sources env) : ∃ address, AddressText source address := by
  rw [sources, clientSources_eq clients, peerSources_eq peers] at member
  rcases List.mem_append.mp member with isClient | isHost
  · exact clients source isClient
  · have ⟨peer, isPeer, same⟩ := List.mem_map.mp isHost
    have ⟨address, written⟩ := peers peer isPeer
    exact ⟨address, same ▸ written.host⟩

/-- Where the peers are given by IPv4 addresses, the sources of a family are those listed. -/
theorem ofTable_iff {env : Environment}
    (clients : ∀ client ∈ env.clients, ∃ address, AddressText client address)
    (peers : ∀ peer ∈ env.peers, ∃ address, PeerText peer address) (table : Table) (address : Address) :
    (∃ source, ofTable env table source ∧ AddressText source address) ↔
      Listed env address ∧ tableOf address = table := by
  have inSources (source : Text) :
      source ∈ sources env ↔ source ∈ env.clients ∨ source ∈ env.peers.map peerHost := by
    rw [sources, clientSources_eq clients, peerSources_eq peers, List.mem_append]
  constructor
  · rintro ⟨source, ⟨member, -, own⟩, written⟩
    refine ⟨?_, written.table ▸ own⟩
    rcases (inSources source).mp member with isClient | isHost
    · exact Or.inl ⟨source, isClient, written⟩
    · have ⟨peer, isPeer, same⟩ := List.mem_map.mp isHost
      have ⟨other, peerWritten⟩ := peers peer isPeer
      have sameAddress : other = address := by
        have read := peerWritten.host.read
        rw [same, written.read] at read
        exact (Option.some.inj read).symm
      exact Or.inr ⟨peer, isPeer, sameAddress ▸ peerWritten⟩
  · rintro ⟨⟨client, isClient, written⟩ | ⟨peer, isPeer, written⟩, own⟩
    · have member : client ∈ sources env := (inSources client).mpr (Or.inl isClient)
      exact ⟨client, ⟨member, written.filled, written.table.trans own⟩, written⟩
    · have member : peerHost peer ∈ sources env :=
        (inSources _).mpr (Or.inr (List.mem_map_of_mem isPeer))
      exact ⟨peerHost peer, ⟨member, written.host.filled, written.host.table.trans own⟩, written.host⟩

/-- A listed client reaches the server. Where the peers are given by IPv4 addresses, a family
with a listed address is restricted to its listed addresses, and any other is not restricted. -/
theorem entrypoint_allowlist (lookup : Text → List Address) {env : Environment}
    (clients : ∀ client ∈ env.clients, ∃ address, AddressText client address) :
    (∀ client ∈ env.clients, ∀ address, AddressText client address →
      (entrypoint env).accepts lookup ⟨env.PORT, address⟩ = true) ∧
    ((∀ peer ∈ env.peers, ∃ address, PeerText peer address) → ∀ source,
      ((entrypoint env).accepts lookup ⟨env.PORT, source⟩ = true ↔
        Listed env source ∨ ∀ address, Listed env address → tableOf address ≠ tableOf source)) := by
  refine ⟨fun client member address written => accepts_client lookup clients member written, ?_⟩
  intro peers source
  have listed := ofTable_iff clients peers (tableOf source)
  have unrestricted : (¬ ∃ text, ofTable env (tableOf source) text) ↔
      ∀ address, Listed env address → tableOf address ≠ tableOf source := by
    constructor
    · intro none address isListed own
      have ⟨text, noted, _⟩ := (listed address).mpr ⟨isListed, own⟩
      exact none ⟨text, noted⟩
    · rintro unlisted ⟨text, noted⟩
      have ⟨address, written⟩ := address_of_source clients peers noted.1
      have ⟨isListed, own⟩ := (listed address).mp ⟨text, noted, written⟩
      exact unlisted address isListed own
  have named : (∃ text, ofTable env (tableOf source) text ∧ sourceIs lookup text source = true) ↔
      Listed env source := by
    constructor
    · rintro ⟨text, noted, same⟩
      have ⟨address, written⟩ := address_of_source clients peers noted.1
      have equal := (sourceIs_iff written).mp same
      exact ((listed source).mp ⟨text, noted, equal ▸ written⟩).1
    · intro isListed
      have ⟨text, noted, written⟩ := (listed source).mpr ⟨isListed, rfl⟩
      exact ⟨text, noted, (sourceIs_iff written).mpr rfl⟩
  rw [accepts_iff lookup env ⟨env.PORT, source⟩ rfl, Packet.table, unrestricted, named]
  exact or_comm

/-- One client and one peer of the default subnets. -/
def labEnvironment : Environment where
  port := text "8010"
  saeClientIps := text "172.20.127.11, 2001:db8:127::b"
  saeClientIp := []
  otherKmes := text "https://172.20.127.52:8020"

theorem addressText_of {entry : Text} {address : Address}
    (plain : (entry.all fun c => isHexDigit c || c == '.' || c == ':') = true)
    (read : numericAddress entry = some address) : AddressText entry address where
  plain c inside := by simpa [or_assoc] using List.all_eq_true.mp plain c inside
  read := read

/-- The addresses of the environment: two clients, and the host of the peer. -/
def labClient4 : Address := .v4 ⟨0xac147f0b, by decide⟩
def labClient6 : Address := .v6 ⟨0x20010db801270000000000000000000b, none, by decide⟩
def labPeer : Address := .v4 ⟨0xac147f34, by decide⟩

theorem labClient4_text : AddressText (text "172.20.127.11") labClient4 :=
  addressText_of (by decide) (by decide +kernel)

theorem labClient6_text : AddressText (text "2001:db8:127::b") labClient6 :=
  addressText_of (by decide) (by decide +kernel)

theorem labPeer_text : PeerText (text "https://172.20.127.52:8020") labPeer := by
  refine ⟨text "https://", text "172.20.127.52", text ":8020", Or.inl rfl, rfl,
    addressText_of (by decide) (by decide +kernel), rfl, ?_, solid_of_all (by decide)⟩
  rintro c ⟨⟩
  exact Or.inl rfl

theorem labEnvironment_clients :
    labEnvironment.clients = [text "172.20.127.11", text "2001:db8:127::b"] := by decide +kernel

theorem labEnvironment_peers : labEnvironment.peers = [text "https://172.20.127.52:8020"] := by decide +kernel

theorem AddressText.unique {entry : Text} {first second : Address} (one : AddressText entry first)
    (other : AddressText entry second) : first = second :=
  Option.some.inj (one.read.symm.trans other.read)

theorem listed_labEnvironment (source : Address) :
    Listed labEnvironment source ↔ source = labClient4 ∨ source = labClient6 ∨ source = labPeer := by
  rw [Listed, labEnvironment_clients, labEnvironment_peers]
  simp only [List.mem_cons, List.not_mem_nil, or_false, exists_eq_or_imp, exists_eq_left, or_assoc]
  refine or_congr ?_ (or_congr ?_ ?_)
  · exact ⟨fun written => written.unique labClient4_text, fun same => same ▸ labClient4_text⟩
  · exact ⟨fun written => written.unique labClient6_text, fun same => same ▸ labClient6_text⟩
  · exact ⟨fun written => written.host.unique labPeer_text.host, fun same => same ▸ labPeer_text⟩

/-- The server of the lab takes the two clients and the peer, and drops every other source. -/
theorem entrypoint_allowlist_lab :
    {source : Address | (entrypoint labEnvironment).accepts (fun _ => []) ⟨labEnvironment.PORT, source⟩ = true} =
      {labClient4, labClient6, labPeer} := by
  have clients : ∀ client ∈ labEnvironment.clients, ∃ address, AddressText client address := by
    rw [labEnvironment_clients]
    intro client member
    rcases List.mem_cons.mp member with rfl | last
    · exact ⟨_, labClient4_text⟩
    · exact ⟨_, List.mem_singleton.mp last ▸ labClient6_text⟩
  have peers : ∀ peer ∈ labEnvironment.peers, ∃ address, PeerText peer address := by
    rw [labEnvironment_peers]
    intro peer member
    exact ⟨_, List.mem_singleton.mp member ▸ labPeer_text⟩
  ext source
  refine Iff.trans ((entrypoint_allowlist (fun _ => []) clients).2 peers source) ?_
  rw [Set.mem_insert_iff, Set.mem_insert_iff, Set.mem_singleton_iff, ← listed_labEnvironment,
    or_iff_left_iff_imp]
  -- both families have a listed address
  intro unlisted
  cases source with
  | v4 own => exact absurd rfl (unlisted labClient4 ((listed_labEnvironment _).mpr (Or.inl rfl)))
  | v6 own => exact absurd rfl (unlisted labClient6 ((listed_labEnvironment _).mpr (Or.inr (Or.inl rfl))))

/-- Only an IPv4 client is listed. -/
def ipv4Client : Environment where
  port := text "8010"
  saeClientIps := text "172.20.127.11"
  saeClientIp := []
  otherKmes := []

/-- An IPv6 source that is not listed reaches the server. -/
theorem entrypoint_accepts_unlisted :
    (entrypoint ipv4Client).accepts (fun _ => []) ⟨ipv4Client.PORT, .v6 ⟨1, none, by decide⟩⟩ = true ∧
      Listed ipv4Client (.v4 ⟨0xac147f0b, by decide⟩) ∧ ¬ Listed ipv4Client (.v6 ⟨1, none, by decide⟩) := by
  have alone : ipv4Client.clients = [text "172.20.127.11"] := by decide +kernel
  have none : ipv4Client.peers = [] := by decide +kernel
  have read : numericAddress (text "172.20.127.11") = some (.v4 ⟨0xac147f0b, by decide⟩) := by decide +kernel
  refine ⟨by decide +kernel, Or.inl ⟨text "172.20.127.11", ?_, ?_, read⟩, ?_⟩
  · rw [alone]
    exact List.mem_cons_self
  · intro c inside
    have all : ((text "172.20.127.11").all fun c => isHexDigit c || c == '.' || c == ':') = true := by decide
    simpa [or_assoc] using List.all_eq_true.mp all c inside
  · rintro (⟨client, member, written⟩ | ⟨peer, member, -⟩)
    · rw [alone, List.mem_singleton] at member
      have other := written.read
      rw [member, read] at other
      cases other
    · rw [none] at member
      cases member

end QuantumSafe.KmeEntrypoint
