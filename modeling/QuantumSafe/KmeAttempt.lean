import QuantumSafe.Aborting
import QuantumSafe.KmeAllowlist

set_option autoImplicit false

/- `docker/kme/entrypoint.sh` where commands may fail: `iptables` and `ip6tables` end with
a status, `set -e` ends the script after a source that could not be allowed, and a family
that could not be restricted is given up. -/
namespace QuantumSafe.KmeAttempt

open PyText Aborting PacketFilter
open KmeEntrypoint (Environment Firewall Table Packet acceptRule dropRule admitted noteAll sources
  clientSources peerSources wordsOf clientText peerHost isIpv6 firewallTable)

/-- The rules in place and the number of commands issued so far. -/
structure Attempt where
  firewall : Firewall
  issued : Nat

section Script

/- Whether the command with a number ends with status 0. -/
variable (succeeds : Nat → Bool)

/-- The status of `_restrict_family`, and what it leaves behind. -/
def restrictFamily (port : Text) (table : Table) (attempt : Attempt) : Bool × Attempt :=
  if succeeds attempt.issued then
    (true, ⟨KmeEntrypoint.restrictFamily port table attempt.firewall, attempt.issued + 1⟩)
  else (false, ⟨attempt.firewall, attempt.issued + 1⟩)

/-- `_restrict_family "$table" || _wants_...=false`, if the family is wanted. -/
def restrictWanted (port : Text) (table : Table) (attempt : Attempt) : Attempt :=
  if attempt.firewall.wants table then
    match restrictFamily succeeds port table attempt with
    | (true, restricted) => restricted
    | (false, ⟨firewall, issued⟩) =>
        ⟨{ firewall with wants := Function.update firewall.wants table false }, issued⟩
  else attempt

def restrictFamilies (port : Text) (attempt : Attempt) : Attempt :=
  restrictWanted succeeds port .ip6tables (restrictWanted succeeds port .iptables attempt)

def allowSource (port source : Text) : Step Attempt := fun attempt =>
  if source.isEmpty then .ok attempt
  else if succeeds attempt.issued then
    .ok ⟨KmeEntrypoint.allowSource port source attempt.firewall, attempt.issued + 1⟩
  else .error ⟨attempt.firewall, attempt.issued + 1⟩

/-- `[ "$_wants_..." = true ] && _allow_source ...`, for the family of the source. -/
def allowWanted (port source : Text) : Step Attempt := fun attempt =>
  if isIpv6 source then
    if attempt.firewall.wants .ip6tables then allowSource succeeds port source attempt
    else .ok attempt
  else if attempt.firewall.wants .iptables then allowSource succeeds port source attempt
  else .ok attempt

def allowClients (env : Environment) : Step Attempt :=
  if !env.saeClientIps.isEmpty then
    forEach (wordsOf env.saeClientIps) fun client =>
      allowWanted succeeds env.PORT (clientText client)
  else if !env.saeClientIp.isEmpty then allowWanted succeeds env.PORT env.saeClientIp
  else .ok

def allowPeers (env : Environment) : Step Attempt :=
  if !env.otherKmes.isEmpty then
    forEach (wordsOf env.otherKmes) fun peer =>
      if !(peerHost peer).isEmpty then allowWanted succeeds env.PORT (peerHost peer) else .ok
  else .ok

/-- `.ok` where the server is started, `.error` where the script ends before. -/
def entrypoint (env : Environment) : Except Attempt Attempt :=
  andThen (allowClients succeeds env) (allowPeers succeeds env)
    (restrictFamilies succeeds env.PORT
      ⟨KmeEntrypoint.notePeers env (KmeEntrypoint.noteClients env .initial), 0⟩)

/-- A source of the family is noted. -/
def noted (env : Environment) (table : Table) : Bool :=
  (noteAll (sources env) .initial).wants table

/-- The family is noted and its `-A` command succeeds: it is the first or the second one. -/
def restricts (env : Environment) : Table → Bool
  | .iptables => noted env .iptables && succeeds 0
  | .ip6tables => noted env .ip6tables && succeeds (if noted env .iptables then 1 else 0)

end Script

section Runs

variable {succeeds : Nat → Bool}

theorem allowSource_ok {port source : Text} {attempt next : Attempt}
    (ends : allowSource succeeds port source attempt = .ok next) :
    next.firewall = KmeEntrypoint.allowSource port source attempt.firewall := by
  unfold allowSource at ends
  split at ends
  · rename_i empty
    rw [← Except.ok.inj ends, KmeEntrypoint.allowSource, if_pos empty]
  · split at ends
    · rw [← Except.ok.inj ends]
    · cases ends

theorem allowSource_error {port source : Text} {attempt stopped : Attempt}
    (ends : allowSource succeeds port source attempt = .error stopped) :
    stopped.firewall = attempt.firewall := by
  unfold allowSource at ends
  split at ends
  · cases ends
  · split at ends
    · cases ends
    · rw [← Except.error.inj ends]

theorem allowWanted_ok {port source : Text} {attempt next : Attempt}
    (ends : allowWanted succeeds port source attempt = .ok next) :
    next.firewall = KmeEntrypoint.allowWanted port source attempt.firewall := by
  unfold allowWanted at ends
  unfold KmeEntrypoint.allowWanted
  split at ends <;> rename_i family <;> simp only [family, ↓reduceIte]
  · split at ends <;> rename_i wanted <;> simp only [wanted, ↓reduceIte]
    · exact allowSource_ok ends
    · rw [← Except.ok.inj ends]
      rfl
  · split at ends <;> rename_i wanted <;> simp only [wanted, ↓reduceIte]
    · exact allowSource_ok ends
    · rw [← Except.ok.inj ends]
      rfl

theorem allowWanted_error {port source : Text} {attempt stopped : Attempt}
    (ends : allowWanted succeeds port source attempt = .error stopped) :
    stopped.firewall = attempt.firewall := by
  unfold allowWanted at ends
  split at ends
  · split at ends
    · exact allowSource_error ends
    · cases ends
  · split at ends
    · exact allowSource_error ends
    · cases ends

variable (succeeds) in
theorem restrictWanted_other (port : Text) {table other : Table} (apart : other ≠ table)
    (attempt : Attempt) :
    (restrictWanted succeeds port table attempt).firewall.wants other = attempt.firewall.wants other ∧
      (restrictWanted succeeds port table attempt).firewall.chain other =
        attempt.firewall.chain other := by
  unfold restrictWanted restrictFamily
  cases wanted : attempt.firewall.wants table with
  | false => exact ⟨rfl, rfl⟩
  | true =>
      cases works : succeeds attempt.issued with
      | false => simp [apart]
      | true => simp [KmeEntrypoint.restrictFamily, apart]

theorem restrictWanted_issued (port : Text) (table : Table) (attempt : Attempt) :
    (restrictWanted succeeds port table attempt).issued =
      if attempt.firewall.wants table then attempt.issued + 1 else attempt.issued := by
  unfold restrictWanted restrictFamily
  cases wanted : attempt.firewall.wants table with
  | false => rfl
  | true => cases works : succeeds attempt.issued <;> rfl

variable (succeeds) in
/-- A family is restricted by its rule, or it is not wanted any more. -/
theorem restrictWanted_own (port : Text) (table : Table) (attempt : Attempt)
    (empty : attempt.firewall.chain table = []) :
    let restricted := attempt.firewall.wants table && succeeds attempt.issued
    (restrictWanted succeeds port table attempt).firewall.wants table = restricted ∧
      (restrictWanted succeeds port table attempt).firewall.chain table =
        if restricted then [dropRule port] else [] := by
  unfold restrictWanted restrictFamily
  cases wanted : attempt.firewall.wants table with
  | false => simp [wanted, empty]
  | true =>
      cases works : succeeds attempt.issued with
      | false => simp [empty]
      | true => simp [wanted, KmeEntrypoint.restrictFamily, Chain.append, dropRule, empty]

variable (succeeds) in
theorem restrictFamilies_restricts (env : Environment) (table : Table) :
    let left := (restrictFamilies succeeds env.PORT ⟨noteAll (sources env) .initial, 0⟩).firewall
    left.wants table = restricts succeeds env table ∧
      left.chain table = if restricts succeeds env table then [dropRule env.PORT] else [] := by
  have empty (table : Table) : (noteAll (sources env) .initial).chain table = [] := by
    rw [KmeEntrypoint.noteAll_chain]
    rfl
  let first := restrictWanted succeeds env.PORT .iptables ⟨noteAll (sources env) .initial, 0⟩
  cases table with
  | iptables =>
      have own := restrictWanted_own succeeds env.PORT .iptables
        ⟨noteAll (sources env) .initial, 0⟩ (empty .iptables)
      have later := restrictWanted_other succeeds env.PORT
        (show Table.iptables ≠ .ip6tables by decide) first
      exact ⟨later.1.trans own.1, later.2.trans own.2⟩
  | ip6tables =>
      have before := restrictWanted_other succeeds env.PORT
        (show Table.ip6tables ≠ .iptables by decide) ⟨noteAll (sources env) .initial, 0⟩
      have own := restrictWanted_own succeeds env.PORT .ip6tables first
        (before.2.trans (empty .ip6tables))
      have issued : first.issued = if noted env .iptables then 1 else 0 :=
        restrictWanted_issued _ _ _
      rw [show first.firewall.wants .ip6tables = noted env .ip6tables from before.1, issued] at own
      exact own

/-- The loops over the clients and the peers are one loop over the sources. -/
theorem entrypoint_eq (env : Environment) :
    entrypoint succeeds env =
      forEach (sources env) (allowWanted succeeds env.PORT)
        (restrictFamilies succeeds env.PORT ⟨noteAll (sources env) .initial, 0⟩) := by
  have clients : allowClients succeeds env =
      forEach (clientSources env) (allowWanted succeeds env.PORT) := by
    rw [allowClients, clientSources]
    split
    · rw [forEach_map]
    · split
      · funext attempt
        rw [forEach, andThen]
        cases allowWanted succeeds env.PORT env.saeClientIp attempt <;> rfl
      · rfl
  have nothing : allowWanted succeeds env.PORT [] = .ok := by
    funext attempt
    simp [allowWanted, allowSource, isIpv6]
  have peers : allowPeers succeeds env = forEach (peerSources env) (allowWanted succeeds env.PORT) := by
    rw [allowPeers, peerSources]
    split
    · rw [forEach_map]
      congr 1
      funext peer
      split
      · rfl
      · rename_i empty
        have none : peerHost peer = [] := by simpa using empty
        rw [none, nothing]
    · rfl
  rw [entrypoint, clients, peers, KmeEntrypoint.noteClients_eq, KmeEntrypoint.notePeers_eq,
    ← forEach_append, ← sources]
  congr 3
  simp only [noteAll, sources, List.foldl_append]

/-- The chain that the allow commands for some sources leave. -/
theorem allowAll_restricted (env : Environment) (front : List Text) (table : Table) :
    (KmeEntrypoint.allowAll env.PORT front
      (restrictFamilies succeeds env.PORT ⟨noteAll (sources env) .initial, 0⟩).firewall).chain table =
      if restricts succeeds env table then
        ((front.filter fun source => !source.isEmpty && firewallTable source == table).map
          (acceptRule env.PORT)).reverse ++ [dropRule env.PORT]
      else [] := by
  obtain ⟨wants, chain⟩ := restrictFamilies_restricts succeeds env table
  rw [KmeEntrypoint.allowAll_chain, chain]
  have same : admitted (restrictFamilies succeeds env.PORT
      ⟨noteAll (sources env) .initial, 0⟩).firewall table =
      fun source => restricts succeeds env table && (!source.isEmpty && firewallTable source == table) := by
    funext source
    rw [admitted, wants, Bool.and_right_comm, Bool.and_comm]
  rw [same]
  cases restricts succeeds env table <;> simp

/-- The rules for the sources of a family, the last one first. -/
def accepting (port : Text) (sources : List Text) (table : Table) : Chain KmeEntrypoint.Matching :=
  ((sources.filter fun source => !source.isEmpty && firewallTable source == table).map
    (acceptRule port)).reverse

theorem accepting_accepts (port : Text) (sources : List Text) (table : Table) :
    ∀ rule ∈ accepting port sources table, rule.target = .accept := by
  intro rule member
  obtain ⟨source, -, rfl⟩ := List.mem_map.mp (List.mem_reverse.mp member)
  rfl

theorem accepting_subset {port : Text} {front sources : List Text} (among : front <+: sources)
    (table : Table) : accepting port front table ⊆ accepting port sources table := by
  intro rule member
  obtain ⟨source, inside, rfl⟩ := List.mem_map.mp (List.mem_reverse.mp member)
  have kept := (among.filter fun source => !source.isEmpty && firewallTable source == table).subset inside
  exact List.mem_reverse.mpr (List.mem_map_of_mem kept)

/-- The chain where every command succeeds. -/
theorem complete_chain (env : Environment) (table : Table) :
    (KmeEntrypoint.entrypoint env).chain table =
      if noted env table then accepting env.PORT (sources env) table ++ [dropRule env.PORT] else [] := by
  rw [KmeEntrypoint.entrypoint_eq, KmeEntrypoint.allowAll_chain, KmeEntrypoint.restrictFamilies_chain,
    KmeEntrypoint.noteAll_chain]
  have same : admitted (KmeEntrypoint.restrictFamilies env.PORT (noteAll (sources env) .initial)) table =
      fun source => noted env table && (!source.isEmpty && firewallTable source == table) := by
    funext source
    rw [admitted, KmeEntrypoint.restrictFamilies_wants, ← noted, Bool.and_right_comm, Bool.and_comm]
  rw [same, ← noted]
  cases noted env table <;> simp [accepting, Firewall.initial]

theorem noted_of_restricts {env : Environment} {table : Table}
    (restricted : restricts succeeds env table = true) : noted env table = true := by
  cases table <;> exact (Bool.and_eq_true _ _ |>.mp restricted).1

/-- What a packet meets when the allow commands for some of the sources have run. -/
theorem accepts_part_iff (lookup : Text → List PyIpAddress.Address) (env : Environment)
    (front : List Text) (packet : Packet) :
    (KmeEntrypoint.allowAll env.PORT front
      (restrictFamilies succeeds env.PORT ⟨noteAll (sources env) .initial, 0⟩).firewall).accepts
        lookup packet = true ↔
      restricts succeeds env packet.table = false ∨
        verdict (KmeEntrypoint.hits lookup) .accept
          (accepting env.PORT front packet.table ++ [dropRule env.PORT]) packet = .accept := by
  rw [Firewall.accepts, allowAll_restricted, beq_iff_eq]
  cases restricts succeeds env packet.table <;> simp [accepting]

/-- Where the server is started, every family accepts what its complete allowlist accepts, or
was given up as a whole. Where the script ends before, a restricted family accepts nothing
beyond its allowlist. -/
theorem entrypoint_fails_closed (lookup : Text → List PyIpAddress.Address) (succeeds : Nat → Bool)
    (env : Environment) (packet : Packet) :
    (∀ started, entrypoint succeeds env = .ok started →
      (started.firewall.accepts lookup packet = true ↔
        restricts succeeds env packet.table = false ∨
          (KmeEntrypoint.entrypoint env).accepts lookup packet = true)) ∧
    ∀ stopped, entrypoint succeeds env = .error stopped →
      restricts succeeds env packet.table = true →
        stopped.firewall.accepts lookup packet = true →
          (KmeEntrypoint.entrypoint env).accepts lookup packet = true := by
  have acts := @forEach_acts Attempt Text Firewall Attempt.firewall
    (fun firewall source => KmeEntrypoint.allowWanted env.PORT source firewall)
    (allowWanted succeeds env.PORT) (fun _ _ _ => allowWanted_ok)
    (fun _ _ _ => allowWanted_error) (sources env)
    (restrictFamilies succeeds env.PORT ⟨noteAll (sources env) .initial, 0⟩)
  have complete (restricted : restricts succeeds env packet.table = true) :
      (KmeEntrypoint.entrypoint env).accepts lookup packet = true ↔
        verdict (KmeEntrypoint.hits lookup) .accept
          (accepting env.PORT (sources env) packet.table ++ [dropRule env.PORT]) packet = .accept := by
    rw [Firewall.accepts, complete_chain, if_pos (noted_of_restricts restricted), beq_iff_eq]
  rw [← entrypoint_eq] at acts
  constructor
  · intro started ends
    have all := acts.1 started ends
    rw [all, ← KmeEntrypoint.allowAll, accepts_part_iff]
    cases restricted : restricts succeeds env packet.table with
    | false => simp
    | true => simp [complete restricted]
  · intro stopped ends restricted accepted
    obtain ⟨front, among, part⟩ := acts.2 stopped ends
    rw [part, ← KmeEntrypoint.allowAll, accepts_part_iff, restricted] at accepted
    rw [complete restricted, verdict_accepts_iff (accepting_accepts _ _ _)]
    have accepted := accepted.resolve_left (by simp)
    rw [verdict_accepts_iff (accepting_accepts _ _ _)] at accepted
    refine accepted.imp_left ?_
    rintro ⟨rule, member, hit⟩
    exact ⟨rule, accepting_subset among _ member, hit⟩

end Runs

end QuantumSafe.KmeAttempt
