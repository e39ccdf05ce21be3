import QuantumSafe.KmeAllowlist
import QuantumSafe.LabConstants

set_option autoImplicit false

/- The peer URL that the lab writes into `OTHER_KMES`, as the entrypoint reads it. -/
namespace QuantumSafe.KmeEntrypoint

open PyText PyIpAddress ShellText LabContract

/-- A text that `ipaddress` reads as an address, of either family and in any form. -/
structure WrittenAddress where
  shown : Text
  address : Address
  reads : match address with
    | .v4 own => parseIPv4 shown = some own.value
    | .v6 own => IPv6Address.ofText shown = some own

/-- The environment of a KME whose peer has this address. -/
def Environment.withPeer (env : Environment) (peer : WrittenAddress) (peerPort : Nat) : Environment :=
  { env with otherKmes := kmeOtherKmes peer.shown peerPort }

/-- The entrypoint extracts the address and no other host, for the table of its family. -/
structure ExtractsPeer (env : Environment) (peer : WrittenAddress) : Prop where
  sources : peerSources env = [peer.shown]
  tables : ∀ source ∈ peerSources env, firewallTable source = tableOf peer.address

theorem kmeOtherKmes_eq (peerIp : Text) (peerPort : Nat) :
    kmeOtherKmes peerIp peerPort = text "https://" ++ (peerIp ++ ':' :: natText peerPort) := by
  rw [kmeOtherKmes, List.append_assoc, List.append_assoc]
  rfl

theorem https_head (rest : Text) : (text "https://" ++ rest).head? ≠ some '-' := by
  intro dash
  cases dash

theorem solid_https : Solid (text "https://") := solid_of_all (by decide)

theorem mem_port {c : Char} {peerPort : Nat} (member : c ∈ ':' :: natText peerPort) :
    c = ':' ∨ c.isDigit = true := by
  rcases List.mem_cons.mp member with colon | digit
  · exact Or.inl colon
  · exact Or.inr (Nat.isDigit_of_mem_toDigits (by decide) (by decide) digit)

theorem solid_port (peerPort : Nat) : Solid (':' :: natText peerPort) := by
  intro c member
  rcases mem_port member with rfl | digit
  · decide
  · rw [← Bool.not_eq_true]
    intro blank
    rw [isBlank, Bool.or_eq_true, Bool.or_eq_true, beq_iff_eq, beq_iff_eq, beq_iff_eq] at blank
    rcases blank with (rfl | rfl) | rfl <;> cases digit

theorem comma_notMem_port (peerPort : Nat) : ',' ∉ ':' :: natText peerPort := by
  intro member
  rcases mem_port member with same | digit
  · cases same
  · cases digit

/-- The peers of a single URL are the words of that URL between its commas. -/
theorem peerSources_withPeer (env : Environment) (peer : WrittenAddress) (peerPort : Nat) :
    peerSources (env.withPeer peer peerPort) =
      (fields (text "https://" ++ tr ',' '\n' (peer.shown ++ ':' :: natText peerPort))).map peerHost := by
  have filled : (env.withPeer peer peerPort).otherKmes.isEmpty = false := by
    rw [Environment.withPeer, kmeOtherKmes_eq]
    rfl
  have plain : (kmeOtherKmes peer.shown peerPort).head? ≠ some '-' := by
    rw [kmeOtherKmes_eq]
    exact https_head _
  rw [peerSources, filled, Bool.not_false, if_pos rfl, wordsOf, Environment.withPeer, echo_of_head plain,
    kmeOtherKmes_eq, tr_append, tr_of_notMem (by decide)]

theorem sedHost_https (inside : Text) :
    sedHost (text "https://" ++ inside) =
      (capturedHost (text "https://" ++ inside)).getD ('h' :: sedHost (text "ttps://" ++ inside)) := by
  have whole : text "https://" ++ inside = 'h' :: (text "ttps://" ++ inside) := rfl
  rw [whole, sedHost]
  cases capturedHost ('h' :: (text "ttps://" ++ inside)) <;> rfl

/-- `sed` stops at a colon: from a word that starts a URL it never leaves a text with a
colon, unless no host follows the slashes. -/
theorem peerHost_colon {inside : Text} (colon : ':' ∈ peerHost (text "https://" ++ inside)) :
    (inside.takeWhile fun c => c != ':' && c != '/') = [] ∧
      (peerHost (text "https://" ++ inside)).head? = some 'h' := by
  have echoed : echo (text "https://" ++ inside) = text "https://" ++ inside := echo_of_head (https_head inside)
  rw [peerHost, echoed] at colon ⊢
  by_cases empty : (inside.takeWhile fun c => c != ':' && c != '/') = []
  · refine ⟨empty, ?_⟩
    have starts : startswith (text "https://" ++ inside) (text "https://") = true :=
      (startswith_iff _ _).mpr (List.prefix_append _ _)
    have other : startswith (text "https://" ++ inside) (text "http://") = false := rfl
    have unmatched : capturedHost (text "https://" ++ inside) = none := by
      simp [capturedHost, starts, other, empty]
    rw [sedHost_https, unmatched]
    rfl
  · exfalso
    have whole : inside = (inside.takeWhile fun c => c != ':' && c != '/') ++
        inside.dropWhile fun c => c != ':' && c != '/' := List.takeWhile_append_dropWhile.symm
    have ends : ∀ c, (inside.dropWhile fun c => c != ':' && c != '/').head? = some c → c = ':' ∨ c = '/' := by
      intro c first
      have stopped := List.head?_dropWhile_not (fun c => c != ':' && c != '/') inside
      rw [first] at stopped
      have refused : ¬ (c ≠ ':' ∧ c ≠ '/') := by simpa using stopped
      tauto
    have plain : ∀ c ∈ inside.takeWhile fun c => c != ':' && c != '/', (c != ':' && c != '/') = true := by
      intro c member
      exact List.mem_takeWhile_imp (p := fun c => c != ':' && c != '/') member
    have captured := capturedHost_url (Or.inl rfl) empty plain ends
    rw [List.append_assoc, ← whole] at captured
    rw [sedHost_https, captured, Option.getD_some] at colon
    have kept := List.mem_takeWhile_imp colon
    cases kept

/-- A text with a colon is never what the entrypoint extracts. -/
theorem peerSources_ne_of_colon (env : Environment) (peer : WrittenAddress) (peerPort : Nat)
    (colon : ':' ∈ peer.shown) : peerSources (env.withPeer peer peerPort) ≠ [peer.shown] := by
  intro same
  rw [peerSources_withPeer] at same
  obtain ⟨others, words⟩ := fields_front solid_https (by decide)
    (tr ',' '\n' (peer.shown ++ ':' :: natText peerPort))
  rw [words, List.map_cons, List.cons.injEq] at same
  rw [← same.1] at colon
  obtain ⟨empty, first⟩ := peerHost_colon colon
  rw [same.1] at first
  obtain ⟨rest, shown⟩ := List.head?_eq_some_iff.mp first
  -- the host starts with this letter, so it is not empty
  rw [shown, List.cons_append] at empty
  simp [tr, isBlank] at empty

/-- The entrypoint extracts exactly the peers that have IPv4 addresses. -/
theorem extractsPeer_iff (env : Environment) (peer : WrittenAddress) (peerPort : Nat) :
    ExtractsPeer (env.withPeer peer peerPort) peer ↔ tableOf peer.address = .iptables := by
  constructor
  · intro extracts
    cases isAddress : peer.address with
    | v4 own => rfl
    | v6 own =>
        have reads := peer.reads
        rw [isAddress] at reads
        exact absurd extracts.sources
          (peerSources_ne_of_colon env peer peerPort (colon_mem_of_ofText reads))
  · intro isV4
    cases isAddress : peer.address with
    | v6 own =>
        rw [isAddress] at isV4
        cases isV4
    | v4 own =>
        have reads := peer.reads
        rw [isAddress] at reads
        have written : AddressText peer.shown (.v4 own) := by
          refine ⟨fun c member => ?_, ?_⟩
          · rcases mem_of_parseIPv4 reads c member with digit | dot
            · exact Or.inl (isHexDigit_of_isDigit digit)
            · exact Or.inr (Or.inl dot)
          · simp only [numericAddress]
            rw [reads]
            simp only [own.bound, dite_true]
        have noComma : ',' ∉ peer.shown := written.notMem (by decide) (by decide) (by decide)
        have solidUrl : Solid (text "https://" ++ (peer.shown ++ ':' :: natText peerPort)) := by
          intro c member
          rcases List.mem_append.mp member with front | later
          · exact solid_https c front
          · rcases List.mem_append.mp later with inHost | inPort
            · exact written.solid c inHost
            · exact solid_port peerPort c inPort
        have only : peerSources (env.withPeer peer peerPort) = [peer.shown] := by
          rw [peerSources_withPeer, tr_append, tr_of_notMem noComma, tr_of_notMem (comma_notMem_port peerPort),
            fields_solid solidUrl (by simp), List.map_cons, List.map_nil, ← List.append_assoc,
            peerHost_url (Or.inl rfl) written.filled (written.hostChars rfl) (by simp)]
        refine ⟨only, ?_⟩
        rw [only]
        intro source member
        rw [List.mem_singleton.mp member, written.table, isAddress]

theorem kmeA_reads : IPv6Address.ofText (text "2001:db8:127::51") =
    some ⟨0x20010db8012700000000000000000051, none, by decide⟩ := by
  decide +kernel

/-- The management address of `kme-a` in the default subnet. -/
private def kmeAddress : WrittenAddress :=
  ⟨text "2001:db8:127::51", .v6 ⟨0x20010db8012700000000000000000051, none, by decide⟩, kmeA_reads⟩

/-- The first group of an IPv6 address is taken for the host. -/
theorem not_extractsPeer_ipv6 :
    ¬ ExtractsPeer (Environment.withPeer ⟨text "8010", [], [], []⟩ kmeAddress 8020) kmeAddress := by
  intro extracts
  have host : peerSources (Environment.withPeer ⟨text "8010", [], [], []⟩ kmeAddress 8020) = [text "2001"] := by
    decide +kernel
  have sources := extracts.sources
  rw [host] at sources
  exact absurd sources (by decide)

end QuantumSafe.KmeEntrypoint
