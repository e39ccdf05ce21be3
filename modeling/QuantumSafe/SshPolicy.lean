import QuantumSafe.CeosMessages
import QuantumSafe.CeosStanzas

set_option autoImplicit false

/- What `validate_ceos_configs` finds out about `management ssh`. -/
namespace QuantumSafe.CeosContract

open PyText PyRegex SymbolicText

/-- The checks whose errors are about `management ssh`. -/
def sshChecks : List Check :=
  [ wants (lit "management ssh") (lit "must configure management ssh"),
    wants (lit "key-exchange " ++ chars sshPqcKex)
      (lit "must configure SSH PQC key exchange (" ++ chars sshPqcKex ++ lit ")"),
    sshCipher, sshMac, sshVrf, sshDefaultShutdown ]

/-- None of the errors of a check is appended. -/
def Check.Silent (values : MgmtValues) (ceos : Ceos) (config : Text) (check : Check) : Prop :=
  ∀ message, check.message = some message →
    .broken ceos (fill values message) ∉ configErrors values ceos config

/-- Some test on `management ssh` does not find what it looks for. -/
inductive SshRefused (config : Text) : Prop
  | stanza (absent : contains (text "management ssh") config = false)
  | keyExchange (absent : contains (text "key-exchange " ++ sshPqcKex) config = false)
  | cipher (absent : Regex.found sshCipherPattern config = false)
  | mac (absent : contains (text "mac " ++ sshPqcMacs) config = false)
  | vrf (absent : Regex.found sshVrfPattern config = false)
  | shutdown (absent : Regex.found sshDefaultShutdownPattern config = false)

def isSshHeader (line : Text) : Bool := rstrip line == text "management ssh"

/-- A line without indentation. -/
def endsSsh (line : Text) : Bool := !line.isEmpty && indent line == 0

def isKeyExchange (line : Text) : Bool := strip line == text "key-exchange " ++ sshPqcKex

def isCipher (line : Text) : Bool := strip line == text "cipher " ++ sshPqcCiphers

/-- `shutdown` at the level of the stanza. -/
def isSshShutdown (line : Text) : Bool := indent line == 3 && strip line == text "shutdown"

def isSshVrf (line : Text) : Bool := indent line == 3 && strip line == text "vrf MGMT"

def endsSshVrf (line : Text) : Bool := !line.isEmpty && decide (indent line ≤ 3)

def isNoShutdown (line : Text) : Bool := strip line == text "no shutdown"

def sshStanzas (config : Text) : List (List Text) :=
  ConfigStanzas.stanzas isSshHeader endsSsh (config.splitOn '\n')

/-- The SSH security policy, in the stanza itself. -/
structure SshPolicy (config : Text) : Prop where
  keyExchange : ConfigStanzas.Within isSshHeader endsSsh isKeyExchange (config.splitOn '\n')
  cipher : ConfigStanzas.Within isSshHeader endsSsh isCipher (config.splitOn '\n')
  shutdown : ConfigStanzas.Within isSshHeader endsSsh isSshShutdown (config.splitOn '\n')
  vrf : ∃ stanza ∈ sshStanzas config, ConfigStanzas.Within isSshVrf endsSshVrf isNoShutdown stanza

/-- The ways in which a configuration that the tests accept departs from the policy. -/
inductive SshStray (config : Text) : Prop
  /-- Where the words stand, an algorithm follows, or the line is one of another stanza. -/
  | keyExchange (cut : ConfigStanzas.CutOff isSshHeader endsSsh isKeyExchange (config.splitOn '\n'))
  /-- The cipher line is one of another stanza. -/
  | cipher (cut : ConfigStanzas.CutOff isSshHeader endsSsh isCipher (config.splitOn '\n'))
  /-- The `shutdown` is one of another stanza or of a block within the stanza. -/
  | shutdown (cut : ConfigStanzas.CutOff isSshHeader endsSsh isSshShutdown (config.splitOn '\n'))
  /-- The `no shutdown` is one of another VRF or of another stanza. -/
  | vrf (cut : ∀ stanza ∈ sshStanzas config, ConfigStanzas.CutOff isSshVrf endsSshVrf isNoShutdown stanza)

/-- A configuration without errors about `management ssh` follows the policy. -/
def EnforcesSshPolicy (values : MgmtValues) (ceos : Ceos) (config : Text) : Prop :=
  (∀ check ∈ sshChecks, check.Silent values ceos config) → SshPolicy config

theorem sshPolicy_iff (config : Text) : SshPolicy config ↔ ¬ SshStray config := by
  constructor
  · intro policy stray
    cases stray with
    | keyExchange cut => exact ConfigStanzas.within_iff.mp policy.keyExchange cut
    | cipher cut => exact ConfigStanzas.within_iff.mp policy.cipher cut
    | shutdown cut => exact ConfigStanzas.within_iff.mp policy.shutdown cut
    | vrf cut =>
        have ⟨stanza, member, found⟩ := policy.vrf
        exact ConfigStanzas.within_iff.mp found (cut stanza member)
  · intro kept
    refine ⟨?_, ?_, ?_, ?_⟩
    · exact ConfigStanzas.within_iff.mpr fun cut => kept (.keyExchange cut)
    · exact ConfigStanzas.within_iff.mpr fun cut => kept (.cipher cut)
    · exact ConfigStanzas.within_iff.mpr fun cut => kept (.shutdown cut)
    · by_contra none
      refine kept (.vrf fun stanza member => ?_)
      by_contra found
      exact none ⟨stanza, member, ConfigStanzas.within_iff.mpr found⟩

/-- No other check has a message of these. -/
theorem sshChecks_only (ceos : Ceos) : ∀ check ∈ sshChecks, ∃ message, check.message = some message ∧
    (checks ceos).filter (Check.mayRaise message) = [check] := by
  intro check member
  simp only [sshChecks, List.mem_cons, List.not_mem_nil, or_false] at member
  cases ceos <;> rcases member with rfl | rfl | rfl | rfl | rfl | rfl <;> exact ⟨_, rfl, rfl⟩

theorem silent_iff {ceos : Ceos} {check : Check} (values : MgmtValues) (config : Text)
    (member : check ∈ sshChecks) :
    check.Silent values ceos config ↔ check.errors values ceos config = [] := by
  have ⟨message, named, only⟩ := sshChecks_only ceos check member
  have appended : .broken ceos (fill values message) ∈ configErrors values ceos config ↔
      check.errors values ceos config ≠ [] := mem_configErrors_iff named only
  constructor
  · intro silent
    by_contra some
    exact silent message named (appended.mpr some)
  · intro none other named' inside
    rw [named] at named'
    cases named'
    exact appended.mp inside none

theorem wants_errors_eq_nil {values : MgmtValues} {ceos : Ceos} {config needle : Text} {message : FString} :
    (wants (chars needle) message).errors values ceos config = [] ↔ contains needle config = true := by
  rw [wants, Check.errors, Rule.errors, fill_chars, Scope.part]
  split
  · rename_i found
    exact iff_of_true rfl found
  · rename_i missing
    exact iff_of_false (List.cons_ne_nil _ _) missing

theorem found_errors_eq_nil {values : MgmtValues} {ceos : Ceos} {config : Text} {pattern : Regex}
    {message : FString} :
    (Check.found pattern message).errors values ceos config = [] ↔ Regex.found pattern config = true := by
  rw [Check.errors]
  split
  · rename_i found
    exact iff_of_true rfl found
  · rename_i missing
    exact iff_of_false (List.cons_ne_nil _ _) missing

theorem sshChecks_silent_iff (values : MgmtValues) (ceos : Ceos) (config : Text) :
    (∀ check ∈ sshChecks, check.Silent values ceos config) ↔ ¬ SshRefused config := by
  have tests : (∀ check ∈ sshChecks, check.errors values ceos config = []) ↔
      contains (text "management ssh") config = true ∧
        contains (text "key-exchange " ++ sshPqcKex) config = true ∧
        Regex.found sshCipherPattern config = true ∧ contains (text "mac " ++ sshPqcMacs) config = true ∧
        Regex.found sshVrfPattern config = true ∧ Regex.found sshDefaultShutdownPattern config = true := by
    have key : lit "key-exchange " ++ chars sshPqcKex = chars (text "key-exchange " ++ sshPqcKex) := rfl
    have mac : lit "mac " ++ chars sshPqcMacs = chars (text "mac " ++ sshPqcMacs) := rfl
    have header : lit "management ssh" = chars (text "management ssh") := rfl
    simp only [sshChecks, List.forall_mem_cons, List.not_mem_nil, false_implies, implies_true, and_true, sshCipher,
      sshMac, sshVrf, sshDefaultShutdown, key, mac, header, wants_errors_eq_nil, found_errors_eq_nil]
  have silent : (∀ check ∈ sshChecks, check.Silent values ceos config) ↔
      ∀ check ∈ sshChecks, check.errors values ceos config = [] :=
    forall_congr' fun check => forall_congr' fun member => silent_iff values config member
  rw [silent, tests]
  constructor
  · rintro ⟨stanza, keyExchange, cipher, mac, vrf, shutdown⟩ refused
    cases refused <;> simp_all only [Bool.false_eq_true]
  · intro accepted
    refine ⟨?_, ?_, ?_, ?_, ?_, ?_⟩ <;> by_contra absent
    · exact accepted (.stanza (Bool.eq_false_iff.mpr absent))
    · exact accepted (.keyExchange (Bool.eq_false_iff.mpr absent))
    · exact accepted (.cipher (Bool.eq_false_iff.mpr absent))
    · exact accepted (.mac (Bool.eq_false_iff.mpr absent))
    · exact accepted (.vrf (Bool.eq_false_iff.mpr absent))
    · exact accepted (.shutdown (Bool.eq_false_iff.mpr absent))

/-- The tests look at the whole text, so they accept lines of other stanzas, and they do
not see what follows the algorithm. -/
theorem enforcesSshPolicy_iff (values : MgmtValues) (ceos : Ceos) (config : Text) :
    EnforcesSshPolicy values ceos config ↔ SshRefused config ∨ ¬ SshStray config := by
  rw [EnforcesSshPolicy, sshChecks_silent_iff, sshPolicy_iff, or_iff_not_imp_left]

/-- A classical algorithm follows the hybrid one. -/
def secondKeyExchange : Text :=
  text "management ssh\n   key-exchange mlkem768x25519-sha256 curve25519-sha256\n" ++
    text "   cipher aes256-gcm@openssh.com\n   mac hmac-sha2-256 hmac-sha2-512\n" ++
    text "   shutdown\n   !\n   vrf MGMT\n      no shutdown\n!\n"

theorem not_enforcesSshPolicy_secondKeyExchange :
    ¬ EnforcesSshPolicy (fun _ => []) .ceos2Pqc secondKeyExchange := by
  intro enforced
  have accepted : ∀ check ∈ sshChecks, check.Silent (fun _ => []) .ceos2Pqc secondKeyExchange := by
    rw [sshChecks_silent_iff]
    intro refused
    cases refused with
    | stanza absent => exact absurd absent (by decide +kernel)
    | keyExchange absent => exact absurd absent (by decide +kernel)
    | cipher absent => exact absurd absent (by decide +kernel)
    | mac absent => exact absurd absent (by decide +kernel)
    | vrf absent => exact absurd absent (by decide +kernel)
    | shutdown absent => exact absurd absent (by decide +kernel)
  have ⟨stanza, member, line, inside, exact_⟩ := (enforced accepted).keyExchange
  have none : (sshStanzas secondKeyExchange).all fun stanza =>
      stanza.all fun line => !isKeyExchange line := by decide +kernel
  have other := List.all_eq_true.mp (List.all_eq_true.mp none stanza member) line inside
  rw [Bool.not_eq_true'] at other
  exact absurd exact_ (Bool.eq_false_iff.mp other)

end QuantumSafe.CeosContract
