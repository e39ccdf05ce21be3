import QuantumSafe.CeosMessages
import QuantumSafe.ConfigStanzas

set_option autoImplicit false

/- The references to an ssl profile or a mac security profile that
`validate_ceos_configs` looks for behind a marker, and the stanzas they belong to. -/
namespace QuantumSafe.CeosContract

open PyText PyRegex SymbolicText

/-- `if words not in text.split(header, 1)[-1]` with the message it appends. -/
structure Reference where
  header : Text
  words : Text
  message : FString

def Reference.check (reference : Reference) : Check :=
  wantsIn (.after reference.header) (chars reference.words) reference.message

def transportReference (api profile : Text) (service : FString) : Reference where
  header := text "management api " ++ api
  words := text "ssl profile " ++ profile
  message := service ++ lit " transport must reference ssl profile " ++ chars profile

def interfaceReference (link : QuadraLink) : Reference where
  header := text "interface " ++ link.intf
  words := text "mac security profile " ++ link.profile
  message := chars link.intf ++ lit " must apply mac security profile " ++ chars link.profile

def transportReferences : List Reference :=
  [ transportReference (text "gnmi") gnmiSslProfile (lit "gNMI"),
    transportReference (text "restconf") restconfSslProfile (lit "RESTCONF"),
    transportReference (text "eos-sdk-rpc") gnmiSslProfile (lit "eos-sdk-rpc") ]

def references : Ceos → List Reference
  | .ceos1Both => transportReferences ++ [interfaceReference quadraMasterLink]
  | .ceos2Pqc => transportReferences
  | .ceos3Qkd => transportReferences ++ [interfaceReference quadraSlaveLink]

/-- `f"{ceos}.cfg {message}"` -/
def Reference.violation (values : MgmtValues) (ceos : Ceos) (reference : Reference) : Violation :=
  .broken ceos (fill values reference.message)

/-- The line of a configuration that opens a stanza, alone but for trailing blanks. -/
def isHeader (header line : Text) : Bool := rstrip line == header

/-- A `!` line at the top level. -/
def isMark (line : Text) : Bool := startswith line (text "!")

/-- The words stand in a stanza of the header. -/
def Reference.InStanza (reference : Reference) (config : Text) : Prop :=
  ConfigStanzas.Within (isHeader reference.header) isMark (contains reference.words) (config.splitOn '\n')

/-- Every line with the words is separated from the header by a `!` line, or is one. -/
def Reference.Stray (reference : Reference) (config : Text) : Prop :=
  ConfigStanzas.CutOff (isHeader reference.header) isMark (contains reference.words) (config.splitOn '\n')

/-- The words do not stand behind the first mention of the header. -/
def Reference.Missed (reference : Reference) (config : Text) : Prop :=
  contains reference.words (splitTail reference.header config) = false

/-- A configuration without errors about its references has each in its own stanza. -/
def EnforcesReferences (values : MgmtValues) (ceos : Ceos) (config : Text) : Prop :=
  (∀ reference ∈ references ceos, reference.violation values ceos ∉ configErrors values ceos config) →
    ∀ reference ∈ references ceos, reference.InStanza config

theorem reference_only {ceos : Ceos} {reference : Reference} (member : reference ∈ references ceos) :
    (checks ceos).filter (Check.mayRaise reference.message) = [reference.check] := by
  have all : ∀ reference ∈ references ceos,
      (checks ceos).filter (Check.mayRaise reference.message) = [reference.check] := by
    cases ceos with
    | ceos1Both =>
        refine List.forall_mem_cons.mpr ⟨rfl, List.forall_mem_cons.mpr ⟨rfl, ?_⟩⟩
        exact List.forall_mem_cons.mpr ⟨rfl, List.forall_mem_singleton.mpr rfl⟩
    | ceos2Pqc =>
        refine List.forall_mem_cons.mpr ⟨rfl, List.forall_mem_cons.mpr ⟨rfl, ?_⟩⟩
        exact List.forall_mem_singleton.mpr rfl
    | ceos3Qkd =>
        refine List.forall_mem_cons.mpr ⟨rfl, List.forall_mem_cons.mpr ⟨rfl, ?_⟩⟩
        exact List.forall_mem_cons.mpr ⟨rfl, List.forall_mem_singleton.mpr rfl⟩
  exact all reference member

theorem reference_violation_iff {ceos : Ceos} {reference : Reference} (values : MgmtValues) (config : Text)
    (member : reference ∈ references ceos) :
    reference.violation values ceos ∈ configErrors values ceos config ↔ reference.Missed config := by
  rw [Reference.violation, mem_configErrors_iff rfl (reference_only member), Reference.check, wantsIn,
    Check.errors, Rule.errors, fill_chars, Scope.part, Reference.Missed]
  split
  · rename_i found
    rw [found]
    exact iff_of_false (fun some => some rfl) Bool.noConfusion
  · rename_i missing
    exact iff_of_true (List.cons_ne_nil _ _) (Bool.not_eq_true _ ▸ missing)

/-- The tests look at everything behind the first mention of a header, so they accept
the words of another stanza. -/
theorem enforcesReferences_iff (values : MgmtValues) (ceos : Ceos) (config : Text) :
    EnforcesReferences values ceos config ↔
      (∃ reference ∈ references ceos, reference.Missed config) ∨
        ∀ reference ∈ references ceos, ¬ reference.Stray config := by
  have accepted : (∀ reference ∈ references ceos,
      reference.violation values ceos ∉ configErrors values ceos config) ↔
      ¬ ∃ reference ∈ references ceos, reference.Missed config := by
    rw [not_exists]
    refine forall_congr' fun reference => ?_
    rw [not_and]
    exact forall_congr' fun member => not_congr (reference_violation_iff values config member)
  have placed (reference : Reference) : reference.InStanza config ↔ ¬ reference.Stray config :=
    ConfigStanzas.within_iff
  rw [EnforcesReferences, accepted, ← or_iff_not_imp_left]
  simp only [placed]

/-- No stanza of an API has its profile; the profiles are defined behind them. -/
def undefinedTransports : Text :=
  text "management api gnmi\n   transport grpc default\n      vrf MGMT\n!\n" ++
    text "management api restconf\n   transport https restconf\n!\n" ++
    text "management api eos-sdk-rpc\n   transport grpc default\n!\n" ++
    text "management security\n   ssl profile GNMI\n   !\n   ssl profile RESTCONF\n!\n"

theorem not_enforcesReferences_undefinedTransports :
    ¬ EnforcesReferences (fun _ => []) .ceos2Pqc undefinedTransports := by
  intro enforced
  have accepted : ∀ reference ∈ references .ceos2Pqc,
      reference.violation (fun _ => []) .ceos2Pqc ∉
        configErrors (fun _ => []) .ceos2Pqc undefinedTransports := by
    intro reference member
    rw [reference_violation_iff _ _ member, Reference.Missed]
    have found : (references .ceos2Pqc).all fun reference =>
        contains reference.words (splitTail reference.header undefinedTransports) := by decide +kernel
    rw [List.all_eq_true.mp found reference member]
    exact Bool.noConfusion
  have ⟨stanza, member, line, inside, wanted⟩ := enforced accepted _ List.mem_cons_self
  have none : (ConfigStanzas.stanzas (isHeader (text "management api gnmi")) isMark
      (undefinedTransports.splitOn '\n')).all fun stanza =>
        stanza.all fun line => !contains (text "ssl profile GNMI") line := by decide +kernel
  have absent := List.all_eq_true.mp (List.all_eq_true.mp none stanza member) line inside
  rw [Bool.not_eq_true'] at absent
  exact absurd wanted (Bool.eq_false_iff.mp absent)

end QuantumSafe.CeosContract
