import QuantumSafe.CeosChecks

set_option autoImplicit false

/- What `cleartext_syslog_lines` reports, and what the two checks built on it
accept. -/
namespace QuantumSafe.SyslogChecks

open PyText PyRegex CeosContract

/-- `host <addr>`, in any case. -/
def hostPattern : Regex := .seq (.literalIgnoringCase (text "host ")) (.many 1 nonSpace)

/-- A stripped line that configures a remote host without TLS. -/
def RemoteWithoutTls (line : Text) : Prop :=
  startswith line (text "logging") = true ∧ Regex.found hostPattern line = true ∧
    contains (text "protocol tls") (lower line) = false

/-- The stripped lines of a configuration that configure a remote host without TLS. -/
def RemoteLine (config line : Text) : Prop :=
  line ∈ (splitlines config).map strip ∧ RemoteWithoutTls line

/-- Every such line is reported, and no configuration with one is accepted. -/
structure CatchesCleartext (config : Text) : Prop where
  reported : ∀ line, RemoteLine config line → line ∈ cleartextSyslogLines config
  refusedOnSwitch : ∀ line node syslogIps, RemoteLine config line →
    checkSwitchSyslogLoggingConfig config node syslogIps ≠ .ok ()
  refusedInContract : ∀ line ceos, RemoteLine config line → cleartextErrors ceos config ≠ []

/-- A line that names UDP or TCP, or has the host right after `logging`. -/
def Recognised (line : Text) : Prop :=
  contains (text "protocol udp") (lower line) = true ∨
    contains (text "protocol tcp") (lower line) = true ∨ Regex.found loggingHostPattern line = true

theorem reported_iff {line : Text} (remote : RemoteWithoutTls line) :
    Reported line ↔ Recognised line := by
  obtain ⟨logging, -, noTls⟩ := remote
  simp [Reported, Recognised, logging, noTls]

theorem mem_cleartextSyslogLines_iff {config line : Text} (remote : RemoteLine config line) :
    line ∈ cleartextSyslogLines config ↔ Recognised line := by
  rw [mem_cleartextSyslogLines, reported_iff remote.2]
  exact and_iff_right (List.mem_map.mp remote.1)

theorem cleartextLine_of_not_logging {raw : Text}
    (other : startswith (strip raw) (text "logging") = false) : cleartextLine raw = none := by
  rw [cleartextLine]
  simp [other]

/-- Keeping the logging lines only changes nothing. -/
theorem cleartextSyslogLines_loggingSection (config : Text) :
    cleartextSyslogLines (loggingSection config) = cleartextSyslogLines config := by
  have lines : splitlines (loggingSection config) =
      (splitlines config).filter fun line => startswith (strip line) (text "logging") := by
    apply splitlines_join
    · intro line member
      exact splitlines_unbroken config line (List.mem_of_mem_filter member)
    · intro line member empty
      have logging := (List.mem_filter.mp member).2
      rw [empty] at logging
      cases logging
  rw [cleartextSyslogLines, cleartextSyslogLines, lines, List.filterMap_filter]
  refine List.filterMap_congr fun raw _ => ?_
  by_cases logging : startswith (strip raw) (text "logging") = true
  · rw [if_pos logging]
  · rw [if_neg logging, cleartextLine_of_not_logging (Bool.eq_false_iff.mpr logging)]

theorem cleartextErrors_eq_nil {ceos : Ceos} {config : Text} :
    cleartextErrors ceos config = [] ↔ cleartextSyslogLines config = [] := by
  rw [cleartextErrors, cleartextSyslogLines_loggingSection]
  simp

/-- The report is complete exactly when every remote host line without TLS names
UDP or TCP or has no VRF between `logging` and `host`. -/
theorem catchesCleartext_iff (config : Text) :
    CatchesCleartext config ↔ ∀ line, RemoteLine config line → Recognised line := by
  constructor
  · intro complete line remote
    exact (mem_cleartextSyslogLines_iff remote).mp (complete.reported line remote)
  · intro recognised
    have reported (line : Text) (remote : RemoteLine config line) :
        line ∈ cleartextSyslogLines config :=
      (mem_cleartextSyslogLines_iff remote).mpr (recognised line remote)
    refine ⟨reported, fun line node syslogIps remote accepted => ?_, fun line ceos remote accepted => ?_⟩
    · have member := reported line remote
      rw [checkSwitchSyslogLoggingConfig_ok accepted] at member
      cases member
    · have member := reported line remote
      rw [cleartextErrors_eq_nil.mp accepted] at member
      cases member

/-- The VRF hides the host from the branch for lines without a protocol. -/
theorem not_catchesCleartext_vrf :
    ¬ CatchesCleartext (text "logging vrf MGMT host 10.0.0.1") := by
  intro complete
  have remote : RemoteLine (text "logging vrf MGMT host 10.0.0.1")
      (text "logging vrf MGMT host 10.0.0.1") := by
    refine ⟨?_, ?_, ?_, ?_⟩ <;> decide +kernel
  exact absurd (complete.reported _ remote) (by decide +kernel)

end QuantumSafe.SyslogChecks
