import QuantumSafe.PyRegex
import QuantumSafe.TopologyContract

set_option autoImplicit false

/- `lab/syslog_checks.py`: the checks on logging configuration and on the
capture that watches for cleartext packets. -/
namespace QuantumSafe.SyslogChecks

open PyText PyRegex

/-- What a `SyslogCheckError` reports, with the values its message quotes. -/
inductive SyslogCheckError where
  | cleartextForwarding (node : Text) (violations : List Text)
  | missingHostLine (node expected : Text)
  | cleartextObserved (node switchIp : Text)
  | deliveryTimeout (node needle : Text)
deriving DecidableEq, Repr

/-- `\b1 packet captured\b`. -/
def capturedPattern [WordClass] : Regex :=
  .seq .wordEdge (.seq (.literal (text "1 packet captured")) .wordEdge)

def tcpdumpCapturedPacket [WordClass] (output : Text) : Bool := Regex.found capturedPattern output

/-- `logging host \S+`, searched with `re.IGNORECASE`. -/
def loggingHostPattern : Regex :=
  .seq (.literalIgnoringCase (text "logging host ")) (.many 1 nonSpace)

/-- The body of the loop of `cleartext_syslog_lines` for one raw line. -/
def cleartextLine (raw : Text) : Option Text :=
  let line := strip raw
  if !startswith line (text "logging") then none
  else
    let lower := lower line
    if contains (text "protocol udp") lower then some line
    else if contains (text "protocol tcp") lower && !contains (text "protocol tls") lower then
      some line
    else if Regex.found loggingHostPattern line && !contains (text "protocol tls") lower then
      some line
    else none

def cleartextSyslogLines (loggingConfig : Text) : List Text :=
  (splitlines loggingConfig).filterMap cleartextLine

def expectedSyslogHostLine (syslogIp : Text) : Text :=
  text "logging vrf MGMT host " ++ syslogIp ++ text " " ++ natText syslogPort ++
    text " protocol tls ssl-profile " ++ syslogSslProfile

def expectedSyslogHostLines (syslogIps : List Text) : List Text :=
  syslogIps.map expectedSyslogHostLine

def checkSwitchSyslogLoggingConfig (loggingConfig node : Text) (syslogIps : List Text) :
    Except SyslogCheckError Unit :=
  let violations := cleartextSyslogLines loggingConfig
  if violations ≠ [] then .error (.cleartextForwarding node violations)
  else
    match (expectedSyslogHostLines syslogIps).find? fun expected =>
        !contains expected loggingConfig with
    | some expected => .error (.missingHostLine node expected)
    | none => .ok ()

/-- A line reported as cleartext: it starts with `logging` and one of the three
branches takes it. -/
def Reported (line : Text) : Prop :=
  startswith line (text "logging") = true ∧
    (contains (text "protocol udp") (lower line) = true ∨
      contains (text "protocol tcp") (lower line) = true ∧
        contains (text "protocol tls") (lower line) = false ∨
      Regex.found loggingHostPattern line = true ∧
        contains (text "protocol tls") (lower line) = false)

theorem cleartextLine_eq_some (raw line : Text) :
    cleartextLine raw = some line ↔ strip raw = line ∧ Reported line := by
  unfold cleartextLine Reported
  by_cases logging : startswith (strip raw) (text "logging") = true
  · by_cases udp : contains (text "protocol udp") (lower (strip raw)) = true
    · constructor
      · intro reported
        have same : strip raw = line := by simpa [logging, udp] using reported
        subst same
        exact ⟨rfl, logging, Or.inl udp⟩
      · rintro ⟨rfl, -, -⟩
        simp [logging, udp]
    · by_cases tls : contains (text "protocol tls") (lower (strip raw)) = true
      · constructor
        · intro reported
          simp [logging, udp, tls] at reported
        · rintro ⟨rfl, -, branch⟩
          simp [udp, tls] at branch
      · by_cases tcp : contains (text "protocol tcp") (lower (strip raw)) = true
        · constructor
          · intro reported
            have same : strip raw = line := by simpa [logging, udp, tls, tcp] using reported
            subst same
            exact ⟨rfl, logging, Or.inr (Or.inl ⟨tcp, by simpa using tls⟩)⟩
          · rintro ⟨rfl, -, -⟩
            simp [logging, udp, tls, tcp]
        · constructor
          · intro reported
            have direct : Regex.found loggingHostPattern (strip raw) = true ∧ strip raw = line := by
              simpa [logging, udp, tls, tcp] using reported
            obtain ⟨direct, same⟩ := direct
            subst same
            exact ⟨rfl, logging, Or.inr (Or.inr ⟨direct, by simpa using tls⟩)⟩
          · rintro ⟨rfl, -, branch⟩
            have direct : Regex.found loggingHostPattern (strip raw) = true := by
              simpa [udp, tls, tcp] using branch
            simp [logging, udp, tls, tcp, direct]
  · constructor
    · intro reported
      simp [logging] at reported
    · rintro ⟨rfl, starts, -⟩
      exact absurd starts logging

theorem mem_cleartextSyslogLines (loggingConfig line : Text) :
    line ∈ cleartextSyslogLines loggingConfig ↔
      (∃ raw ∈ splitlines loggingConfig, strip raw = line) ∧ Reported line := by
  simp only [cleartextSyslogLines, List.mem_filterMap, cleartextLine_eq_some]
  constructor
  · rintro ⟨raw, member, same, reported⟩
    exact ⟨⟨raw, member, same⟩, reported⟩
  · rintro ⟨⟨raw, member, same⟩, reported⟩
    exact ⟨raw, member, same, reported⟩

/-- Acceptance means that no line was reported. -/
theorem checkSwitchSyslogLoggingConfig_ok {loggingConfig node : Text} {syslogIps : List Text}
    (accepted : checkSwitchSyslogLoggingConfig loggingConfig node syslogIps = .ok ()) :
    cleartextSyslogLines loggingConfig = [] := by
  unfold checkSwitchSyslogLoggingConfig at accepted
  by_cases clean : cleartextSyslogLines loggingConfig = []
  · exact clean
  · simp [clean] at accepted

end QuantumSafe.SyslogChecks
