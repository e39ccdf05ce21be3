import QuantumSafe.TlsWire

set_option autoImplicit false

/- `lab/report.py`: the status markers of the live checks and the counts that they record. -/
namespace QuantumSafe.LabReport

open PyText
open TlsWire (CheckStatus)

structure CheckStats where
  ok : Nat
  warn : Nat
  fail : Nat
  skip : Nat
deriving DecidableEq, Repr

/-- `CheckStats()` -/
def CheckStats.none : CheckStats := ⟨0, 0, 0, 0⟩

def CheckStats.record (stats : CheckStats) : CheckStatus → CheckStats
  | .ok => { stats with ok := stats.ok + 1 }
  | .warn => { stats with warn := stats.warn + 1 }
  | .fail => { stats with fail := stats.fail + 1 }
  | .skip => { stats with skip := stats.skip + 1 }

/-- What the calls of `report_check` since the last `reset_check_stats` leave. -/
def recorded (statuses : List CheckStatus) : CheckStats := statuses.foldl CheckStats.record CheckStats.none

def iconOk : Text := text "✓"
def iconWarn : Text := text "⚠"
def iconFail : Text := text "✗"
def iconSkip : Text := text "−"

def green : Text := text "\x1b[32m"
def brightOrange : Text := text "\x1b[38;5;214m"
def brightRed : Text := text "\x1b[91m"
def boldOn : Text := text "\x1b[1m"
def reset : Text := text "\x1b[0m"

/-- `_STATUS_ICONS` -/
def statusIcon : CheckStatus → Text
  | .ok => iconOk
  | .warn => iconWarn
  | .fail => iconFail
  | .skip => iconSkip

section

variable (colors : Bool)

def bold (shown : Text) : Text := if colors then boldOn ++ shown ++ reset else shown

def statusMarker (status : CheckStatus) : Text :=
  let icon := statusIcon status
  if !colors then icon
  else
    match status with
    | .ok => green ++ icon ++ reset
    | .warn => boldOn ++ brightOrange ++ icon ++ reset
    | _ => boldOn ++ brightRed ++ icon ++ reset

end

/-- The characters between `\033[` and `m` in `_ANSI_ESCAPE`. -/
def isAnsiParameter (c : Char) : Bool := c.isDigit || c == ';'

/-- The length of an escape at the start of a text. The group of the pattern adds nothing to
the repeated class before it. -/
def ansiLength : Text → Option Nat
  | '\x1b' :: '[' :: rest =>
      let parameters := rest.takeWhile isAnsiParameter
      if (rest.drop parameters.length).head? = some 'm' then some (parameters.length + 3) else none
  | _ => none

/-- `_ANSI_ESCAPE.sub("", text)`, with a number of characters still to skip. -/
def withoutAnsiFrom : Nat → Text → Text
  | _, [] => []
  | skip + 1, _ :: rest => withoutAnsiFrom skip rest
  | 0, c :: rest =>
      match ansiLength (c :: rest) with
      | some length => withoutAnsiFrom (length - 1) rest
      | none => c :: withoutAnsiFrom 0 rest

def visibleLen (shown : Text) : Nat := (withoutAnsiFrom 0 shown).length

def alignRight (shown : Text) (width : Nat) : Text :=
  List.replicate (width - visibleLen shown) ' ' ++ shown

/- The counts of a run -/

def CheckStats.add (first second : CheckStats) : CheckStats :=
  ⟨first.ok + second.ok, first.warn + second.warn, first.fail + second.fail, first.skip + second.skip⟩

theorem foldl_record (statuses : List CheckStatus) (stats : CheckStats) :
    statuses.foldl CheckStats.record stats = stats.add (recorded statuses) := by
  induction statuses generalizing stats with
  | nil => rfl
  | cons status rest ih =>
      have head : recorded (status :: rest) = (CheckStats.none.record status).add (recorded rest) := ih _
      rw [List.foldl_cons, ih, head]
      cases status <;> simp [CheckStats.record, CheckStats.add, CheckStats.none] <;> omega

theorem recorded_append (before after : List CheckStatus) :
    recorded (before ++ after) = (recorded before).add (recorded after) := by
  rw [recorded, List.foldl_append, foldl_record]
  rfl

/-- The counts of a run without failures and warnings. -/
theorem recorded_replicate_ok (count : Nat) :
    recorded (List.replicate count .ok) = ⟨count, 0, 0, 0⟩ := by
  induction count with
  | zero => rfl
  | succ count ih =>
      rw [List.replicate_succ', recorded_append, ih]
      rfl

theorem recorded_warn {statuses : List CheckStatus} (member : .warn ∈ statuses) :
    (recorded statuses).warn ≠ 0 := by
  obtain ⟨before, after, rfl⟩ := List.append_of_mem member
  have head : recorded (.warn :: after) = (CheckStats.none.record .warn).add (recorded after) :=
    foldl_record after _
  rw [recorded_append, head]
  simp only [CheckStats.add, CheckStats.record, CheckStats.none]
  omega

end QuantumSafe.LabReport
