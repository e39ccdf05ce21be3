import QuantumSafe.PyText

set_option autoImplicit false

/- The constants of `lab/topology_contract.py` that the checks below read. -/
namespace QuantumSafe

open PyText

/-- `str` of a non-negative integer. -/
def natText (n : Nat) : Text := Nat.toDigits 10 n

/-- `str` of an integer. -/
def intText (n : Int) : Text := if n < 0 then '-' :: natText n.natAbs else natText n.natAbs

/-- The lab nodes of `MGMT_HOST_SUFFIXES`. -/
inductive LabNode where
  | ceos1Both
  | ceos2Pqc
  | ceos3Qkd
  | host1
  | host2
  | host3
  | radius
  | syslog
  | kmeA
  | kmeB
  | testRunner
deriving DecidableEq, Repr

def LabNode.name : LabNode → Text
  | .ceos1Both => text "ceos1-both"
  | .ceos2Pqc => text "ceos2-pqc"
  | .ceos3Qkd => text "ceos3-qkd"
  | .host1 => text "host1"
  | .host2 => text "host2"
  | .host3 => text "host3"
  | .radius => text "radius"
  | .syslog => text "syslog"
  | .kmeA => text "kme-a"
  | .kmeB => text "kme-b"
  | .testRunner => text "test-runner"

/-- `MGMT_HOST_SUFFIXES`. -/
def LabNode.hostSuffix : LabNode → Nat
  | .ceos1Both => 11
  | .ceos2Pqc => 12
  | .ceos3Qkd => 13
  | .host1 => 21
  | .host2 => 22
  | .host3 => 23
  | .radius => 50
  | .syslog => 53
  | .kmeA => 51
  | .kmeB => 52
  | .testRunner => 54

def labName : Text := text "quantum-safe"
def clabPrefix : Text := text "arista"

def containerName (node : Text) : Text :=
  clabPrefix ++ text "-" ++ labName ++ text "-" ++ node

def syslogSslProfile : Text := text "SYSLOG"
def syslogPort : Nat := 6514

end QuantumSafe
