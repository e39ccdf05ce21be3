import QuantumSafe.ConfigStanzas
import QuantumSafe.PyText

set_option autoImplicit false

/- Stanzas of a switch configuration by the indentation of its lines, as EOS reads them: nothing
here depends on how a check looks for them. -/
namespace QuantumSafe.CeosContract

open PyText

def indent (line : Text) : Nat := (line.takeWhile (· == ' ')).length

def lineWords (line : Text) : List Text := (line.splitOnP isSpace).filter fun word => !word.isEmpty

def isBlankLine (line : Text) : Bool := (strip line).isEmpty

/-- A line at the top level, a comment too: it ends the stanza in front of it. -/
def endsSection (line : Text) : Bool := !isBlankLine line && indent line == 0

def isSecurityHeader (line : Text) : Bool :=
  indent line == 0 && lineWords line == [text "management", text "security"]

/-- The name in a line `ssl profile <name>`, at whatever depth it stands. -/
def sslProfileName (line : Text) : Option Text :=
  match lineWords line with
  | first :: second :: name :: _ =>
      if first = text "ssl" ∧ second = text "profile" then some name else none
  | _ => none

/-- The lines behind a header that are indented more than it is, blank lines aside. -/
def linesBelow (header : Text) (rest : List Text) : List Text :=
  rest.takeWhile fun line => isBlankLine line || indent header < indent line

structure SslProfile where
  name : Text
  lines : List Text
deriving DecidableEq, Repr

def sslProfiles : List Text → List SslProfile
  | [] => []
  | line :: rest =>
      match sslProfileName line with
      | some name => ⟨name, linesBelow line rest⟩ :: sslProfiles rest
      | none => sslProfiles rest

/-- The bodies of all `management security` stanzas. -/
def securitySections (config : Text) : List (List Text) :=
  ConfigStanzas.stanzas isSecurityHeader endsSection (config.splitOn '\n')

/-- The `ssl profile` stanzas of the `management security` sections. -/
def configuredProfiles (config : Text) : List SslProfile :=
  (securitySections config).flatMap sslProfiles

end QuantumSafe.CeosContract
