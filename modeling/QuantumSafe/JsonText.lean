import QuantumSafe.CeosJson
import QuantumSafe.PyValue

set_option autoImplicit false

/- Texts of decoded JSON values: `repr` as error messages quote them, and the strings that
`json.dumps` writes. -/
namespace PyJson

open PyText PyValue QuantumSafe
open CeosJson (boolText)

section Repr

variable (printable : Char → Bool)

mutual

/-- `repr(value)` -/
def Json.repr : Json → Text
  | .null => text "None"
  | .bool value => boolText value
  | .int value => intText value
  | .float shown _ => shown
  | .str value => reprText printable value
  | .list items => text "[" ++ join (text ", ") (reprs items) ++ text "]"
  | .object items => text "\x7b" ++ join (text ", ") (entryReprs items) ++ text "\x7d"

def reprs : List Json → List Text
  | [] => []
  | item :: rest => item.repr :: reprs rest

def entryReprs : List (Text × Json) → List Text
  | [] => []
  | (key, value) :: rest => (reprText printable key ++ text ": " ++ value.repr) :: entryReprs rest

end

end Repr

/-- `\uXXXX` -/
def unicodeEscape (unit : Nat) : Text := text "\\u" ++ hexDigits 4 unit

/-- One character in a string of `json.dumps`, with `ensure_ascii`. -/
def dumpsChar (c : Char) : Text :=
  if c = '"' then text "\\\""
  else if c = '\\' then text "\\\\"
  else if c = '\n' then text "\\n"
  else if c = '\r' then text "\\r"
  else if c = '\t' then text "\\t"
  else if c = Char.ofNat 8 then text "\\b"
  else if c = Char.ofNat 12 then text "\\f"
  else if 32 ≤ c.toNat ∧ c.toNat ≤ 126 then [c]
  else if c.toNat < 0x10000 then unicodeEscape c.toNat
  else
    -- a pair of surrogates
    unicodeEscape (0xd800 + (c.toNat - 0x10000) / 0x400) ++
      unicodeEscape (0xdc00 + (c.toNat - 0x10000) % 0x400)

/-- `json.dumps(s)` -/
def dumpsText (s : Text) : Text := text "\"" ++ s.flatMap dumpsChar ++ text "\""

end PyJson
