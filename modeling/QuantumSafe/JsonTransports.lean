import QuantumSafe.CeosJson
import QuantumSafe.PyInt

set_option autoImplicit false

/- What `lab/ceos_json.py` reads from `show management api ...`: the ssl profile, the port and
the addresses of a transport. -/
namespace QuantumSafe.JsonTransports

open PyText PyJson PyInt CeosJson

/-- `json_find_value(obj, "transports").get("default")`, where both are dictionaries. -/
def defaultTransport (tree : Json) : Option (List (Text × Json)) :=
  match jsonFindValue (text "transports") tree with
  | some (.object transports) =>
      match field (text "default") transports with
      | .object entry => some entry
      | _ => none
  | _ => none

/-- The fields at the top level. -/
def topFields : Json → Option (List (Text × Json))
  | .object items => some items
  | _ => none

def profileField (fields : List (Text × Json)) : Option Text :=
  match field (text "sslProfile") fields with
  | .str profile => if profile = [] then none else some profile
  | _ => none

def jsonTransportSslProfile (tree : Json) : Option Text :=
  ((defaultTransport tree).bind profileField).or ((topFields tree).bind profileField)

/-- `str.isdigit` on one character: the decimal digits, and digits that `int` does not read. -/
def isDigitChar (c : Char) : Bool :=
  let n := c.toNat
  isDecimal c || n == 0xb2 || n == 0xb3 || n == 0xb9 || (0x1369 ≤ n && n ≤ 0x1371) || n == 0x19da ||
    n == 0x2070 || (0x2074 ≤ n && n ≤ 0x2079) || (0x2080 ≤ n && n ≤ 0x2089) ||
    (0x2460 ≤ n && n ≤ 0x2468) || (0x2474 ≤ n && n ≤ 0x247c) || (0x2488 ≤ n && n ≤ 0x2490) ||
    n == 0x24ea || (0x24f5 ≤ n && n ≤ 0x24fd) || n == 0x24ff || (0x2776 ≤ n && n ≤ 0x277e) ||
    (0x2780 ≤ n && n ≤ 0x2788) || (0x278a ≤ n && n ≤ 0x2792) || (0x10a40 ≤ n && n ≤ 0x10a43) ||
    (0x10e60 ≤ n && n ≤ 0x10e68) || (0x11052 ≤ n && n ≤ 0x1105a) || (0x1f100 ≤ n && n ≤ 0x1f10a)

/-- What `isinstance(port, int)` lets through: a Boolean is one, too. -/
inductive Port where
  | number (value : Int)
  | flag (value : Bool)
deriving DecidableEq

/-- `str(port)` and `repr(port)` -/
def Port.shown : Port → Text
  | .number value => intText value
  | .flag value => boolText value

/-- `port == number` -/
def Port.equals (number : Nat) : Port → Bool
  | .number value => value == (number : Int)
  | .flag value => (if value then 1 else 0) == number

/-- A port field, or nothing to go on with, or the `ValueError` of `int`. -/
def portField (fields : List (Text × Json)) : Except Unit (Option Port) :=
  match field (text "port") fields with
  | .int value => .ok (some (.number value))
  | .bool value => .ok (some (.flag value))
  | .str shown =>
      if shown ≠ [] ∧ shown.all isDigitChar = true then
        match parseInt shown with
        | some value => .ok (some (.number value))
        | none => .error ()
      else .ok none
  | _ => .ok none

def jsonTransportPort (tree : Json) : Except Unit (Option Port) := do
  match ← (((defaultTransport tree).map portField).getD (.ok none)) with
  | some port => return some port
  | none => ((topFields tree).map portField).getD (.ok none)

/-- An entry of a list of addresses. -/
def addressOf : Json → Option Text
  | .str addr => some addr
  | .object fields =>
      let address := field (text "address") fields
      match if address.truthy then address else field (text "ip") fields with
      | .str addr => some addr
      | _ => none
  | _ => none

def addressKeys : List Text := [text "serverAddresses", text "addresses", text "listenAddresses"]

def jsonServerAddresses (tree : Json) : List Text :=
  (addressKeys.flatMap fun key =>
    match jsonFindValue key tree with
    | some (.list items) => items.filterMap addressOf
    | _ => []) ++
  match jsonFindValue (text "server") tree with
  | some (.str server) => [server]
  | _ => []

end QuantumSafe.JsonTransports
