import QuantumSafe.TopologyContract

set_option autoImplicit false

/- Values that `yaml.safe_load` returns, and what a program that does not check their
types gets from them. -/
namespace PyValue

open PyText QuantumSafe

/-- A float is kept as its `str`, and a date or a time as its `str` and its `repr`.
The items of a set stand in the order in which a run comes to them; the pairs are
the tuples in the lists that `!!omap` and `!!pairs` stand for. -/
inductive Value where
  | none
  | bool (value : Bool)
  | int (value : Int)
  | float (shown : Text)
  | date (shown written : Text)
  | str (value : Text)
  | bytes (value : List UInt8)
  | list (items : List Value)
  | set (items : List Value)
  | pair (first second : Value)
  | dict (entries : List (Value × Value))

inductive Raised where
  | attributeError
  | keyError
  | typeError
  | valueError (message : Text)
deriving DecidableEq, Repr

/-- `value == s` for a string `s`. -/
def Value.isStr (s : Text) : Value → Bool
  | .str value => value == s
  | _ => false

/-- The value of a string key in the items of a mapping. -/
def find (key : Text) (entries : List (Value × Value)) : Option Value :=
  (entries.find? fun entry => entry.1.isStr key).map Prod.snd

/-- `value.get(key, default)`. -/
def Value.getOr (value : Value) (key : Text) (default : Value) : Except Raised Value :=
  match value with
  | .dict entries => .ok ((find key entries).getD default)
  | _ => .error .attributeError

/-- `value.get(key)`. -/
def Value.get (value : Value) (key : Text) : Except Raised Value := value.getOr key .none

/-- `key in value` for a string key. -/
def Value.has (value : Value) (key : Text) : Except Raised Bool :=
  match value with
  | .str s => .ok (contains key s)
  | .list items => .ok (items.any (Value.isStr key))
  | .set items => .ok (items.any (Value.isStr key))
  | .pair first second => .ok (first.isStr key || second.isStr key)
  | .dict entries => .ok (entries.any fun entry => entry.1.isStr key)
  | _ => .error .typeError

/-- `for item in value`. -/
def Value.iter : Value → Except Raised (List Value)
  | .str s => .ok (s.map fun c => .str [c])
  | .bytes value => .ok (value.map fun byte => .int byte.toNat)
  | .list items => .ok items
  | .set items => .ok items
  | .pair first second => .ok [first, second]
  | .dict entries => .ok (entries.map Prod.fst)
  | _ => .error .typeError

/-- The receiver of `startswith` with a string. -/
def Value.asStr : Value → Except Raised Text
  | .str s => .ok s
  | .bytes _ => .error .typeError
  | _ => .error .attributeError

/-- `value[key]` for a string key. -/
def Value.subscript (value : Value) (key : Text) : Except Raised Value :=
  match value with
  | .dict entries => (find key entries).elim (.error .keyError) .ok
  | _ => .error .typeError

/-- Whether `hash(value)` succeeds. -/
def Value.hashable : Value → Bool
  | .list _ => false
  | .set _ => false
  | .pair first second => first.hashable && second.hashable
  | .dict _ => false
  | _ => true

/-- `tuple(value)`, as an element of a set. -/
def Value.hashedTuple (value : Value) : Except Raised (List Value) := do
  let items ← value.iter
  if items.all Value.hashable then return items
  else .error .typeError

/-- `bool(value)`. -/
def Value.truthy : Value → Bool
  | .none => false
  | .bool value => value
  | .int value => value != 0
  | .float shown => shown != text "0.0" && shown != text "-0.0"
  | .date _ _ => true
  | .str value => !value.isEmpty
  | .bytes value => !value.isEmpty
  | .list items => !items.isEmpty
  | .set items => !items.isEmpty
  | .pair _ _ => true
  | .dict entries => !entries.isEmpty

/-- Lower-case hexadecimal digits, at least as many as given. -/
def hexDigits (width n : Nat) : Text :=
  let digits := Nat.toDigits 16 n
  List.replicate (width - digits.length) '0' ++ digits

/-- One character of a `repr`. Beyond ASCII, `printable` is `str.isprintable`. -/
def escape (printable : Char → Bool) (quote c : Char) : Text :=
  if c == quote || c == '\\' then ['\\', c]
  else if c == '\t' then text "\\t"
  else if c == '\n' then text "\\n"
  else if c == '\r' then text "\\r"
  else if c.toNat < 32 || c.toNat == 127 then text "\\x" ++ hexDigits 2 c.toNat
  else if c.toNat < 127 || printable c then [c]
  else if c.toNat < 256 then text "\\x" ++ hexDigits 2 c.toNat
  else if c.toNat < 65536 then text "\\u" ++ hexDigits 4 c.toNat
  else text "\\U" ++ hexDigits 8 c.toNat

/-- `repr` of a string. -/
def reprText (printable : Char → Bool) (s : Text) : Text :=
  let quote := if s.contains '\'' && !s.contains '"' then '"' else '\''
  quote :: s.flatMap (escape printable quote) ++ [quote]

mutual

/-- `repr(value)`. -/
def Value.repr (printable : Char → Bool) : Value → Text
  | .none => text "None"
  | .bool true => text "True"
  | .bool false => text "False"
  | .int value => intText value
  | .float shown => shown
  | .date _ written => written
  | .str value => reprText printable value
  | .bytes value => 'b' :: reprText (fun _ => false) (value.map fun byte => Char.ofNat byte.toNat)
  | .list items => text "[" ++ join (text ", ") (reprItems printable items) ++ text "]"
  | .set [] => text "set()"
  | .set items => text "\x7b" ++ join (text ", ") (reprItems printable items) ++ text "\x7d"
  | .pair first second => text "(" ++ first.repr printable ++ text ", " ++ second.repr printable ++ text ")"
  | .dict entries => text "\x7b" ++ join (text ", ") (reprEntries printable entries) ++ text "\x7d"

def reprItems (printable : Char → Bool) : List Value → List Text
  | [] => []
  | item :: rest => item.repr printable :: reprItems printable rest

def reprEntries (printable : Char → Bool) : List (Value × Value) → List Text
  | [] => []
  | (key, value) :: rest =>
      (key.repr printable ++ text ": " ++ value.repr printable) :: reprEntries printable rest

end

/-- The text of `str(value)`. -/
def Value.toText (printable : Char → Bool) : Value → Text
  | .str value => value
  | .date shown _ => shown
  | value => value.repr printable

/-- The default of `sys.get_int_max_str_digits()`. -/
def maxStrDigits : Nat := 4300

mutual

/-- Whether `str(value)` returns: no integer in it has more than `maxStrDigits` digits. -/
def Value.showable : Value → Bool
  | .int value => (natText value.natAbs).length ≤ maxStrDigits
  | .list items => showableItems items
  | .set items => showableItems items
  | .pair first second => first.showable && second.showable
  | .dict entries => showableEntries entries
  | _ => true

def showableItems : List Value → Bool
  | [] => true
  | item :: rest => item.showable && showableItems rest

def showableEntries : List (Value × Value) → Bool
  | [] => true
  | (key, value) :: rest => key.showable && value.showable && showableEntries rest

end

/-- `str(value)`. -/
def Value.strOf (printable : Char → Bool) (value : Value) : Except Raised Text :=
  if value.showable then .ok (value.toText printable)
  else .error (.valueError (text "Exceeds the limit (" ++ natText maxStrDigits ++
    text " digits) for integer string conversion; use sys.set_int_max_str_digits() to increase the limit"))

end PyValue
