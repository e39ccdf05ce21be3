import QuantumSafe.PyText

set_option autoImplicit false

/- Decimal digits of `str` and the integers that `int` reads. -/
namespace PyInt

open PyText

/-- The zeros of the decimal digits of Unicode 14; nine digits follow each of them. -/
def zeros : List Nat :=
  [0x30, 0x660, 0x6f0, 0x7c0, 0x966, 0x9e6, 0xa66, 0xae6, 0xb66, 0xbe6, 0xc66, 0xce6, 0xd66, 0xde6,
    0xe50, 0xed0, 0xf20, 0x1040, 0x1090, 0x17e0, 0x1810, 0x1946, 0x19d0, 0x1a80, 0x1a90, 0x1b50,
    0x1bb0, 0x1c40, 0x1c50, 0xa620, 0xa8d0, 0xa900, 0xa9d0, 0xa9f0, 0xaa50, 0xabf0, 0xff10, 0x104a0,
    0x10d30, 0x11066, 0x110f0, 0x11136, 0x111d0, 0x112f0, 0x11450, 0x114d0, 0x11650, 0x116c0,
    0x11730, 0x118e0, 0x11950, 0x11c50, 0x11d50, 0x11da0, 0x16a60, 0x16ac0, 0x16b50, 0x1d7ce,
    0x1d7d8, 0x1d7e2, 0x1d7ec, 0x1d7f6, 0x1e140, 0x1e2f0, 0x1e950, 0x1fbf0]

def decimal (c : Char) : Option Nat :=
  (zeros.find? fun first => first ≤ c.toNat && c.toNat ≤ first + 9).map fun first => c.toNat - first

/-- `str.isdecimal` on one character; `\d` of a `str` pattern is the same class. -/
def isDecimal (c : Char) : Bool := (decimal c).isSome

/-- `int` does not skip the separators U+001C to U+001F. -/
def isIntSpace (c : Char) : Bool := isSpace c && !(28 ≤ c.toNat && c.toNat ≤ 31)

def decimalsValue (digits : Text) : Nat :=
  digits.foldl (fun value c => 10 * value + (decimal c).getD 0) 0

/-- Digits with single underscores between them, 4300 digits at most. -/
def parseDecimals (s : Text) : Option Nat :=
  let groups := s.splitOn '_'
  if groups.all (fun group => !group.isEmpty && group.all isDecimal) && groups.flatten.length ≤ 4300 then
    some (decimalsValue groups.flatten)
  else none

/-- `int(s)`. -/
def parseInt (s : Text) : Option Int :=
  match (s.dropWhile isIntSpace).rdropWhile isIntSpace with
  | '-' :: digits => (parseDecimals digits).map fun value => -(value : Int)
  | '+' :: digits => (parseDecimals digits).map Int.ofNat
  | digits => (parseDecimals digits).map Int.ofNat

example : parseInt (text " +8_010 ") = some 8010 := by decide +kernel

end PyInt
