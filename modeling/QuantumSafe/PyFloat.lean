import QuantumSafe.PyInt

set_option autoImplicit false

/- `float(...)` of texts and integers, as far as comparing the result with zero shows it. -/
namespace PyFloat

open PyText
open PyInt (isIntSpace)

/-- From here on an integer is too large to be converted. -/
def tooLarge : Nat := 2 ^ 1024 - 2 ^ 970

/-- Whether `mantissa * 10 ** exponent` is rounded to zero: half the smallest positive
float, which is `2 ** -1075`, still is. -/
def roundsToZero (mantissa : Nat) (exponent : Int) : Bool :=
  if 0 ≤ exponent then mantissa == 0 else decide (mantissa * 2 ^ 1075 ≤ 10 ^ exponent.natAbs)

/-- An underscore has to stand between two digits. -/
def dropUnderscores (before : Char) : Text → Option Text
  | [] => if before = '_' then none else some []
  | c :: rest =>
      if c = '_' then if before.isDigit then dropUnderscores c rest else none
      else if before = '_' ∧ c.isDigit = false then none
      else (dropUnderscores c rest).map (c :: ·)

def unsigned : Text → Text
  | '+' :: rest => rest
  | '-' :: rest => rest
  | s => s

/-- An exponent part, or nothing. -/
def exponent : Text → Option Int
  | [] => some 0
  | c :: rest =>
      let digits := unsigned rest
      if (c = 'e' ∨ c = 'E') ∧ digits ≠ [] ∧ digits.all Char.isDigit = true then
        let size : Int := Nat.ofDigitChars 10 digits 0
        some (if rest.head? = some '-' then -size else size)
      else none

def decimal (s : Text) : Option Bool :=
  let whole := s.takeWhile Char.isDigit
  let behind := s.dropWhile Char.isDigit
  let fraction := if behind.head? = some '.' then behind.tail.takeWhile Char.isDigit else []
  let rest := if behind.head? = some '.' then behind.tail.dropWhile Char.isDigit else behind
  if whole ++ fraction = [] then none
  else (exponent rest).map fun power =>
    roundsToZero (Nat.ofDigitChars 10 (whole ++ fraction) 0) (power - fraction.length)

/-- The numbers that are written as words. -/
def words : List Text := [text "inf", text "infinity", text "nan"]

/-- A decimal digit of any script is read like the ASCII digit of its value. -/
def asciiDigit (c : Char) : Char := ((PyInt.decimal c).map Nat.digitChar).getD c

/-- `float(s) == 0.0`, and none where `float(s)` raises `ValueError`. The white space at the
ends is that of `int`. -/
def textIsZero (s : Text) : Option Bool :=
  let body := unsigned (((s.dropWhile isIntSpace).rdropWhile isIntSpace).map asciiDigit)
  if words.contains (lower body) then some false
  else (dropUnderscores ' ' body).bind decimal

theorem decimal_of_initial {c : Char} (rest : Text) (digit : c.isDigit = false) (dot : c ≠ '.') :
    decimal (c :: rest) = none := by
  simp [decimal, digit, dot]

/-- A text that starts like no number is not read. -/
theorem textIsZero_of_initial {c : Char} (rest : Text) (visible : isIntSpace c = false)
    (plainly : asciiDigit c = c) (digit : c.isDigit = false) (mark : c ∉ ['.', '_', '+', '-'])
    (initial : lowerChar c = [c.toLower]) (word : c.toLower ≠ 'i' ∧ c.toLower ≠ 'n') :
    textIsZero (c :: rest) = none := by
  obtain ⟨kept, stripped⟩ : ∃ kept, (c :: rest).rdropWhile isIntSpace = c :: kept :=
    rdropWhile_cons visible
  obtain ⟨behind, mapped⟩ : ∃ behind, (c :: kept).map asciiDigit = c :: behind :=
    ⟨kept.map asciiDigit, by rw [List.map_cons, plainly]⟩
  simp only [List.mem_cons, List.not_mem_nil, or_false, not_or] at mark
  have plain : unsigned (c :: behind) = c :: behind := by
    unfold unsigned
    split
    · next same => exact absurd (List.cons.inj same).1 mark.2.2.1
    · next same => exact absurd (List.cons.inj same).1 mark.2.2.2
    · rfl
  have other : words.contains (lower (c :: behind)) = false := by
    simp [words, lower, initial, text, word]
  have read : dropUnderscores ' ' (c :: behind) = (dropUnderscores c behind).map (c :: ·) := by
    rw [dropUnderscores, if_neg mark.2.1, if_neg (by simp)]
  have front : (c :: rest).dropWhile isIntSpace = c :: rest := List.dropWhile_cons_of_neg (by simp [visible])
  simp only [textIsZero, front, stripped, mapped, plain, other, read, Bool.false_eq_true, ↓reduceIte]
  cases dropUnderscores c behind with
  | none => rfl
  | some s => exact decimal_of_initial s digit mark.1

example : textIsZero (text " -0_0.0e5 ") = some true ∧ textIsZero (text "0%") = none ∧
    textIsZero [Char.ofNat 0x660] = some true ∧ textIsZero [Char.ofNat 0x1c, '0'] = none := by
  decide +kernel

end PyFloat
