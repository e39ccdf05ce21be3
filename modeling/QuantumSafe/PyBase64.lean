import QuantumSafe.PyText

set_option autoImplicit false

/- `base64.b64decode` with `validate=True`, the strict decoder of `binascii`, and
`base64.b64encode`. -/
namespace PyBase64

open PyText

abbrev Bytes := List UInt8

/-- The six-bit value of a character of the alphabet. -/
def sextet (c : Char) : Option Nat :=
  let n := c.toNat
  if 65 ≤ n ∧ n ≤ 90 then some (n - 65)
  else if 97 ≤ n ∧ n ≤ 122 then some (n - 71)
  else if 48 ≤ n ∧ n ≤ 57 then some (n + 4)
  else if c = '+' then some 62
  else if c = '/' then some 63
  else none

/-- What the decoder keeps between characters: how many characters of the
current group of four it has read, the bits not yet written, how many padding
characters it has counted and whether padding has begun. -/
structure Progress where
  quad : Nat
  left : Nat
  pads : Nat
  padding : Bool

def Progress.initial : Progress := ⟨0, 0, 0, false⟩

/-- The byte that a data character completes, and what is kept. -/
def Progress.data (progress : Progress) (value : Nat) : Option UInt8 × Progress :=
  match progress.quad with
  | 0 => (none, ⟨1, value, 0, false⟩)
  | 1 => (some (UInt8.ofNat (progress.left * 4 + value / 16)), ⟨2, value % 16, 0, false⟩)
  | 2 => (some (UInt8.ofNat (progress.left * 16 + value / 4)), ⟨3, value % 4, 0, false⟩)
  | _ => (some (UInt8.ofNat (progress.left * 64 + value)), ⟨0, 0, 0, false⟩)

/-- The bytes of the rest of the input, none where the decoder raises. -/
def decodeFrom (progress : Progress) : Text → Option Bytes
  | [] => if progress.quad = 0 then some [] else none
  | c :: rest =>
      if c = '=' then
        if 2 ≤ progress.quad then
          if 4 ≤ progress.quad + progress.pads + 1 then
            -- the group is complete: nothing may follow
            if rest.isEmpty then some [] else none
          else decodeFrom { progress with pads := progress.pads + 1, padding := true } rest
        else decodeFrom { progress with padding := true } rest
      else
        match sextet c with
        | none => none
        | some value =>
            if progress.padding then none
            else
              let step := progress.data value
              (decodeFrom step.2 rest).map (step.1.toList ++ ·)

/-- `base64.b64decode(encoded, validate=True)`, none where it raises. -/
def b64decode (encoded : Text) : Option Bytes :=
  if encoded.head? = some '=' then none else decodeFrom .initial encoded

example : (["QUJD", "QUI=", "QQ==", "QUJD="].map fun s => b64decode s.toList) =
    [some [65, 66, 67], some [65, 66], some [65], some [65, 66, 67]] := by decide

example : ∀ s ∈ ["QQ", "QQ=", "Q===", "QQ===", "QQ=A", "QUI=QUJD", "====", "QUJD\n"],
    b64decode s.toList = none := by decide

/-- The character of a six-bit value. -/
def digit (value : Nat) : Char :=
  (text "ABCDEFGHIJKLMNOPQRSTUVWXYZabcdefghijklmnopqrstuvwxyz0123456789+/").getD value '='

/-- `base64.b64encode(data).decode("ascii")`: three bytes become four characters,
and a last group of one or two bytes is padded. -/
def b64encode : Bytes → Text
  | [] => []
  | [a] => [digit (a.toNat / 4), digit (a.toNat % 4 * 16), '=', '=']
  | [a, b] =>
      [digit (a.toNat / 4), digit (a.toNat % 4 * 16 + b.toNat / 16), digit (b.toNat % 16 * 4), '=']
  | a :: b :: c :: rest =>
      digit (a.toNat / 4) :: digit (a.toNat % 4 * 16 + b.toNat / 16) ::
        digit (b.toNat % 16 * 4 + c.toNat / 64) :: digit (c.toNat % 64) :: b64encode rest

theorem sextet_digit {value : Nat} (small : value < 64) : sextet (digit value) = some value := by
  have table : ∀ v < 64, sextet (digit v) = some v := by decide +kernel
  exact table value small

theorem digit_ne_pad {value : Nat} (small : value < 64) : digit value ≠ '=' := by
  intro pad
  have read := sextet_digit small
  have none : sextet '=' = none := by decide
  rw [pad, none] at read
  cases read

theorem b64encode_ne_nil {bytes : Bytes} (filled : bytes ≠ []) : b64encode bytes ≠ [] := by
  fun_cases b64encode bytes <;> simp_all

/-- A digit outside padding hands its value to the group being read. -/
theorem decodeFrom_digit {progress : Progress} (reading : progress.padding = false) {value : Nat}
    (small : value < 64) (rest : Text) :
    decodeFrom progress (digit value :: rest) =
      (decodeFrom (progress.data value).2 rest).map ((progress.data value).1.toList ++ ·) := by
  simp [decodeFrom, digit_ne_pad small, sextet_digit small, reading]

theorem ofNat_of_parts {byte : UInt8} {n : Nat} (parts : n % 256 = byte.toNat) :
    UInt8.ofNat n = byte := by
  apply UInt8.toNat_inj.mp
  rw [UInt8.toNat_ofNat']
  exact parts

/-- A full group gives its three bytes and leaves the decoder at a new group. -/
theorem decodeFrom_group (a b c : UInt8) (rest : Text) :
    decodeFrom .initial (digit (a.toNat / 4) :: digit (a.toNat % 4 * 16 + b.toNat / 16) ::
        digit (b.toNat % 16 * 4 + c.toNat / 64) :: digit (c.toNat % 64) :: rest) =
      (decodeFrom .initial rest).map (a :: b :: c :: ·) := by
  have ha := a.toNat_lt
  have hb := b.toNat_lt
  have hc := c.toNat_lt
  rw [decodeFrom_digit rfl (by omega), decodeFrom_digit rfl (by omega),
    decodeFrom_digit rfl (by omega), decodeFrom_digit rfl (by omega)]
  have first : UInt8.ofNat (a.toNat / 4 * 4 + (a.toNat % 4 * 16 + b.toNat / 16) / 16) = a :=
    ofNat_of_parts (by omega)
  have second : UInt8.ofNat ((a.toNat % 4 * 16 + b.toNat / 16) % 16 * 16 +
      (b.toNat % 16 * 4 + c.toNat / 64) / 4) = b := ofNat_of_parts (by omega)
  have third : UInt8.ofNat ((b.toNat % 16 * 4 + c.toNat / 64) % 4 * 64 + c.toNat % 64) = c :=
    ofNat_of_parts (by omega)
  simp only [Progress.initial, Progress.data, first, second, third, Option.toList_some,
    Option.toList_none, Option.map_map]
  rfl

/-- The decoder reads back every byte string from its encoding, whichever the
length of the last group. -/
theorem decodeFrom_b64encode (bytes : Bytes) : decodeFrom .initial (b64encode bytes) = some bytes := by
  fun_induction b64encode bytes with
  | case1 => rfl
  | case2 a =>
      have ha := a.toNat_lt
      have first : UInt8.ofNat (a.toNat / 4 * 4 + a.toNat % 4 * 16 / 16) = a :=
        ofNat_of_parts (by omega)
      rw [decodeFrom_digit rfl (by omega), decodeFrom_digit rfl (by omega)]
      simp only [Progress.initial, Progress.data, first]
      rfl
  | case3 a b =>
      have ha := a.toNat_lt
      have hb := b.toNat_lt
      have first : UInt8.ofNat (a.toNat / 4 * 4 + (a.toNat % 4 * 16 + b.toNat / 16) / 16) = a :=
        ofNat_of_parts (by omega)
      have second : UInt8.ofNat ((a.toNat % 4 * 16 + b.toNat / 16) % 16 * 16 +
          b.toNat % 16 * 4 / 4) = b := ofNat_of_parts (by omega)
      rw [decodeFrom_digit rfl (by omega), decodeFrom_digit rfl (by omega),
        decodeFrom_digit rfl (by omega)]
      simp only [Progress.initial, Progress.data, first, second]
      rfl
  | case4 a b c rest ih =>
      rw [decodeFrom_group, ih]
      rfl

theorem b64decode_b64encode (bytes : Bytes) : b64decode (b64encode bytes) = some bytes := by
  have begins : (b64encode bytes).head? ≠ some '=' := by
    fun_cases b64encode bytes with
    | case1 => simp
    | case2 a => simpa using digit_ne_pad (by have := a.toNat_lt; omega)
    | case3 a b => simpa using digit_ne_pad (by have := a.toNat_lt; omega)
    | case4 a b c rest => simpa using digit_ne_pad (by have := a.toNat_lt; omega)
  rw [b64decode, if_neg begins, decodeFrom_b64encode]

end PyBase64
