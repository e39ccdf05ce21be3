import QuantumSafe.PyText

set_option autoImplicit false

/- Networks and addresses as Python 3.11's `ipaddress` reads and writes them. -/
namespace PyIpAddress

open PyText

/-- The `ValueError`s of the module that a program can see. -/
inductive AddressError where
  | notANetwork (s : Text)
  | tooLarge (value bits : Nat)
deriving DecidableEq, Repr

structure IPv4Address where
  value : Nat
  bound : value < 2 ^ 32
deriving DecidableEq

structure IPv6Address where
  value : Nat
  scopeId : Option Text
  bound : value < 2 ^ 128
deriving DecidableEq

inductive Address where
  | v4 (address : IPv4Address)
  | v6 (address : IPv6Address)
deriving DecidableEq

/-- A network without the host bits of the text it was read from. -/
structure Network where
  networkAddress : Address
  prefixLen : Nat
deriving DecidableEq

def isHexDigit (c : Char) : Bool :=
  c.isDigit || ('a' ≤ c && c ≤ 'f') || ('A' ≤ c && c ≤ 'F')

def hexDigitValue (c : Char) : Nat :=
  if c.isDigit then c.toNat - 48 else if 'a' ≤ c then c.toNat - 87 else c.toNat - 55

/-- `int(s, base)` for a text of digits. -/
def digitsValue (base : Nat) (s : Text) : Nat :=
  s.foldl (fun value c => base * value + hexDigitValue c) 0

/-- Words of `width` bits, the most significant one first. -/
def joinWords (width : Nat) (words : List Nat) : Nat :=
  words.foldl (fun value word => 2 ^ width * value + word) 0

/-- `'%x' % n`. -/
def hex (n : Nat) : Text := Nat.toDigits 16 n

/-- `IPv4Address._parse_octet`. -/
def parseOctet (octet : Text) : Option Nat :=
  if octet.isEmpty then none
  else if !octet.all Char.isDigit then none
  else if 3 < octet.length then none
  else if octet ≠ ['0'] ∧ octet.head? = some '0' then none
  else
    let value := digitsValue 10 octet
    if 255 < value then none else some value

/-- `IPv4Address._ip_int_from_string`. -/
def parseIPv4 (s : Text) : Option Nat :=
  let octets := s.splitOn '.'
  if octets.length ≠ 4 then none
  else (octets.mapM parseOctet).map (joinWords 8)

/-- `IPv6Address._parse_hextet`. -/
def parseHextet (hextet : Text) : Option Nat :=
  if !hextet.all isHexDigit then none
  else if 4 < hextet.length then none
  else if hextet.isEmpty then none
  else some (digitsValue 16 hextet)

/-- The parts between colons, an IPv4 suffix rewritten as two hextets. -/
def hextetParts (s : Text) : Option (List Text) :=
  let parts := s.splitOn ':'
  if parts.length < 3 then none
  else
    let last := parts.getLastD []
    if '.' ∈ last then
      (parseIPv4 last).map fun value =>
        parts.dropLast ++ [hex (value / 2 ^ 16), hex (value % 2 ^ 16)]
    else some parts

/-- The inner positions at which two colons meet. -/
def skipIndices (parts : List Text) : List Nat :=
  (List.range (parts.length - 1)).filter fun i => 1 ≤ i && parts[i]? == some []

/-- `IPv6Address._ip_int_from_string`. -/
def parseIPv6 (s : Text) : Option Nat := do
  let parts ← hextetParts s
  if 9 < parts.length then none
  else
    let leading := parts.head? = some []
    let trailing := parts.getLast? = some []
    match skipIndices parts with
    | [] =>
        if parts.length ≠ 8 ∨ leading ∨ trailing then none
        else (parts.mapM parseHextet).map (joinWords 16)
    | [skip] =>
        let high := if leading then skip - 1 else skip
        let low := if trailing then parts.length - skip - 2 else parts.length - skip - 1
        if (leading ∧ high ≠ 0) ∨ (trailing ∧ low ≠ 0) then none
        else if 8 < high + low + 1 then none
        else do
          let before ← (parts.take high).mapM parseHextet
          let after ← (parts.drop (parts.length - low)).mapM parseHextet
          pure (joinWords 16 (before ++ List.replicate (8 - (high + low)) 0 ++ after))
    | _ => none

/-- `IPv4Address(value)` and `IPv6Address(value)`. -/
def IPv4Address.ofInt (value : Nat) : Except AddressError IPv4Address :=
  if bound : value < 2 ^ 32 then .ok ⟨value, bound⟩ else .error (.tooLarge value 32)

def IPv6Address.ofInt (value : Nat) (scopeId : Option Text) : Except AddressError IPv6Address :=
  if bound : value < 2 ^ 128 then .ok ⟨value, scopeId, bound⟩ else .error (.tooLarge value 128)

/-- `_ip_int_from_prefix`. -/
def netmask (bits prefixLen : Nat) : Nat :=
  (2 ^ bits - 1) ^^^ ((2 ^ bits - 1) >>> prefixLen)

/-- `_prefix_from_ip_int`. -/
def prefixFromInt (bits mask : Nat) : Option Nat :=
  let trailingZeroes := ((List.range bits).find? mask.testBit).getD bits
  let prefixLen := bits - trailingZeroes
  if mask >>> trailingZeroes = 2 ^ prefixLen - 1 then some prefixLen else none

/-- `_prefix_from_prefix_string`. `int` refuses more than 4300 digits. -/
def prefixFromDigits (bits : Nat) (s : Text) : Option Nat :=
  if s.isEmpty || !s.all Char.isDigit || 4300 < s.length then none
  else if bits < digitsValue 10 s then none
  else some (digitsValue 10 s)

/-- A prefix length, or a netmask or hostmask in dotted-quad form. -/
def prefixFromIPv4Mask (s : Text) : Option Nat :=
  match prefixFromDigits 32 s with
  | some prefixLen => some prefixLen
  | none => do
      let mask ← parseIPv4 s
      match prefixFromInt 32 mask with
      | some prefixLen => some prefixLen
      | none => prefixFromInt 32 (mask ^^^ (2 ^ 32 - 1))

/-- `_split_optional_netmask`, with the text of the mask when there is one. -/
def splitOptionalNetmask (s : Text) : Option (Text × Option Text) :=
  match s.splitOn '/' with
  | [address] => some (address, none)
  | [address, mask] => some (address, some mask)
  | _ => none

/-- `IPv4Network(s, strict=False)`. -/
def ipv4Network (s : Text) : Option Network := do
  let (address, mask) ← splitOptionalNetmask s
  let value ← parseIPv4 address
  let prefixLen ← match mask with
    | none => some 32
    | some mask => prefixFromIPv4Mask mask
  if bound : value &&& netmask 32 prefixLen < 2 ^ 32 then
    some ⟨.v4 ⟨value &&& netmask 32 prefixLen, bound⟩, prefixLen⟩
  else none

/-- `_split_scope_id`. -/
def splitScopeId (s : Text) : Option (Text × Option Text) :=
  match cut ['%'] s with
  | none => some (s, none)
  | some (address, scopeId) =>
      if scopeId.isEmpty || scopeId.contains '%' then none else some (address, some scopeId)

/-- `IPv6Network(s, strict=False)`: the scope id is lost when host bits are set. -/
def ipv6Network (s : Text) : Option Network := do
  let (address, mask) ← splitOptionalNetmask s
  let (digits, scopeId) ← splitScopeId address
  let value ← parseIPv6 digits
  let prefixLen ← match mask with
    | none => some 128
    | some mask => prefixFromDigits 128 mask
  let masked := value &&& netmask 128 prefixLen
  if bound : masked < 2 ^ 128 then
    some ⟨.v6 ⟨masked, if masked = value then scopeId else none, bound⟩, prefixLen⟩
  else none

/-- `ip_network(s, strict=False)`. -/
def ipNetwork (s : Text) : Except AddressError Network :=
  match ipv4Network s with
  | some network => .ok network
  | none =>
      match ipv6Network s with
      | some network => .ok network
      | none => .error (.notANetwork s)

/-- `address + offset`; the sum has no scope id. -/
def Address.add (address : Address) (offset : Nat) : Except AddressError Address :=
  match address with
  | .v4 address => (IPv4Address.ofInt (address.value + offset)).map .v4
  | .v6 address => (IPv6Address.ofInt (address.value + offset) none).map .v6

def IPv4Address.octets (address : IPv4Address) : List Nat :=
  [address.value / 2 ^ 24, address.value / 2 ^ 16 % 2 ^ 8, address.value / 2 ^ 8 % 2 ^ 8,
    address.value % 2 ^ 8]

def IPv4Address.str (address : IPv4Address) : Text :=
  join ['.'] (address.octets.map (Nat.toDigits 10))

/-- The runs of zero hextets seen so far by `_compress_hextets`. -/
structure ZeroRuns where
  bestStart : Nat
  bestLength : Nat
  start : Option Nat
  length : Nat

def ZeroRuns.next (runs : ZeroRuns) (index : Nat) (hextet : Text) : ZeroRuns :=
  if hextet = ['0'] then
    let length := runs.length + 1
    let start := runs.start.getD index
    if runs.bestLength < length then ⟨start, length, some start, length⟩
    else ⟨runs.bestStart, runs.bestLength, some start, length⟩
  else ⟨runs.bestStart, runs.bestLength, none, 0⟩

def zeroRuns (hextets : List Text) : ZeroRuns :=
  hextets.zipIdx.foldl (fun runs entry => runs.next entry.2 entry.1) ⟨0, 0, none, 0⟩

/-- `IPv6Address._compress_hextets`. -/
def compressHextets (hextets : List Text) : List Text :=
  let runs := zeroRuns hextets
  if 1 < runs.bestLength then
    let finish := runs.bestStart + runs.bestLength
    (if runs.bestStart = 0 then [[]] else []) ++ hextets.take runs.bestStart ++ [[]] ++
      hextets.drop finish ++ (if finish = hextets.length then [[]] else [])
  else hextets

def IPv6Address.hextets (address : IPv6Address) : List Nat :=
  (List.range 8).map fun index => address.value / 2 ^ (16 * (7 - index)) % 2 ^ 16

/-- `_string_from_ip_int`: the text without the scope id. -/
def IPv6Address.digits (address : IPv6Address) : Text :=
  join [':'] (compressHextets (address.hextets.map hex))

def IPv6Address.str (address : IPv6Address) : Text :=
  match address.scopeId with
  | none => address.digits
  | some scopeId => address.digits ++ '%' :: scopeId

def Address.str : Address → Text
  | .v4 address => address.str
  | .v6 address => address.str

theorem isHexDigit_digitChar {n : Nat} (small : n < 16) : isHexDigit n.digitChar = true := by
  have all : ∀ digit : Fin 16, isHexDigit (Nat.digitChar digit.val) = true := by decide
  exact all ⟨n, small⟩

theorem isSpace_hexDigit {c : Char} (digit : isHexDigit c = true) : isSpace c = false := by
  rw [isHexDigit, Bool.or_eq_true, Bool.or_eq_true, Char.isDigit] at digit
  simp only [Bool.and_eq_true, decide_eq_true_eq, Char.le_def, UInt32.le_iff_toNat_le, ge_iff_le] at digit
  change (48 ≤ c.toNat ∧ c.toNat ≤ 57 ∨ 97 ≤ c.toNat ∧ c.toNat ≤ 102) ∨
    65 ≤ c.toNat ∧ c.toNat ≤ 70 at digit
  exact isSpace_ascii (by omega) (by omega)

theorem isHexDigit_of_mem_hex {n : Nat} {c : Char} (member : c ∈ hex n) : isHexDigit c = true := by
  induction n using Nat.strongRecOn with
  | ind n ih =>
      rw [hex, Nat.toDigits_eq_if (by decide)] at member
      split at member
      · rename_i small
        rw [List.mem_singleton.mp member]
        exact isHexDigit_digitChar small
      · rename_i large
        rcases List.mem_append.mp member with earlier | last
        · exact ih (n / 16) (by omega) earlier
        · rw [List.mem_singleton.mp last]
          exact isHexDigit_digitChar (Nat.mod_lt n (by decide))

theorem mem_str_v4 (address : IPv4Address) {c : Char} (member : c ∈ address.str) :
    c.isDigit = true ∨ c = '.' := by
  rcases mem_join member with separator | ⟨octet, inside, member⟩
  · exact Or.inr (List.mem_singleton.mp separator)
  · obtain ⟨value, -, rfl⟩ := List.mem_map.mp inside
    exact Or.inl (Nat.isDigit_of_mem_toDigits (by decide) (by decide) member)

/-- Compression keeps hextets and adds empty ones. -/
theorem mem_compressHextets {hextets : List Text} {hextet : Text}
    (member : hextet ∈ compressHextets hextets) : hextet ∈ hextets ∨ hextet = [] := by
  unfold compressHextets at member
  dsimp only at member
  split at member
  · simp only [List.mem_append] at member
    rcases member with (((leading | before) | middle) | after) | trailing
    · split at leading
      · exact Or.inr (List.mem_singleton.mp leading)
      · cases leading
    · exact Or.inl (List.mem_of_mem_take before)
    · exact Or.inr (List.mem_singleton.mp middle)
    · exact Or.inl (List.mem_of_mem_drop after)
    · split at trailing
      · exact Or.inr (List.mem_singleton.mp trailing)
      · cases trailing
  · exact Or.inl member

/-- Two colons or more remain, so two parts or more do. -/
theorem two_le_length_compressHextets {hextets : List Text} (several : 2 ≤ hextets.length) :
    2 ≤ (compressHextets hextets).length := by
  unfold compressHextets
  dsimp only
  split
  · simp only [List.length_append, List.length_take, List.length_drop, List.length_singleton]
    split <;> split <;> simp only [List.length_singleton, List.length_nil] <;> omega
  · exact several

theorem colon_mem_join {parts : List Text} (several : 2 ≤ parts.length) : ':' ∈ join [':'] parts := by
  match parts, several with
  | first :: second :: rest, _ =>
      rw [join, List.intercalate_cons_cons]
      simp

theorem mem_digits (address : IPv6Address) {c : Char} (member : c ∈ address.digits) :
    isHexDigit c = true ∨ c = ':' := by
  rcases mem_join member with separator | ⟨hextet, inside, member⟩
  · exact Or.inr (List.mem_singleton.mp separator)
  · rcases mem_compressHextets inside with kept | empty
    · obtain ⟨value, -, rfl⟩ := List.mem_map.mp kept
      exact Or.inl (isHexDigit_of_mem_hex member)
    · rw [empty] at member
      cases member

theorem colon_mem_digits (address : IPv6Address) : ':' ∈ address.digits :=
  colon_mem_join (two_le_length_compressHextets (by simp [IPv6Address.hextets]))

end PyIpAddress
