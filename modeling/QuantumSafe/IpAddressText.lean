import QuantumSafe.PyIpAddress
import QuantumSafe.TextLines
import Mathlib.Data.List.Nodup

set_option autoImplicit false

/- Addresses and their texts: what is written is read back, and the arithmetic of
masks behind membership in a network. -/
namespace PyIpAddress

open PyText

theorem hexDigitValue_digitChar {n : Nat} (small : n < 16) : hexDigitValue n.digitChar = n := by
  have all : ∀ digit : Fin 16, hexDigitValue (Nat.digitChar digit.val) = digit.val := by decide
  exact all ⟨n, small⟩

theorem digitsValue_append_single (base : Nat) (s : Text) (c : Char) :
    digitsValue base (s ++ [c]) = base * digitsValue base s + hexDigitValue c := by
  rw [digitsValue, List.foldl_append]
  rfl

theorem digitsValue_cons_zero (base : Nat) (s : Text) :
    digitsValue base ('0' :: s) = digitsValue base s := by
  rw [digitsValue, List.foldl_cons, Nat.mul_zero]
  rfl

theorem hexDigitValue_lt {c : Char} (digit : isHexDigit c = true) : hexDigitValue c < 16 := by
  simp only [isHexDigit, Char.isDigit, Bool.or_eq_true, Bool.and_eq_true, decide_eq_true_eq, Char.le_def,
    UInt32.le_iff_toNat_le] at digit
  have decimal : '0'.val.toNat = 48 ∧ '9'.val.toNat = 57 := by decide
  have lower : 'a'.val.toNat = 97 ∧ 'f'.val.toNat = 102 := by decide
  have upper : 'A'.val.toNat = 65 ∧ 'F'.val.toNat = 70 := by decide
  simp only [hexDigitValue, Char.isDigit, Bool.and_eq_true, decide_eq_true_eq, Char.le_def,
    UInt32.le_iff_toNat_le, Char.toNat]
  split
  · omega
  · split <;> omega

/-- A text of hexadecimal digits is bounded by their number. -/
theorem digitsValue_lt {s : Text} (digits : ∀ c ∈ s, isHexDigit c = true) : digitsValue 16 s < 16 ^ s.length := by
  induction s using List.reverseRecOn with
  | nil => decide
  | append_singleton s c ih =>
      have front := ih fun d inside => digits d (List.mem_append_left _ inside)
      have last := hexDigitValue_lt (digits c (List.mem_append_right _ (List.mem_singleton_self c)))
      rw [digitsValue_append_single, List.length_append, List.length_singleton, Nat.pow_succ]
      omega

theorem digitsValue_toDigits {base : Nat} (several : 1 < base) (most : base ≤ 16) (n : Nat) :
    digitsValue base (Nat.toDigits base n) = n := by
  induction n using Nat.strongRecOn with
  | ind n ih =>
      rw [Nat.toDigits_eq_if several]
      split
      · rename_i small
        rw [digitsValue, List.foldl_cons, List.foldl_nil, Nat.mul_zero, Nat.zero_add]
        exact hexDigitValue_digitChar (by omega)
      · rename_i large
        have fewer : n / base < n := Nat.div_lt_self (by omega) several
        have last : n % base < 16 := Nat.lt_of_lt_of_le (Nat.mod_lt n (by omega)) most
        rw [digitsValue_append_single, ih (n / base) fewer, hexDigitValue_digitChar last]
        exact Nat.div_add_mod n base

theorem joinWords_append_single (width : Nat) (words : List Nat) (word : Nat) :
    joinWords width (words ++ [word]) = 2 ^ width * joinWords width words + word := by
  rw [joinWords, List.foldl_append]
  rfl

/- IPv4 -/

theorem parseOctet_toDigits {octet : Nat} (bound : octet < 256) :
    parseOctet (Nat.toDigits 10 octet) = some octet := by
  have all : ∀ octet : Fin 256, parseOctet (Nat.toDigits 10 octet.val) = some octet.val := by
    decide +kernel
  exact all ⟨octet, bound⟩

theorem joinWords_octets (address : IPv4Address) : joinWords 8 address.octets = address.value := by
  have bound := address.bound
  simp only [joinWords, IPv4Address.octets, List.foldl_cons, List.foldl_nil]
  omega

theorem octet_lt (address : IPv4Address) : ∀ octet ∈ address.octets, octet < 256 := by
  have bound := address.bound
  intro octet member
  simp only [IPv4Address.octets, List.mem_cons, List.not_mem_nil, or_false] at member
  omega

theorem mapM_toDigits {parse : Text → Option Nat} {base : Nat} {values : List Nat}
    (parses : ∀ value ∈ values, parse (Nat.toDigits base value) = some value) :
    (values.map (Nat.toDigits base)).mapM parse = some values := by
  induction values with
  | nil => rfl
  | cons value values ih =>
      have rest := ih fun later member => parses later (List.mem_cons_of_mem value member)
      rw [List.map_cons, List.mapM_cons, parses value List.mem_cons_self, rest]
      rfl

theorem notMem_toDigits {stop : Char} (value : Nat) (visible : stop.isDigit = false) :
    stop ∉ Nat.toDigits 10 value := by
  intro member
  have digit := Nat.isDigit_of_mem_toDigits (by decide) (by decide) member
  rw [visible] at digit
  cases digit

theorem parseIPv4_str (address : IPv4Address) : parseIPv4 address.str = some address.value := by
  have absent : ∀ part ∈ address.octets.map (Nat.toDigits 10), '.' ∉ part := by
    intro part member
    obtain ⟨octet, -, same⟩ := List.mem_map.mp member
    rw [← same]
    exact notMem_toDigits octet (by decide)
  have pieces := splitOn_join absent (by simp [IPv4Address.octets])
  rw [parseIPv4, IPv4Address.str, pieces]
  have four : (address.octets.map (Nat.toDigits 10)).length = 4 := rfl
  have octets := mapM_toDigits fun octet member => parseOctet_toDigits (octet_lt address octet member)
  rw [if_neg (by simpa using four), octets, Option.map_some, joinWords_octets]

theorem IPv4Address.str_injective : Function.Injective IPv4Address.str := by
  intro first second same
  have values := congrArg parseIPv4 same
  rw [parseIPv4_str, parseIPv4_str] at values
  cases first
  cases second
  cases values
  rfl

/- Masks -/

theorem testBit_netmask (bits prefixLen i : Nat) :
    (netmask bits prefixLen).testBit i = (decide (i < bits) && !decide (prefixLen + i < bits)) := by
  rw [netmask, Nat.testBit_xor, Nat.testBit_shiftRight, Nat.testBit_two_pow_sub_one,
    Nat.testBit_two_pow_sub_one]
  by_cases inside : prefixLen + i < bits
  · have low : i < bits := by omega
    simp [inside, low]
  · simp [inside]

/-- The mask of a network clears the host bits. -/
theorem and_netmask {bits prefixLen value : Nat} (bound : value < 2 ^ bits)
    (within : prefixLen ≤ bits) :
    value &&& netmask bits prefixLen =
      value / 2 ^ (bits - prefixLen) * 2 ^ (bits - prefixLen) := by
  apply Nat.eq_of_testBit_eq
  intro i
  rw [Nat.testBit_and, testBit_netmask, Nat.testBit_mul_two_pow, Nat.testBit_div_two_pow]
  by_cases high : bits - prefixLen ≤ i
  · have outside : ¬ prefixLen + i < bits := by omega
    rw [Nat.sub_add_cancel high, decide_eq_true high, decide_eq_false outside, Bool.true_and,
      Bool.not_false, Bool.and_true]
    by_cases inside : i < bits
    · rw [decide_eq_true inside, Bool.and_true]
    · have large : 2 ^ bits ≤ 2 ^ i := Nat.pow_le_pow_right (by decide) (by omega)
      rw [Nat.testBit_lt_two_pow (by omega), Bool.false_and]
  · have inside : prefixLen + i < bits := by omega
    rw [decide_eq_false high, decide_eq_true inside, Bool.not_true, Bool.and_false, Bool.and_false,
      Bool.false_and]

def Address.value : Address → Nat
  | .v4 address => address.value
  | .v6 address => address.value

/-- `_max_prefixlen`. -/
def Address.bits : Address → Nat
  | .v4 _ => 32
  | .v6 _ => 128

def Network.netmask (network : Network) : Nat :=
  PyIpAddress.netmask network.networkAddress.bits network.prefixLen

/-- `address in network`. -/
def Network.contains (network : Network) (address : Address) : Bool :=
  match network.networkAddress, address with
  | .v4 start, .v4 address => address.value &&& network.netmask == start.value
  | .v6 start, .v6 address => address.value &&& network.netmask == start.value
  | _, _ => false

/-- `network.broadcast_address`, as an integer. -/
def Network.broadcastValue (network : Network) : Nat :=
  network.networkAddress.value ||| (network.netmask ^^^ (2 ^ network.networkAddress.bits - 1))

/-- A network that was read has no host bits. -/
structure Network.Masked (network : Network) : Prop where
  within : network.prefixLen ≤ network.networkAddress.bits
  noHostBits : 2 ^ (network.networkAddress.bits - network.prefixLen) ∣ network.networkAddress.value

theorem prefixFromDigits_le {bits prefixLen : Nat} {s : Text}
    (read : prefixFromDigits bits s = some prefixLen) : prefixLen ≤ bits := by
  unfold prefixFromDigits at read
  split at read
  · cases read
  · split at read
    · cases read
    · cases read
      omega

theorem prefixFromInt_le {bits mask prefixLen : Nat}
    (read : prefixFromInt bits mask = some prefixLen) : prefixLen ≤ bits := by
  unfold prefixFromInt at read
  dsimp only at read
  split at read
  · cases read
    omega
  · cases read

theorem prefixFromIPv4Mask_le {prefixLen : Nat} {s : Text}
    (read : prefixFromIPv4Mask s = some prefixLen) : prefixLen ≤ 32 := by
  unfold prefixFromIPv4Mask at read
  cases digits : prefixFromDigits 32 s with
  | some found =>
      rw [digits] at read
      cases read
      exact prefixFromDigits_le digits
  | none =>
      rw [digits] at read
      obtain ⟨mask, -, read⟩ := Option.bind_eq_some_iff.mp read
      cases direct : prefixFromInt 32 mask with
      | some found =>
          rw [direct] at read
          cases read
          exact prefixFromInt_le direct
      | none =>
          rw [direct] at read
          exact prefixFromInt_le read

theorem masked_dvd {bits prefixLen value : Nat} (bound : value &&& netmask bits prefixLen < 2 ^ bits)
    (within : prefixLen ≤ bits) : 2 ^ (bits - prefixLen) ∣ value &&& netmask bits prefixLen := by
  have again : value &&& netmask bits prefixLen =
      (value &&& netmask bits prefixLen) &&& netmask bits prefixLen := by
    rw [Nat.and_assoc, Nat.and_self]
  rw [again, and_netmask bound within]
  exact Nat.dvd_mul_left _ _

theorem ipv4Network_masked {s : Text} {network : Network} (read : ipv4Network s = some network) :
    network.Masked := by
  obtain ⟨⟨address, mask⟩, -, read⟩ := Option.bind_eq_some_iff.mp read
  obtain ⟨value, -, read⟩ := Option.bind_eq_some_iff.mp read
  have length : ∃ prefixLen ≤ 32,
      (if bound : value &&& netmask 32 prefixLen < 2 ^ 32 then
          some (⟨.v4 ⟨value &&& netmask 32 prefixLen, bound⟩, prefixLen⟩ : Network)
        else none) = some network := by
    cases mask with
    | none => exact ⟨32, Nat.le_refl 32, read⟩
    | some mask =>
        obtain ⟨prefixLen, length, read⟩ := Option.bind_eq_some_iff.mp read
        exact ⟨prefixLen, prefixFromIPv4Mask_le length, read⟩
  obtain ⟨prefixLen, within, made⟩ := length
  obtain ⟨bound, ⟨⟩⟩ := Option.dite_none_right_eq_some.mp made
  exact ⟨within, masked_dvd bound within⟩

theorem ipv6Network_masked {s : Text} {network : Network} (read : ipv6Network s = some network) :
    network.Masked := by
  obtain ⟨⟨address, mask⟩, -, read⟩ := Option.bind_eq_some_iff.mp read
  obtain ⟨⟨digits, scopeId⟩, -, read⟩ := Option.bind_eq_some_iff.mp read
  obtain ⟨value, -, read⟩ := Option.bind_eq_some_iff.mp read
  have length : ∃ prefixLen ≤ 128,
      (if bound : value &&& netmask 128 prefixLen < 2 ^ 128 then
          some (⟨.v6 ⟨value &&& netmask 128 prefixLen,
            if value &&& netmask 128 prefixLen = value then scopeId else none, bound⟩,
            prefixLen⟩ : Network)
        else none) = some network := by
    cases mask with
    | none => exact ⟨128, Nat.le_refl 128, read⟩
    | some mask =>
        obtain ⟨prefixLen, length, read⟩ := Option.bind_eq_some_iff.mp read
        exact ⟨prefixLen, prefixFromDigits_le length, read⟩
  obtain ⟨prefixLen, within, made⟩ := length
  obtain ⟨bound, ⟨⟩⟩ := Option.dite_none_right_eq_some.mp made
  exact ⟨within, masked_dvd bound within⟩

theorem ipNetwork_masked {s : Text} {network : Network} (read : ipNetwork s = .ok network) :
    network.Masked := by
  unfold ipNetwork at read
  split at read
  · rename_i v4
    cases read
    exact ipv4Network_masked v4
  · split at read
    · rename_i v6
      cases read
      exact ipv6Network_masked v6
    · cases read

/-- An offset below the size of the host part stays in the network. -/
theorem add_and_netmask {bits prefixLen start offset : Nat} (bound : start + offset < 2 ^ bits)
    (within : prefixLen ≤ bits) (noHostBits : 2 ^ (bits - prefixLen) ∣ start) :
    (start + offset) &&& netmask bits prefixLen = start ↔ offset < 2 ^ (bits - prefixLen) := by
  have positive : 0 < 2 ^ (bits - prefixLen) := Nat.two_pow_pos _
  obtain ⟨block, blocks⟩ := noHostBits
  rw [and_netmask bound within, blocks, Nat.mul_add_div positive]
  rw [Nat.mul_comm (block + _), Nat.mul_right_inj (by omega)]
  constructor
  · intro same
    have none : offset / 2 ^ (bits - prefixLen) = 0 := by omega
    exact (Nat.div_eq_zero_iff_lt positive).mp none
  · intro small
    rw [Nat.div_eq_of_lt small, Nat.add_zero]

theorem hostmask_eq {bits prefixLen : Nat} (within : prefixLen ≤ bits) :
    netmask bits prefixLen ^^^ (2 ^ bits - 1) = 2 ^ (bits - prefixLen) - 1 := by
  apply Nat.eq_of_testBit_eq
  intro i
  rw [Nat.testBit_xor, testBit_netmask, Nat.testBit_two_pow_sub_one, Nat.testBit_two_pow_sub_one]
  by_cases low : prefixLen + i < bits
  · have inside : i < bits := by omega
    have host : i < bits - prefixLen := by omega
    rw [decide_eq_true low, decide_eq_true inside, decide_eq_true host]
    rfl
  · have outside : ¬ i < bits - prefixLen := by omega
    rw [decide_eq_false low, decide_eq_false outside, Bool.not_false, Bool.and_true]
    exact bne_self_eq_false _

theorem Network.Masked.broadcastValue_eq {network : Network} (masked : network.Masked) :
    network.broadcastValue =
      network.networkAddress.value +
        (2 ^ (network.networkAddress.bits - network.prefixLen) - 1) := by
  have positive : 0 < 2 ^ (network.networkAddress.bits - network.prefixLen) := Nat.two_pow_pos _
  obtain ⟨block, blocks⟩ := masked.noHostBits
  rw [Network.broadcastValue, Network.netmask, hostmask_eq masked.within, blocks]
  exact (Nat.two_pow_add_eq_or_of_lt (by omega) block).symm

/- The compression of zero hextets -/

/-- What the scan knows of the hextets it has seen: the best run and the open one. -/
structure ZeroRuns.Seen (runs : ZeroRuns) (seen : List Text) : Prop where
  best : ∃ before after, seen = before ++ List.replicate runs.bestLength ['0'] ++ after ∧
    before.length = runs.bestStart
  current : ∃ before, seen = before ++ List.replicate runs.length ['0'] ∧
    ∀ start, runs.start = some start → start = before.length
  closed : runs.start = none → runs.length = 0

theorem ZeroRuns.Seen.next {runs : ZeroRuns} {seen : List Text} (known : runs.Seen seen)
    (hextet : Text) : (runs.next seen.length hextet).Seen (seen ++ [hextet]) := by
  obtain ⟨before, after, best, bestStart⟩ := known.best
  have further : seen ++ [hextet] =
      before ++ List.replicate runs.bestLength ['0'] ++ (after ++ [hextet]) := by
    rw [best, List.append_assoc _ after]
  rw [ZeroRuns.next]
  split
  · rename_i zero
    obtain ⟨shorter, current, start⟩ := known.current
    have grown : seen ++ [hextet] = shorter ++ List.replicate (runs.length + 1) ['0'] := by
      rw [current, zero, List.replicate_succ', List.append_assoc]
    have same : runs.start.getD seen.length = shorter.length := by
      cases opened : runs.start with
      | none =>
          have none := known.closed opened
          rw [none, List.replicate_zero, List.append_nil] at current
          rw [current]
          rfl
      | some first => exact start first opened
    have inRun : ∀ first, some (runs.start.getD seen.length) = some first → first = shorter.length := by
      intro first opened
      cases opened
      exact same
    dsimp only
    split
    · exact ⟨⟨shorter, [], by rw [grown, List.append_nil], same.symm⟩, ⟨shorter, grown, inRun⟩,
        by simp⟩
    · exact ⟨⟨before, after ++ [hextet], further, bestStart⟩, ⟨shorter, grown, inRun⟩, by simp⟩
  · exact ⟨⟨before, after ++ [hextet], further, bestStart⟩,
      ⟨seen ++ [hextet], by simp, by simp⟩, fun _ => rfl⟩

theorem zeroRuns_append_single (hextets : List Text) (hextet : Text) :
    zeroRuns (hextets ++ [hextet]) = (zeroRuns hextets).next hextets.length hextet := by
  rw [zeroRuns, List.zipIdx_append, List.foldl_append, Nat.zero_add]
  rfl

theorem zeroRuns_seen (hextets : List Text) : (zeroRuns hextets).Seen hextets := by
  induction hextets using List.reverseRecOn with
  | nil => exact ⟨⟨[], [], rfl, rfl⟩, ⟨[], rfl, fun _ opened => nomatch opened⟩, fun _ => rfl⟩
  | append_singleton hextets hextet ih =>
      rw [zeroRuns_append_single]
      exact ih.next hextet

/-- The parts of a text in which a run of zeros between two lists is left out. -/
def elided (before after : List Text) : List Text :=
  (if before = [] then [[]] else before) ++ [[]] ++ (if after = [] then [[]] else after)

theorem compressHextets_cases (hextets : List Text) :
    compressHextets hextets = hextets ∨
      ∃ before count after, 2 ≤ count ∧ hextets = before ++ List.replicate count ['0'] ++ after ∧
        compressHextets hextets = elided before after := by
  unfold compressHextets
  dsimp only
  split
  · rename_i several
    obtain ⟨before, after, whole, start⟩ := (zeroRuns_seen hextets).best
    refine Or.inr ⟨before, _, after, several, whole, ?_⟩
    revert whole several
    rw [← start]
    generalize (zeroRuns hextets).bestLength = count
    intro several whole
    have taken : hextets.take before.length = before := by
      rw [whole, List.append_assoc]
      exact List.take_left
    have ends : before.length + count = (before ++ List.replicate count ['0']).length := by
      rw [List.length_append, List.length_replicate]
    have dropped : hextets.drop (before.length + count) = after := by
      rw [whole, ends]
      exact List.drop_left
    have length : hextets.length = before.length + count + after.length := by
      rw [whole, List.length_append, ends]
    rw [taken, dropped, length, elided]
    cases before <;> cases after <;> simp
  · exact Or.inl rfl

/- IPv6 texts -/

theorem parseHextet_eq_some {hextet : Text} {value : Nat} (read : parseHextet hextet = some value) :
    hextet.all isHexDigit = true ∧ hextet ≠ [] ∧ value = digitsValue 16 hextet := by
  unfold parseHextet at read
  split at read
  · cases read
  · rename_i digits
    split at read
    · cases read
    · split at read
      · cases read
      · rename_i filled
        cases read
        exact ⟨by simpa using digits, by simpa using filled, rfl⟩

theorem parseHextet_of_hex {hextet : Text} (digits : hextet.all isHexDigit = true)
    (short : hextet.length ≤ 4) (filled : hextet ≠ []) :
    parseHextet hextet = some (digitsValue 16 hextet) := by
  have long : ¬ 4 < hextet.length := by omega
  rw [parseHextet, digits, if_neg long]
  simp [filled]

theorem parseHextet_hex {value : Nat} (bound : value < 2 ^ 16) : parseHextet (hex value) = some value := by
  have digits : (hex value).all isHexDigit = true := by
    rw [List.all_eq_true]
    intro c member
    exact isHexDigit_of_mem_hex member
  have short : (hex value).length ≤ 4 := by
    rw [hex, Nat.length_toDigits_le_iff (by decide) (by decide)]
    exact bound
  rw [parseHextet_of_hex digits short Nat.toDigits_ne_nil, hex,
    digitsValue_toDigits (by decide) (by decide)]

theorem mem_of_mapM {parse : Text → Option Nat} {texts : List Text} {values : List Nat}
    (read : texts.mapM parse = some values) : ∀ part ∈ texts, ∃ value, parse part = some value := by
  induction texts generalizing values with
  | nil =>
      intro part member
      cases member
  | cons first rest ih =>
      rw [List.mapM_cons] at read
      obtain ⟨value, head, read⟩ := Option.bind_eq_some_iff.mp read
      obtain ⟨others, tail, -⟩ := Option.bind_eq_some_iff.mp read
      intro part member
      rcases List.mem_cons.mp member with here | later
      · exact ⟨value, here ▸ head⟩
      · exact ih tail part later

theorem mapM_append_some {before after : List Text} {high low : List Nat}
    (first : before.mapM parseHextet = some high) (second : after.mapM parseHextet = some low) :
    (before ++ after).mapM parseHextet = some (high ++ low) := by
  rw [List.mapM_append, first, second]
  rfl

theorem mapM_append_inv {before after : List Text} {values : List Nat}
    (read : (before ++ after).mapM parseHextet = some values) :
    ∃ high low, before.mapM parseHextet = some high ∧ after.mapM parseHextet = some low ∧
      values = high ++ low := by
  rw [List.mapM_append] at read
  obtain ⟨high, first, read⟩ := Option.bind_eq_some_iff.mp read
  obtain ⟨low, second, same⟩ := Option.bind_eq_some_iff.mp read
  cases same
  exact ⟨high, low, first, second, rfl⟩

theorem mapM_zeros (count : Nat) :
    (List.replicate count ['0']).mapM parseHextet = some (List.replicate count 0) := by
  induction count with
  | zero => rfl
  | succ count ih =>
      rw [List.replicate_succ, List.mapM_cons, ih]
      rfl

/-- Colons and dots are no hexadecimal digits. -/
theorem notMem_of_parseHextet {hextet : Text} {value : Nat} {stop : Char}
    (read : parseHextet hextet = some value) (visible : isHexDigit stop = false) : stop ∉ hextet := by
  intro member
  have digit := List.all_eq_true.mp (parseHextet_eq_some read).1 stop member
  rw [visible] at digit
  cases digit

theorem hextetParts_of_parts {parts : List Text} (several : 3 ≤ parts.length)
    (plain : ∀ part ∈ parts, part = [] ∨ ∃ value, parseHextet part = some value) :
    hextetParts (join [':'] parts) = some parts := by
  have absent : ∀ stop, isHexDigit stop = false → ∀ part ∈ parts, stop ∉ part := by
    intro stop visible part member
    rcases plain part member with empty | ⟨value, read⟩
    · rw [empty]
      exact List.not_mem_nil
    · exact notMem_of_parseHextet read visible
  have filled : parts ≠ [] := by
    intro empty
    rw [empty] at several
    cases several
  have last : '.' ∉ parts.getLastD [] := by
    rw [List.getLastD_eq_getLast?, List.getLast?_eq_some_getLast filled]
    exact absent '.' (by decide) _ (List.getLast_mem filled)
  have enough : ¬ parts.length < 3 := by omega
  rw [hextetParts, splitOn_join (absent ':' (by decide)) filled]
  dsimp only
  rw [if_neg enough, if_neg last]

theorem filter_range_eq_single {count position : Nat} {test : Nat → Bool} (inside : position < count)
    (only : ∀ i, i < count → test i = (i == position)) :
    (List.range count).filter test = [position] := by
  have same : (List.range count).filter test = (List.range count).filter (· == position) := by
    apply List.filter_congr
    intro i member
    exact only i (List.mem_range.mp member)
  rw [same, List.filter_beq,
    List.count_eq_one_of_mem List.nodup_range (List.mem_range.mpr inside)]
  rfl

/-- The only inner place where two colons meet is the one between the two lists. -/
theorem skipIndices_between {lead trail : List Text} (opened : lead ≠ []) (ended : trail ≠ [])
    (leadFilled : ∀ i, 1 ≤ i → lead[i]? ≠ some [])
    (trailFilled : ∀ i, i + 1 < trail.length → trail[i]? ≠ some []) :
    skipIndices (lead ++ [[]] ++ trail) = [lead.length] := by
  have leadPositive := List.length_pos_iff.mpr opened
  have trailPositive := List.length_pos_iff.mpr ended
  have length : (lead ++ [[]] ++ trail).length = lead.length + 1 + trail.length := by
    simp only [List.length_append, List.length_singleton]
  rw [skipIndices, length]
  apply filter_range_eq_single (by omega)
  intro i inside
  rw [Bool.eq_iff_iff, Bool.and_eq_true, decide_eq_true_iff, beq_iff_eq, beq_iff_eq,
    List.append_assoc]
  rcases Nat.lt_trichotomy i lead.length with before | here | after
  · rw [List.getElem?_append_left before]
    constructor
    · intro empty
      exact absurd empty.2 (leadFilled i empty.1)
    · intro same
      omega
  · rw [here, List.getElem?_append_right (Nat.le_refl _), Nat.sub_self]
    exact ⟨fun _ => rfl, fun _ => ⟨leadPositive, rfl⟩⟩
  · obtain ⟨offset, position⟩ := Nat.exists_eq_add_of_lt after
    have rest : i - lead.length = offset + 1 := by omega
    rw [List.getElem?_append_right (by omega), rest, List.singleton_append, List.getElem?_cons_succ]
    constructor
    · intro empty
      exact absurd empty.2 (trailFilled offset (by omega))
    · intro same
      omega

theorem skipIndices_filled {parts : List Text} (filled : ∀ part ∈ parts, part ≠ []) :
    skipIndices parts = [] := by
  rw [skipIndices, List.filter_eq_nil_iff]
  intro i _
  rw [Bool.and_eq_true, beq_iff_eq]
  intro empty
  exact filled [] (List.mem_of_getElem? empty.2) rfl

theorem head?_ne_nil {parts : List Text} (filled : ∀ part ∈ parts, part ≠ []) :
    parts.head? ≠ some [] := fun empty => filled [] (List.mem_of_head? empty) rfl

theorem getLast?_ne_nil {parts : List Text} (filled : ∀ part ∈ parts, part ≠ []) :
    parts.getLast? ≠ some [] := fun empty => filled [] (List.mem_of_getLast? empty) rfl

theorem filled_of_mapM {texts : List Text} {values : List Nat}
    (read : texts.mapM parseHextet = some values) : ∀ part ∈ texts, part ≠ [] := by
  intro part member
  obtain ⟨value, head⟩ := mem_of_mapM read part member
  exact (parseHextet_eq_some head).2.1

/-- Eight hextets without an elision. -/
theorem parseIPv6_full {texts : List Text} {values : List Nat} (eight : texts.length = 8)
    (read : texts.mapM parseHextet = some values) :
    parseIPv6 (join [':'] texts) = some (joinWords 16 values) := by
  have filled := filled_of_mapM read
  have parts : hextetParts (join [':'] texts) = some texts :=
    hextetParts_of_parts (by omega) fun part member => Or.inr (mem_of_mapM read part member)
  have whole : ¬ (texts.length ≠ 8 ∨ texts.head? = some [] ∨ texts.getLast? = some []) := by
    simp [eight, head?_ne_nil filled, getLast?_ne_nil filled]
  have few : ¬ 9 < texts.length := by omega
  rw [parseIPv6, parts, Option.bind_eq_bind, Option.bind_some, if_neg few, skipIndices_filled filled]
  dsimp only
  rw [if_neg whole, read]
  rfl

/-- Where a side of the elision is empty, a colon stands at that end of the text. -/
def side (hextets : List Text) : List Text := if hextets = [] then [[]] else hextets

theorem elided_eq (before after : List Text) : elided before after = side before ++ [[]] ++ side after :=
  rfl

section Side

variable {hextets : List Text} (filled : ∀ part ∈ hextets, part ≠ [])

theorem side_ne_nil (hextets : List Text) : side hextets ≠ [] := by
  rw [side]
  split
  · exact List.cons_ne_nil [] []
  · assumption

include filled

theorem head?_side : (side hextets).head? = some [] ↔ hextets = [] := by
  rw [side]
  split
  · rename_i empty
    simp [empty]
  · rename_i some
    simp [some, head?_ne_nil filled]

theorem getLast?_side : (side hextets).getLast? = some [] ↔ hextets = [] := by
  rw [side]
  split
  · rename_i empty
    simp [empty]
  · rename_i some
    simp [some, getLast?_ne_nil filled]

theorem getElem?_side {i : Nat} (inner : 1 ≤ i ∨ i + 1 < (side hextets).length) :
    (side hextets)[i]? ≠ some [] := by
  rw [side] at inner ⊢
  split
  · rename_i empty
    rw [if_pos empty, List.length_singleton] at inner
    have later : 1 ≤ i := by omega
    rw [List.getElem?_eq_none (by simpa using later)]
    exact Option.some_ne_none _ ∘ Eq.symm
  · intro empty
    exact filled [] (List.mem_of_getElem? empty) rfl

end Side

theorem length_side (hextets : List Text) :
    (side hextets).length = if hextets = [] then 1 else hextets.length := by
  rw [side]
  split <;> rfl

theorem mem_side {hextets : List Text} {values : List Nat} {part : Text}
    (read : hextets.mapM parseHextet = some values) (member : part ∈ side hextets) :
    part = [] ∨ ∃ value, parseHextet part = some value := by
  rw [side] at member
  split at member
  · exact Or.inl (List.mem_singleton.mp member)
  · exact Or.inr (mem_of_mapM read part member)

theorem take_elided (before after : List Text) : (elided before after).take before.length = before := by
  rw [elided_eq, side]
  split
  · rename_i empty
    rw [empty]
    rfl
  · rw [List.append_assoc]
    exact List.take_left

theorem drop_elided (before after : List Text) :
    (elided before after).drop ((elided before after).length - after.length) = after := by
  rw [elided_eq]
  by_cases empty : after = []
  · rw [empty]
    exact List.drop_length
  · rw [side.eq_def after, if_neg empty, List.length_append, Nat.add_sub_cancel]
    exact List.drop_left

/-- Hextets on both sides of an elision; the missing ones are zero. -/
theorem parseIPv6_elided {before after : List Text} {high low : List Nat}
    (first : before.mapM parseHextet = some high) (second : after.mapM parseHextet = some low)
    (short : before.length + after.length ≤ 7) :
    parseIPv6 (join [':'] (elided before after)) =
      some (joinWords 16 (high ++ List.replicate (8 - (before.length + after.length)) 0 ++ low)) := by
  have beforeFilled := filled_of_mapM first
  have afterFilled := filled_of_mapM second
  have beforeLength := length_side before
  have afterLength := length_side after
  have length : (elided before after).length = (side before).length + 1 + (side after).length := by
    simp only [elided_eq, List.length_append, List.length_singleton]
  have several : 3 ≤ (elided before after).length ∧ (elided before after).length ≤ 9 := by
    have some : before ≠ [] → 0 < before.length := List.length_pos_iff.mpr
    have some' : after ≠ [] → 0 < after.length := List.length_pos_iff.mpr
    split at beforeLength <;> split at afterLength <;> simp_all <;> omega
  have parts : hextetParts (join [':'] (elided before after)) = some (elided before after) := by
    apply hextetParts_of_parts several.1
    intro part member
    rw [elided_eq, List.mem_append, List.mem_append, List.mem_singleton] at member
    rcases member with (inside | middle) | inside
    · exact mem_side first inside
    · exact Or.inl middle
    · exact mem_side second inside
  have leading : (elided before after).head? = some [] ↔ before = [] := by
    rw [elided_eq, List.append_assoc, List.head?_append_of_ne_nil _ (side_ne_nil before)]
    exact head?_side beforeFilled
  have trailing : (elided before after).getLast? = some [] ↔ after = [] := by
    rw [elided_eq, List.getLast?_append_of_ne_nil _ (side_ne_nil after)]
    exact getLast?_side afterFilled
  have skip : skipIndices (elided before after) = [(side before).length] :=
    skipIndices_between (side_ne_nil before) (side_ne_nil after)
      (fun i later => getElem?_side beforeFilled (Or.inl later))
      (fun i inner => getElem?_side afterFilled (Or.inr inner))
  have few : ¬ 9 < (elided before after).length := by omega
  rw [parseIPv6, parts, Option.bind_eq_bind, Option.bind_some, if_neg few, skip]
  dsimp only
  have highLength : (if (elided before after).head? = some [] then (side before).length - 1
      else (side before).length) = before.length := by
    rw [beforeLength]
    simp only [leading]
    split <;> simp_all
  have lowLength : (if (elided before after).getLast? = some [] then
      (elided before after).length - (side before).length - 2
      else (elided before after).length - (side before).length - 1) = after.length := by
    rw [length, afterLength]
    simp only [trailing]
    split <;> simp_all <;> omega
  have sides : ¬ ((elided before after).head? = some [] ∧ before.length ≠ 0 ∨
      (elided before after).getLast? = some [] ∧ after.length ≠ 0) := by
    simp only [leading, trailing]
    rintro (⟨empty, some⟩ | ⟨empty, some⟩)
    · exact some (by rw [empty]; rfl)
    · exact some (by rw [empty]; rfl)
  rw [highLength, lowLength, if_neg sides, if_neg (by omega), take_elided, first, drop_elided, second]
  rfl

/-- Compression does not change what is read. -/
theorem parseIPv6_compressHextets {texts : List Text} {values : List Nat} (eight : texts.length = 8)
    (read : texts.mapM parseHextet = some values) :
    parseIPv6 (join [':'] (compressHextets texts)) = some (joinWords 16 values) := by
  rcases compressHextets_cases texts with same | ⟨before, count, after, several, whole, compressed⟩
  · rw [same]
    exact parseIPv6_full eight read
  · rw [whole] at read
    obtain ⟨front, low, read, second, whole'⟩ := mapM_append_inv read
    obtain ⟨high, zeros, first, middle, front'⟩ := mapM_append_inv read
    rw [mapM_zeros] at middle
    cases middle
    have length : before.length + count + after.length = 8 := by
      rw [← eight, whole, List.length_append, List.length_append, List.length_replicate]
    have missing : 8 - (before.length + after.length) = count := by omega
    rw [compressed, parseIPv6_elided first second (by omega), missing, whole', front']

theorem joinWords_hextets (address : IPv6Address) : joinWords 16 address.hextets = address.value := by
  have bound := address.bound
  simp only [joinWords, IPv6Address.hextets, List.range, List.range.loop, List.map_cons, List.map_nil,
    List.foldl_cons, List.foldl_nil]
  omega

theorem hextet_lt (address : IPv6Address) : ∀ hextet ∈ address.hextets, hextet < 2 ^ 16 := by
  intro hextet member
  obtain ⟨index, -, same⟩ := List.mem_map.mp member
  rw [← same]
  exact Nat.mod_lt _ (by decide)

/-- The text of an address without a zone id is read as the address. -/
theorem parseIPv6_digits (address : IPv6Address) : parseIPv6 address.digits = some address.value := by
  have read := mapM_toDigits fun hextet member => parseHextet_hex (hextet_lt address hextet member)
  rw [IPv6Address.digits, ← joinWords_hextets address]
  exact parseIPv6_compressHextets (by simp [IPv6Address.hextets]) read

/- Texts appended to the text of an address -/

/-- A text appended behind a run of zeros that ends the address is its last hextet. -/
theorem parseIPv6_run_append {before : List Text} {high : List Nat} {suffix : Text} {value : Nat}
    (first : before.mapM parseHextet = some high) (alone : [suffix].mapM parseHextet = some [value])
    (short : before.length ≤ 6) :
    parseIPv6 (join [':'] (elided before []) ++ suffix) =
      some (joinWords 16 (high ++ List.replicate (7 - before.length) 0 ++ [value])) := by
  have parts : elided before [] = side before ++ [[]] ++ [[]] := rfl
  have parts' : side before ++ [[]] ++ [[] ++ suffix] = elided before [suffix] := rfl
  have fits : before.length + [suffix].length ≤ 7 := by
    rw [List.length_singleton]
    omega
  have missing : 8 - (before.length + [suffix].length) = 7 - before.length := by
    rw [List.length_singleton]
    omega
  rw [parts, join_append_last, parts', parseIPv6_elided first alone fits, missing]

/-- A text appended to a last hextet behind the run belongs to that hextet. -/
theorem parseIPv6_last_append {before after : List Text} {high low : List Nat} {last suffix : Text}
    {value : Nat} (first : before.mapM parseHextet = some high) (second : after.mapM parseHextet = some low)
    (longer : [last ++ suffix].mapM parseHextet = some [value])
    (short : before.length + after.length ≤ 6) :
    parseIPv6 (join [':'] (elided before (after ++ [last])) ++ suffix) =
      some (joinWords 16 (high ++ List.replicate (7 - (before.length + after.length)) 0 ++ (low ++ [value]))) := by
  have fits : before.length + (after ++ [last ++ suffix]).length ≤ 7 := by
    rw [List.length_append, List.length_singleton]
    omega
  have missing : 8 - (before.length + (after ++ [last ++ suffix]).length) =
      7 - (before.length + after.length) := by
    rw [List.length_append, List.length_singleton]
    omega
  have ended : ∀ part, elided before (after ++ [part]) = side before ++ [[]] ++ after ++ [part] := by
    intro part
    rw [elided_eq, side.eq_def (after ++ [part]), if_neg (by simp)]
    exact (List.append_assoc _ _ _).symm
  have second' := mapM_append_some second longer
  rw [ended, join_append_last, ← ended, parseIPv6_elided first second' fits, missing]

/-- A text of digits after a compressed address whose last hextet is zero is read as
that hextet: it follows either the colons of an elision or a zero. -/
theorem parseIPv6_appended {front : List Text} {values : List Nat} {suffix : Text}
    (seven : front.length = 7) (read : front.mapM parseHextet = some values)
    (digits : suffix.all isHexDigit = true) (filled : suffix ≠ []) (short : suffix.length ≤ 3) :
    parseIPv6 (join [':'] (compressHextets (front ++ [['0']])) ++ suffix) =
      some (joinWords 16 (values ++ [digitsValue 16 suffix])) := by
  have alone : [suffix].mapM parseHextet = some [digitsValue 16 suffix] := by
    rw [List.mapM_cons, parseHextet_of_hex digits (by omega) filled]
    rfl
  have afterZero : [['0'] ++ suffix].mapM parseHextet = some [digitsValue 16 suffix] := by
    have length : (['0'] ++ suffix).length ≤ 4 := by
      rw [List.length_append, List.length_singleton]
      omega
    have zero : (['0'] ++ suffix).all isHexDigit = true := by
      rw [List.all_append, digits]
      rfl
    rw [List.mapM_cons, parseHextet_of_hex zero length (List.cons_ne_nil _ _),
      List.singleton_append, digitsValue_cons_zero]
    rfl
  rcases compressHextets_cases (front ++ [['0']]) with
    same | ⟨before, count, after, several, whole, compressed⟩
  · rw [same, join_append_last]
    apply parseIPv6_full
    · rw [List.length_append, seven]
      rfl
    · exact mapM_append_some read afterZero
  · rw [compressed]
    have length : before.length + count + after.length = 8 := by
      have sizes := congrArg List.length whole
      simp only [List.length_append, List.length_replicate, List.length_singleton] at sizes
      omega
    induction after using List.reverseRecOn with
    | nil =>
        obtain ⟨fewer, count⟩ : ∃ fewer, count = fewer + 1 := ⟨count - 1, by omega⟩
        rw [count, List.replicate_succ', List.append_nil, ← List.append_assoc] at whole
        have front' := List.append_inj_left' whole rfl
        rw [front'] at read
        obtain ⟨high, zeros, first, middle, values'⟩ := mapM_append_inv read
        rw [mapM_zeros] at middle
        cases middle
        rw [List.length_nil] at length
        have missing : 7 - before.length = fewer := by omega
        rw [parseIPv6_run_append first alone (by omega), missing, values']
    | append_singleton after last =>
        rw [← List.append_assoc] at whole
        have front' := List.append_inj_left' whole rfl
        have last' : ['0'] = last := List.singleton_inj.mp (List.append_inj_right' whole rfl)
        rw [front'] at read
        obtain ⟨front', low, read, second, values'⟩ := mapM_append_inv read
        obtain ⟨high, zeros, first, middle, front''⟩ := mapM_append_inv read
        rw [mapM_zeros] at middle
        cases middle
        rw [List.length_append, List.length_singleton] at length
        have missing : 7 - (before.length + after.length) = count := by omega
        rw [← last', parseIPv6_last_append first second afterZero (by omega), missing, values', front'',
          List.append_assoc (high ++ _)]

/-- Digits after the text of an address whose low hextet is clear are read as that hextet. -/
theorem parseIPv6_digits_append (address : IPv6Address) {suffix : Text}
    (clear : 2 ^ 16 ∣ address.value) (digits : suffix.all isHexDigit = true) (filled : suffix ≠ [])
    (short : suffix.length ≤ 3) :
    parseIPv6 (address.digits ++ suffix) = some (address.value + digitsValue 16 suffix) := by
  have split : address.hextets = address.hextets.dropLast ++ [0] := by
    have last : address.value / 2 ^ 0 % 2 ^ 16 = 0 := by
      rw [Nat.pow_zero, Nat.div_one]
      exact Nat.mod_eq_zero_of_dvd clear
    have ends : address.hextets = address.hextets.dropLast ++ [address.value / 2 ^ 0 % 2 ^ 16] := rfl
    rw [last] at ends
    exact ends
  have seven : (address.hextets.dropLast.map hex).length = 7 := by
    simp [IPv6Address.hextets]
  have read : (address.hextets.dropLast.map hex).mapM parseHextet = some address.hextets.dropLast :=
    mapM_toDigits fun hextet member =>
      parseHextet_hex (hextet_lt address hextet (List.mem_of_mem_dropLast member))
  have value := joinWords_hextets address
  rw [split, joinWords_append_single, Nat.add_zero] at value
  rw [IPv6Address.digits, split, List.map_append]
  have zero : [0].map hex = [['0']] := rfl
  rw [zero, parseIPv6_appended seven read digits filled short, joinWords_append_single, value]

/-- `IPv6Address(s)`. -/
def IPv6Address.ofText (s : Text) : Option IPv6Address := do
  if s.contains '/' then none
  else
    let (digits, scopeId) ← splitScopeId s
    let value ← parseIPv6 digits
    if bound : value < 2 ^ 128 then some ⟨value, scopeId, bound⟩ else none

theorem splitScopeId_of_notMem {s : Text} (absent : '%' ∉ s) : splitScopeId s = some (s, none) := by
  have none : contains ['%'] s = false := by
    rw [Bool.eq_false_iff]
    intro found
    exact absent (((contains_iff _ _).mp found).subset List.mem_cons_self)
  rw [splitScopeId, cut_eq_none_iff.mpr none]

/-- A text of hextets is read without a zone id. -/
theorem IPv6Address.ofText_eq_some {s : Text} {value : Nat} (bound : value < 2 ^ 128)
    (plain : ∀ c ∈ s, isHexDigit c = true ∨ c = ':') (read : parseIPv6 s = some value) :
    IPv6Address.ofText s = some ⟨value, none, bound⟩ := by
  have absent : ∀ stop, isHexDigit stop = false → stop ≠ ':' → stop ∉ s := by
    intro stop visible colon member
    rcases plain stop member with digit | same
    · rw [visible] at digit
      cases digit
    · exact colon same
  have slash : s.contains '/' = false := by
    rw [Bool.eq_false_iff, ne_eq, List.contains_iff_mem]
    exact absent '/' (by decide) (by decide)
  rw [IPv6Address.ofText, slash, splitScopeId_of_notMem (absent '%' (by decide) (by decide))]
  simp only [Bool.false_eq_true, if_false, Option.bind_eq_bind, Option.bind_some, read, dif_pos bound]

theorem isHexDigit_of_isDigit {c : Char} (digit : c.isDigit = true) : isHexDigit c = true := by
  rw [isHexDigit, digit]
  rfl

theorem isDigit_of_parseOctet {octet : Text} {value : Nat} (read : parseOctet octet = some value) :
    ∀ c ∈ octet, c.isDigit = true := by
  rw [parseOctet] at read
  split at read
  · cases read
  · split at read
    · cases read
    · rename_i digits
      exact List.all_eq_true.mp (by simpa using digits)

/-- The text of an IPv4 address is of digits and dots. -/
theorem mem_of_parseIPv4 {s : Text} {value : Nat} (read : parseIPv4 s = some value) :
    ∀ c ∈ s, c.isDigit = true ∨ c = '.' := by
  rw [parseIPv4] at read
  split at read
  · cases read
  · have ⟨octets, parsed, _⟩ := Option.map_eq_some_iff.mp read
    intro c member
    have pieces : join ['.'] (s.splitOn '.') = s := List.intercalate_splitOn '.'
    rw [← pieces] at member
    rcases mem_join member with dot | ⟨octet, inside, here⟩
    · exact Or.inr (List.mem_singleton.mp dot)
    · have ⟨number, readOctet⟩ := mem_of_mapM parsed octet inside
      exact Or.inl (isDigit_of_parseOctet readOctet c here)

/-- The text of an IPv6 address has a colon. -/
theorem colon_mem_of_parseIPv6 {s : Text} {value : Nat} (read : parseIPv6 s = some value) : ':' ∈ s := by
  by_contra absent
  rw [parseIPv6, hextetParts, splitOn_of_notMem absent] at read
  cases read

theorem colon_mem_of_ofText {s : Text} {address : IPv6Address} (read : IPv6Address.ofText s = some address) :
    ':' ∈ s := by
  rw [IPv6Address.ofText] at read
  split at read
  · cases read
  · obtain ⟨⟨digits, scopeId⟩, zoned, read⟩ := Option.bind_eq_some_iff.mp read
    obtain ⟨value, parsed, -⟩ := Option.bind_eq_some_iff.mp read
    have inside := colon_mem_of_parseIPv6 parsed
    rw [splitScopeId] at zoned
    split at zoned
    · cases zoned
      exact inside
    · rename_i before scope found
      split at zoned
      · cases zoned
      · cases zoned
        rw [cut_eq_some found]
        exact List.mem_append_left _ (List.mem_append_left _ inside)

end PyIpAddress
