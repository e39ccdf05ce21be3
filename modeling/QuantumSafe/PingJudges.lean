import QuantumSafe.CeosJson
import QuantumSafe.DockerCalls
import QuantumSafe.PyFloat

set_option autoImplicit false

/- The three judges of a ping: `ping_text_success` and `ping_json_success` of
`lab/ceos_json.py`, and the reachability gate in `run_radsec_checks` of
`lab/test_radsec.py`. -/
namespace QuantumSafe.PingJudges

open PyText PyJson CeosJson
open DockerCalls (CompletedProcess)

def totalLoss : Text := text "100% packet loss"

/-- `_PING_SUCCESS_MARKERS`. -/
def noLoss : Text := text "0% packet loss"
def fullRate : Text := text "Success rate is 100 percent"

def pingTextSuccess (s : Text) : Bool :=
  if contains totalLoss s then false
  else if contains fullRate s then true
  else contains noLoss s

/-- The texts that `pingTextSuccess` looks for: no "100% packet loss", and "Success rate is 100
percent" or "0% packet loss" anywhere, so in "10% packet loss" too. -/
def SuccessTexts (s : Text) : Prop :=
  contains totalLoss s = false ∧ (contains fullRate s = true ∨ contains noLoss s = true)

theorem pingTextSuccess_texts {s : Text} : pingTextSuccess s = true ↔ SuccessTexts s := by
  unfold pingTextSuccess SuccessTexts
  cases contains totalLoss s <;> cases contains fullRate s <;> simp

/-- The exception of `float(loss)` that `ping_json_success` does not catch. -/
inductive PingRaised where
  | overflowError
deriving DecidableEq, Repr

/-- `float(loss) == 0.0`, and none for the exceptions that are caught. -/
def lossIsZero : Json → Except PingRaised (Option Bool)
  | .bool value => .ok (some !value)
  | .int value =>
      if PyFloat.tooLarge ≤ value.natAbs then .error .overflowError else .ok (some (value == 0))
  | .float _ order => .ok (some (order == some .eq))
  | .str value => .ok (PyFloat.textIsZero value)
  | .null | .list _ | .object _ => .ok none

def lossFields : List Text := [text "packetLoss", text "packetLossPercent", text "lossRate"]

/-- The verdict of the first loss field with a number, if there is one. -/
def numericLoss (tree : Json) : List Text → Except PingRaised (Option Bool)
  | [] => .ok none
  | name :: rest =>
      match jsonFindValue name tree with
      | none => numericLoss tree rest
      | some loss => do
          match ← lossIsZero loss with
          | some verdict => return some verdict
          | none => numericLoss tree rest

def pingJsonSuccess (tree : Json) : Except PingRaised Bool := do
  match ← numericLoss tree lossFields with
  | some verdict => return verdict
  | none => return jsonTreeContains tree noLoss || jsonTreeContains tree fullRate

/-- The `PqcConnectionError` of the gate, with the values that its message quotes. -/
structure PingFailed where
  node : Text
  family : Text
  address : Text
  detail : Text
deriving DecidableEq, Repr

/-- The reachability gate of `run_radsec_checks`. -/
def checkRadiusPing (node family address : Text) (result : CompletedProcess) : Except PingFailed Unit :=
  if result.returncode != 0 || !contains noLoss result.stdout then
    let said := strip result.stderr
    .error ⟨node, family, address, if said = [] then strip result.stdout else said⟩
  else .ok ()

section Percent

def lossSuffix : Text := text "% packet loss"

/-- A text with a marker in one place only contains a longer text that ends with the
marker iff that text ends there. -/
theorem contains_onto_only {digits marker s front back : Text} (split : s = front ++ marker ++ back)
    (only : ∀ front' back', s = front' ++ marker ++ back' → front' = front) :
    contains (digits ++ marker) s = true ↔ digits <:+ front := by
  rw [contains_iff]
  constructor
  · rintro ⟨before, after, whole⟩
    have here : s = (before ++ digits) ++ marker ++ after := by simp [← whole]
    exact ⟨before, only _ _ here⟩
  · rintro ⟨before, rfl⟩
    exact ⟨before, back, by simp [split]⟩

/-- The only loss statement of a text, with the text before and after it. -/
structure LossStatement (s : Text) (percent : Nat) (before after : Text) : Prop where
  split : s = before ++ natText percent ++ lossSuffix ++ after
  separate : ∀ c, before.getLast? = some c → c.isDigit = false
  only : ∀ front back, s = front ++ lossSuffix ++ back → front = before ++ natText percent

/-- The last digit of a numeral, and the digits in front of it. -/
theorem natText_last (n : Nat) :
    natText n = (if n < 10 then [] else natText (n / 10)) ++ [Nat.digitChar (n % 10)] := by
  rw [natText, Nat.toDigits_eq_if (by decide)]
  by_cases small : n < 10
  · simp [small, Nat.mod_eq_of_lt small]
  · simp [small, natText]

theorem digitChar_mod_ten {n digit : Nat} (small : digit < 10) :
    Nat.digitChar digit = Nat.digitChar (n % 10) ↔ n % 10 = digit := by
  constructor
  · intro same
    have values := congrArg Char.toNat same
    rw [Nat.toNat_digitChar_of_lt_ten small, Nat.toNat_digitChar_of_lt_ten (by omega)] at values
    omega
  · intro same
    rw [same]

theorem concat_suffix_iff {first second : Text} {c d : Char} :
    first ++ [c] <:+ second ++ [d] ↔ c = d ∧ first <:+ second := by
  constructor
  · rintro ⟨before, whole⟩
    rw [← List.append_assoc] at whole
    obtain ⟨front, last⟩ := List.append_inj' whole rfl
    exact ⟨List.singleton_inj.mp last, before, front⟩
  · rintro ⟨rfl, before, rfl⟩
    exact ⟨before, by simp⟩

/-- Digits do not end a text whose last character is none. -/
theorem suffix_separate_iff {digits before : Text}
    (numeral : ∀ c, digits.getLast? = some c → c.isDigit = true)
    (separate : ∀ c, before.getLast? = some c → c.isDigit = false) : digits <:+ before ↔ digits = [] := by
  constructor
  · rintro ⟨front, rfl⟩
    by_cases empty : digits = []
    · exact empty
    · have last := List.getLast?_eq_some_getLast empty
      have digit := numeral _ last
      have other := separate (digits.getLast empty) (by rw [List.getLast?_append, last]; rfl)
      rw [digit] at other
      cases other
  · rintro rfl
    exact List.nil_suffix

/-- A numeral at the end of a text, compared digit by digit. -/
theorem suffix_numeral_iff {digits before : Text} {digit n : Nat} (small : digit < 10)
    (numeral : ∀ c, digits.getLast? = some c → c.isDigit = true)
    (separate : ∀ c, before.getLast? = some c → c.isDigit = false) :
    digits ++ [Nat.digitChar digit] <:+ before ++ natText n ↔
      n % 10 = digit ∧ (digits = [] ∨ 10 ≤ n ∧ digits <:+ before ++ natText (n / 10)) := by
  rw [natText_last n, ← List.append_assoc, concat_suffix_iff, digitChar_mod_ten small]
  refine and_congr_right fun _ => ?_
  by_cases short : n < 10
  · rw [if_pos short, List.append_nil, suffix_separate_iff numeral separate]
    exact ⟨Or.inl, fun ends => ends.resolve_right fun long => by omega⟩
  · rw [if_neg short]
    constructor
    · intro ends
      exact Or.inr ⟨by omega, ends⟩
    · rintro (rfl | ⟨-, ends⟩)
      · exact List.nil_suffix
      · exact ends

variable {s before after : Text} {percent : Nat}

theorem contains_noLoss_iff (statement : LossStatement s percent before after) :
    contains noLoss s = true ↔ percent % 10 = 0 := by
  have marker : noLoss = ([] ++ [Nat.digitChar 0]) ++ lossSuffix := rfl
  rw [marker, contains_onto_only statement.split statement.only,
    suffix_numeral_iff (by decide) (by simp) statement.separate]
  simp

theorem contains_totalLoss_iff (statement : LossStatement s percent before after) :
    contains totalLoss s = true ↔ percent % 1000 = 100 := by
  have marker : totalLoss =
      ((([] ++ [Nat.digitChar 1]) ++ [Nat.digitChar 0]) ++ [Nat.digitChar 0]) ++ lossSuffix := rfl
  have one : ∀ c, ([] ++ [Nat.digitChar 1] : Text).getLast? = some c → c.isDigit = true := by simp
  have ten : ∀ c, ([] ++ [Nat.digitChar 1] ++ [Nat.digitChar 0] : Text).getLast? = some c →
      c.isDigit = true := by simp
  rw [marker, contains_onto_only statement.split statement.only,
    suffix_numeral_iff (by decide) ten statement.separate,
    suffix_numeral_iff (by decide) one statement.separate,
    suffix_numeral_iff (by decide) (by simp) statement.separate]
  simp only [List.nil_append, List.cons_append, reduceCtorEq, false_or, true_or, and_true]
  omega

/-- The verdict on the numeral of the loss statement. -/
theorem pingTextSuccess_iff (statement : LossStatement s percent before after)
    (noRate : contains (text "Success rate is") s = false) :
    pingTextSuccess s = true ↔ percent % 10 = 0 ∧ percent % 1000 ≠ 100 := by
  have rate : contains fullRate s = false := by
    rw [Bool.eq_false_iff] at noRate ⊢
    intro found
    have longer : fullRate = text "Success rate is" ++ text " 100 percent" := rfl
    rw [longer, contains_iff] at found
    exact noRate ((contains_iff _ _).mpr ((List.prefix_append _ _).isInfix.trans found))
  have total := contains_totalLoss_iff statement
  have none := contains_noLoss_iff statement
  unfold pingTextSuccess
  rw [rate]
  by_cases lost : contains totalLoss s = true
  · simp [lost, total.mp lost]
  · have other : percent % 1000 ≠ 100 := fun same => lost (total.mpr same)
    simp [lost, none, other]

/-- A text with one loss statement is judged right exactly when the percentage is zero,
does not end in the digit zero, or ends in the digits one, zero, zero. -/
theorem pingTextSuccess_zero_iff (statement : LossStatement s percent before after)
    (noRate : contains (text "Success rate is") s = false) :
    (pingTextSuccess s = true ↔ percent = 0) ↔
      percent = 0 ∨ percent % 10 ≠ 0 ∨ percent % 1000 = 100 := by
  rw [pingTextSuccess_iff statement noRate]
  constructor
  · intro right
    by_cases zero : percent = 0
    · exact Or.inl zero
    · by_cases last : percent % 10 = 0
      · by_cases hundred : percent % 1000 = 100
        · exact Or.inr (Or.inr hundred)
        · exact absurd (right.mp ⟨last, hundred⟩) zero
      · exact Or.inr (Or.inl last)
  · intro settled
    constructor
    · rintro ⟨last, hundred⟩
      omega
    · rintro rfl
      exact ⟨rfl, by decide⟩

/-- Between texts without a percent sign the statement is the only one. -/
theorem lossStatement_of_notMem (percent : Nat) (before after : Text)
    (separate : ∀ c, before.getLast? = some c → c.isDigit = false) (front : '%' ∉ before)
    (back : '%' ∉ after) :
    LossStatement (before ++ natText percent ++ lossSuffix ++ after) percent before after := by
  have numeral : '%' ∉ natText percent := by
    intro member
    have digit := Nat.isDigit_of_mem_toDigits (by decide) (by decide) member
    exact absurd digit (by decide)
  have outside : '%' ∉ before ++ natText percent := by
    rw [List.mem_append, not_or]
    exact ⟨front, numeral⟩
  have inside : '%' ∉ text " packet loss" ++ after := by
    rw [List.mem_append, not_or]
    exact ⟨by decide, back⟩
  refine ⟨rfl, separate, fun front' back' whole => ?_⟩
  have first (s t : Text) : s ++ lossSuffix ++ t = s ++ '%' :: (text " packet loss" ++ t) := by
    simp [lossSuffix, text]
  rw [first, first] at whole
  exact ((List.append_cons_inj_of_notMem outside inside).mp whole).1.symm

/-- One lost packet in ten counts as none. -/
theorem not_pingTextSuccess_ten :
    let before := text "10 packets transmitted, 9 received, "
    let s := before ++ natText 10 ++ lossSuffix ++ text ", time 9012ms"
    LossStatement s 10 before (text ", time 9012ms") ∧ contains (text "Success rate is") s = false ∧
      ¬ (pingTextSuccess s = true ↔ 10 = 0) := by
  intro before s
  have separate : ∀ c, before.getLast? = some c → c.isDigit = false := by simp [before, text]
  refine ⟨lossStatement_of_notMem 10 _ _ separate (by decide) (by decide), by decide, ?_⟩
  have verdict : pingTextSuccess s = true := by decide
  simp [verdict]

theorem pingTextSuccess_zero_iff_third :
    let s := text "3 packets transmitted, 2 received, " ++ natText 33 ++ lossSuffix ++ text ", time 2003ms"
    pingTextSuccess s = true ↔ 33 = 0 := by
  intro s
  have statement : LossStatement s 33 (text "3 packets transmitted, 2 received, ") (text ", time 2003ms") :=
    lossStatement_of_notMem 33 _ _ (by simp [text]) (by decide) (by decide)
  exact (pingTextSuccess_zero_iff statement (by decide)).mpr (Or.inr (Or.inl (by decide)))

end Percent

end QuantumSafe.PingJudges
