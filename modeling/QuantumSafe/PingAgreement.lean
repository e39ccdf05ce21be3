import QuantumSafe.PingJudges

set_option autoImplicit false

/- When the three judges of a ping agree. -/
namespace QuantumSafe.PingJudges

open PyText PyJson CeosJson

/-- The characters of a float as Python shows it. -/
def isFloatChar (c : Char) : Bool := c.isDigit || (text ".+-einfa").contains c

/-- A text is the only string of a tree, as a key or a value. -/
structure OnlyString (tree : Json) (s : Text) : Prop where
  present : .str s ∈ tree.subtrees ∨ ∃ value, HasField tree s value
  strings : ∀ value, .str value ∈ tree.subtrees → value = s
  keys : ∀ key value, HasField tree key value → key = s
  floats : ∀ shown order, .float shown order ∈ tree.subtrees → shown.all isFloatChar = true

/-- No loss field of the tree holds a number. -/
def NoNumericLoss (tree : Json) : Prop :=
  ∀ name ∈ lossFields, ∀ loss, jsonFindValue name tree = some loss →
    (∀ value, loss ≠ .int value) ∧ ∀ shown order, loss ≠ .float shown order

/-- The three judges give one verdict, and none of them accepts a total loss. -/
structure JudgesAgree (s : Text) (tree : Json) : Prop where
  json : pingJsonSuccess tree = .ok (pingTextSuccess s)
  gate : ∀ node family address stderr,
    checkRadiusPing node family address ⟨0, s, stderr⟩ = .ok () ↔ pingTextSuccess s = true
  lost : contains totalLoss s = true → pingTextSuccess s = false ∧ pingJsonSuccess tree ≠ .ok true ∧
    ∀ node family address stderr, checkRadiusPing node family address ⟨0, s, stderr⟩ ≠ .ok ()

variable {tree : Json} {s : Text}

/-- Only the string of the tree has a blank in it. -/
theorem eq_of_blank (only : OnlyString tree s) {shown : Text} (member : shown ∈ jsonTreeValues tree)
    (blank : ' ' ∈ shown) : shown = s := by
  obtain ⟨node, inside, own⟩ := mem_jsonTreeValues.mp member
  have digits (n : Nat) : ' ' ∉ natText n := by
    intro found
    have digit := Nat.isDigit_of_mem_toDigits (by decide) (by decide) found
    exact absurd digit (by decide)
  cases node with
  | null | list => cases own
  | bool value =>
      rw [List.mem_singleton.mp own] at blank
      cases value <;> exact absurd blank (by decide)
  | int value =>
      rw [List.mem_singleton.mp own, intText] at blank
      split at blank
      · rcases List.mem_cons.mp blank with same | found
        · exact absurd same (by decide)
        · exact absurd found (digits _)
      · exact absurd blank (digits _)
  | float written order =>
      rw [List.mem_singleton.mp own] at blank
      have plain := List.all_eq_true.mp (only.floats written order inside) ' ' blank
      exact absurd plain (by decide)
  | str value => exact (List.mem_singleton.mp own).trans (only.strings value inside)
  | object items =>
      obtain ⟨entry, found, same⟩ := List.mem_map.mp own
      have key := only.keys entry.1 entry.2 ⟨items, inside, found⟩
      exact same.symm.trans key

theorem mem_values_only (only : OnlyString tree s) : s ∈ jsonTreeValues tree := by
  rcases only.present with value | ⟨value, items, inside, member⟩
  · exact str_mem_values value
  · exact mem_jsonTreeValues.mpr ⟨_, inside, List.mem_map_of_mem member⟩

/-- A marker with a blank is in the tree iff it is in the string. -/
theorem jsonTreeContains_only (only : OnlyString tree s) {marker : Text} (blank : ' ' ∈ marker) :
    jsonTreeContains tree marker = contains marker s := by
  rw [Bool.eq_iff_iff, jsonTreeContains_iff]
  constructor
  · rintro ⟨shown, member, found⟩
    have inside : ' ' ∈ shown := ((contains_iff marker shown).mp found).subset blank
    exact eq_of_blank only member inside ▸ found
  · intro found
    exact ⟨s, mem_values_only only, found⟩

theorem contains_noLoss_of_total (lost : contains totalLoss s = true) : contains noLoss s = true := by
  have longer : totalLoss = text "10" ++ noLoss := rfl
  rw [longer, contains_iff] at lost
  exact (contains_iff _ _).mpr ((List.suffix_append _ _).isInfix.trans lost)

theorem checkRadiusPing_ok {node family address stderr : Text} :
    checkRadiusPing node family address ⟨0, s, stderr⟩ = .ok () ↔ contains noLoss s = true := by
  unfold checkRadiusPing
  by_cases answered : contains noLoss s = true <;> simp [answered]

section Fields

/-- A found loss field has the string of the tree as its name. -/
theorem lower_eq_of_found (only : OnlyString tree s) {name : Text} {loss : Json}
    (found : jsonFindValue name tree = some loss) : lower s = lower name := by
  obtain ⟨-, key, same, has⟩ := jsonFindValue_field found
  exact only.keys key loss has ▸ same

theorem lossFields_distinct {first second : Text} (one : first ∈ lossFields) (other : second ∈ lossFields)
    (same : lower first = lower second) : first = second := by
  have all : ∀ a ∈ lossFields, ∀ b ∈ lossFields, lower a = lower b → a = b := by decide
  exact all first one second other same

theorem lower_initial {c d : Char} {rest after : Text} (ascii : d ≠ 'i' ∧ d ≠ 'k')
    (same : lower (c :: rest) = d :: after) : lowerChar c = [c.toLower] ∧ c.toLower = d := by
  rw [lower, List.flatMap_cons, lowerChar] at same
  rw [lowerChar]
  split at same
  · exact absurd (List.cons.inj same).1.symm ascii.1
  · split at same
    · exact absurd (List.cons.inj same).1.symm ascii.2
    · exact ⟨by simp [*], (List.cons.inj same).1⟩

/-- The name of a loss field is no number, in any case. -/
theorem textIsZero_field {name : Text} (member : name ∈ lossFields) (same : lower s = lower name) :
    PyFloat.textIsZero s = none := by
  have initial : ∃ d after, lower name = d :: after ∧ (d = 'p' ∨ d = 'l') := by
    rcases List.mem_cons.mp member with rfl | member
    · exact ⟨'p', _, rfl, Or.inl rfl⟩
    · rcases List.mem_cons.mp member with rfl | member
      · exact ⟨'p', _, rfl, Or.inl rfl⟩
      · rw [List.mem_singleton.mp member]
        exact ⟨'l', _, rfl, Or.inr rfl⟩
  obtain ⟨d, after, begins, letter⟩ := initial
  rw [begins] at same
  cases s with
  | nil => cases same
  | cons c rest =>
      obtain ⟨plain, folded⟩ := lower_initial (by rcases letter with rfl | rfl <;> decide) same
      have known : c = 'p' ∨ c = 'P' ∨ c = 'l' ∨ c = 'L' := by
        rcases letter with rfl | rfl <;> rcases toNat_of_toLower folded with here | upper
        · exact Or.inl here
        · exact Or.inr (Or.inl (Char.toNat_inj.mp (Nat.add_right_cancel (upper.trans (by decide)))))
        · exact Or.inr (Or.inr (Or.inl here))
        · exact Or.inr (Or.inr (Or.inr (Char.toNat_inj.mp (Nat.add_right_cancel (upper.trans (by decide))))))
      rcases known with rfl | rfl | rfl | rfl <;>
        exact PyFloat.textIsZero_of_initial rest (by decide) (by decide) (by decide) (by decide) plain
          (by decide)

theorem blank_notMem_field {name : Text} (member : name ∈ lossFields) (same : lower s = lower name) :
    ' ' ∉ s := by
  intro blank
  have inside : ' ' ∈ lower s := List.mem_flatMap.mpr ⟨' ', blank, by decide⟩
  have none : ∀ name ∈ lossFields, ' ' ∉ lower name := by decide
  exact none name member (same ▸ inside)

theorem not_contains_of_field {name marker : Text} (member : name ∈ lossFields)
    (same : lower s = lower name) (blank : ' ' ∈ marker) : contains marker s = false := by
  rw [Bool.eq_false_iff]
  intro found
  exact blank_notMem_field member same (((contains_iff marker s).mp found).subset blank)

theorem numericLoss_none {names : List Text}
    (unread : ∀ name ∈ names, ∀ loss, jsonFindValue name tree = some loss → lossIsZero loss = .ok none) :
    numericLoss tree names = .ok none := by
  induction names with
  | nil => rfl
  | cons name rest ih =>
      have later := ih fun other member => unread other (List.mem_cons_of_mem name member)
      rw [numericLoss]
      split
      · exact later
      · next loss found =>
          rw [unread name List.mem_cons_self loss found]
          exact later

theorem numericLoss_some {names : List Text} {name : Text} {value : Bool} (member : name ∈ names)
    (found : jsonFindValue name tree = some (.bool value))
    (others : ∀ other ∈ names, other ≠ name → jsonFindValue other tree = none) :
    numericLoss tree names = .ok (some !value) := by
  induction names with
  | nil => cases member
  | cons first rest ih =>
      rw [numericLoss]
      by_cases here : first = name
      · subst here
        rw [found]
        rfl
      · rw [others first List.mem_cons_self here]
        have later : name ∈ rest := (List.mem_cons.mp member).resolve_left (Ne.symm here)
        exact ih later fun other inside => others other (List.mem_cons_of_mem first inside)

end Fields

/-- A found loss field without a number holds a Boolean, or nothing that is read. -/
theorem lossIsZero_of_found (only : OnlyString tree s) (noNumber : NoNumericLoss tree) {name : Text}
    (member : name ∈ lossFields) {loss : Json} (found : jsonFindValue name tree = some loss)
    (other : ∀ value, loss ≠ .bool value) : lossIsZero loss = .ok none := by
  obtain ⟨noInt, noFloat⟩ := noNumber name member loss found
  cases loss with
  | null | list | object => rfl
  | bool value => exact absurd rfl (other value)
  | int value => exact absurd rfl (noInt value)
  | float shown order => exact absurd rfl (noFloat shown order)
  | str value =>
      have same : value = s := only.strings value (jsonFindValue_mem found)
      rw [lossIsZero, same, textIsZero_field member (lower_eq_of_found only found)]

theorem pingJsonSuccess_markers (only : OnlyString tree s) (noNumber : NoNumericLoss tree)
    (noFlag : ∀ name ∈ lossFields, ∀ value, jsonFindValue name tree ≠ some (.bool value)) :
    pingJsonSuccess tree = .ok (contains noLoss s || contains fullRate s) := by
  have unread : numericLoss tree lossFields = .ok none := by
    refine numericLoss_none fun name member loss found => ?_
    refine lossIsZero_of_found only noNumber member found fun value same => ?_
    exact noFlag name member value (same ▸ found)
  have noMarker : jsonTreeContains tree noLoss = contains noLoss s := jsonTreeContains_only only (by decide)
  have rateMarker : jsonTreeContains tree fullRate = contains fullRate s :=
    jsonTreeContains_only only (by decide)
  rw [pingJsonSuccess, unread]
  show Except.ok (jsonTreeContains tree noLoss || jsonTreeContains tree fullRate) = _
  rw [noMarker, rateMarker]

theorem pingJsonSuccess_flag (only : OnlyString tree s) {name : Text} (member : name ∈ lossFields)
    {value : Bool} (found : jsonFindValue name tree = some (.bool value)) :
    pingJsonSuccess tree = .ok !value := by
  have read : numericLoss tree lossFields = .ok (some !value) := by
    refine numericLoss_some member found fun other inside different => ?_
    by_contra some
    obtain ⟨loss, found'⟩ := Option.ne_none_iff_exists'.mp some
    have same : lower other = lower name :=
      (lower_eq_of_found only found').symm.trans (lower_eq_of_found only found)
    exact different (lossFields_distinct inside member same)
  rw [pingJsonSuccess, read]
  rfl

/-- On a text without a numeric loss the judges agree exactly when it reports no total
loss, does not rest on a success rate alone, and is no loss field that is false. -/
theorem judgesAgree_iff (only : OnlyString tree s) (noNumber : NoNumericLoss tree) :
    JudgesAgree s tree ↔
      contains totalLoss s = false ∧ (contains fullRate s = true → contains noLoss s = true) ∧
        ∀ name ∈ lossFields, jsonFindValue name tree ≠ some (.bool false) := by
  by_cases flagged : ∃ name ∈ lossFields, ∃ value, jsonFindValue name tree = some (.bool value)
  · obtain ⟨name, member, value, found⟩ := flagged
    have unmarked {marker : Text} (blank : ' ' ∈ marker) : contains marker s = false :=
      not_contains_of_field member (lower_eq_of_found only found) blank
    have noTotal : contains totalLoss s = false := unmarked (by decide)
    have noRate : contains fullRate s = false := unmarked (by decide)
    have noZero : contains noLoss s = false := unmarked (by decide)
    have refused : pingTextSuccess s = false := by simp [pingTextSuccess, noTotal, noRate, noZero]
    constructor
    · intro agree
      refine ⟨noTotal, by simp [noRate], fun other inside down => ?_⟩
      have accepted := pingJsonSuccess_flag only inside down
      rw [agree.json, refused] at accepted
      cases accepted
    · rintro ⟨-, -, noFlag⟩
      have up : value = true := by
        by_contra down
        rw [Bool.not_eq_true] at down
        exact noFlag name member (down ▸ found)
      have verdict := pingJsonSuccess_flag only member found
      rw [up] at verdict
      exact ⟨by rw [verdict, refused]; rfl, by simp [checkRadiusPing_ok, refused, noZero], by simp [noTotal]⟩
  · have noFlag : ∀ name ∈ lossFields, ∀ value, jsonFindValue name tree ≠ some (.bool value) := by
      intro name member value found
      exact flagged ⟨name, member, value, found⟩
    have verdict := pingJsonSuccess_markers only noNumber noFlag
    have down : ∀ name ∈ lossFields, jsonFindValue name tree ≠ some (.bool false) :=
      fun name member => noFlag name member false
    constructor
    · intro agree
      have noTotal : contains totalLoss s = false := by
        rw [Bool.eq_false_iff]
        intro lost
        have refused := (agree.lost lost).2.1
        rw [verdict, contains_noLoss_of_total lost] at refused
        exact refused rfl
      refine ⟨noTotal, fun rate => ?_, down⟩
      have accepted : pingTextSuccess s = true := by simp [pingTextSuccess, noTotal, rate]
      exact checkRadiusPing_ok.mp ((agree.gate [] [] [] []).mpr accepted)
    · rintro ⟨noTotal, implied, -⟩
      have same : pingTextSuccess s = contains noLoss s := by
        cases rate : contains fullRate s with
        | false => simp [pingTextSuccess, noTotal, rate]
        | true => simp [pingTextSuccess, noTotal, rate, implied rate]
      refine ⟨?_, fun node family address stderr => ?_, by simp [noTotal]⟩
      · rw [verdict, same]
        cases rate : contains fullRate s with
        | false => rw [Bool.or_false]
        | true => rw [implied rate, Bool.or_true]
      · rw [checkRadiusPing_ok, same]

/-- A total loss is rejected by the text judge only. -/
theorem not_judgesAgree_total :
    let s := text "3 packets transmitted, 0 received, 100% packet loss, time 2002ms"
    let tree := Json.list [.str s]
    OnlyString tree s ∧ NoNumericLoss tree ∧ ¬ JudgesAgree s tree := by
  intro s tree
  refine ⟨⟨Or.inl ?_, ?_, ?_, ?_⟩, ?_, ?_⟩
  · simp [tree, Json.subtrees, itemSubtrees]
  · simp [tree, Json.subtrees, itemSubtrees]
  · rintro key value ⟨items, inside, -⟩
    simp [tree, Json.subtrees, itemSubtrees] at inside
  · simp [tree, Json.subtrees, itemSubtrees]
  · intro name member loss found
    cases found
  · intro agree
    have accepted : pingJsonSuccess tree = .ok true := by decide
    exact (agree.lost (by decide)).2.1 accepted

/-- On a report without loss the judges agree. -/
theorem judgesAgree_iff_noLoss :
    let s := text "3 packets transmitted, 3 received, 0% packet loss, time 2003ms"
    JudgesAgree s (.str s) := by
  intro s
  have only : OnlyString (.str s) s := by
    refine ⟨Or.inl (self_mem_subtrees _), by simp [Json.subtrees], ?_, by simp [Json.subtrees]⟩
    rintro key value ⟨items, inside, -⟩
    simp [Json.subtrees] at inside
  have noNumber : NoNumericLoss (.str s) := by
    intro name member loss found
    cases found
  refine (judgesAgree_iff only noNumber).mpr ⟨by decide, by decide, fun name member found => ?_⟩
  cases found

end QuantumSafe.PingJudges
