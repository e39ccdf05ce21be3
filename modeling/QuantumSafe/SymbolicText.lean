import QuantumSafe.TextLines

set_option autoImplicit false

/- Texts in which some parts are named instead of written. A needle that occurs
in the symbols occurs in every text that fills them in; a needle that the
symbols rule out occurs in none whose parts keep to the characters allowed. -/
namespace SymbolicText

open PyText

inductive Symbol (σ : Type) where
  | char (c : Char)
  | slot (name : σ)
deriving DecidableEq

abbrev Symbols (σ : Type) := List (Symbol σ)

variable {σ : Type}

def chars (s : Text) : Symbols σ := s.map .char

def slot (name : σ) : Symbols σ := [.slot name]

def Symbol.fill (value : σ → Text) : Symbol σ → Text
  | .char c => [c]
  | .slot name => value name

/-- The text in which every slot holds its value. -/
def fill (value : σ → Text) (symbols : Symbols σ) : Text := symbols.flatMap (Symbol.fill value)

@[simp] theorem fill_nil (value : σ → Text) : fill value [] = [] := rfl

@[simp] theorem fill_char (value : σ → Text) (c : Char) (rest : Symbols σ) :
    fill value (.char c :: rest) = c :: fill value rest := rfl

@[simp] theorem fill_slot (value : σ → Text) (name : σ) (rest : Symbols σ) :
    fill value (.slot name :: rest) = value name ++ fill value rest := rfl

@[simp] theorem fill_append (value : σ → Text) (first second : Symbols σ) :
    fill value (first ++ second) = fill value first ++ fill value second :=
  List.flatMap_append

@[simp] theorem fill_chars (value : σ → Text) (s : Text) : fill value (chars s) = s := by
  induction s with
  | nil => rfl
  | cons c s ih =>
      rw [chars, List.map_cons, fill_char]
      exact congrArg (c :: ·) ih

@[simp] theorem fill_slot_alone (value : σ → Text) (name : σ) :
    fill value (slot name) = value name := by simp [slot]

theorem mem_fill {value : σ → Text} {c : Char} {symbols : Symbols σ} :
    c ∈ fill value symbols ↔ .char c ∈ symbols ∨ ∃ name, .slot name ∈ symbols ∧ c ∈ value name := by
  rw [fill, List.mem_flatMap]
  constructor
  · rintro ⟨symbol, member, inside⟩
    cases symbol with
    | char d =>
        rw [Symbol.fill, List.mem_singleton] at inside
        exact Or.inl (inside ▸ member)
    | slot name => exact Or.inr ⟨name, member, inside⟩
  · rintro (member | ⟨name, member, inside⟩)
    · exact ⟨.char c, member, List.mem_singleton.mpr rfl⟩
    · exact ⟨.slot name, member, inside⟩

section Presence

variable [DecidableEq σ]

def Symbol.same : Symbol σ → Symbol σ → Bool
  | .char c, .char d => c == d
  | .slot name, .slot other => name == other
  | _, _ => false

theorem Symbol.same_iff (first second : Symbol σ) : first.same second = true ↔ first = second := by
  cases first <;> cases second <;> simp [Symbol.same]

/-- The first symbols are the given ones. -/
def startsWith : Symbols σ → Symbols σ → Bool
  | _, [] => true
  | [], _ :: _ => false
  | first :: rest, wanted :: needle => first.same wanted && startsWith rest needle

theorem startsWith_iff (symbols needle : Symbols σ) :
    startsWith symbols needle = true ↔ needle <+: symbols := by
  induction symbols generalizing needle with
  | nil => cases needle <;> simp [startsWith]
  | cons first rest ih =>
      cases needle with
      | nil => simp [startsWith]
      | cons wanted needle =>
          rw [startsWith, Bool.and_eq_true, Symbol.same_iff, ih, List.cons_prefix_cons, eq_comm]

def occursFrom (first : Symbol σ) (needle : Symbols σ) : Symbols σ → Bool
  | [] => false
  | symbol :: rest => (symbol.same first && startsWith rest needle) || occursFrom first needle rest

/-- The symbols occur, one next to the other. -/
def occurs (needle symbols : Symbols σ) : Bool :=
  match needle with
  | [] => true
  | first :: rest => occursFrom first rest symbols

theorem occurs_iff (needle symbols : Symbols σ) : occurs needle symbols = true ↔ needle <:+: symbols := by
  cases needle with
  | nil => simp [occurs]
  | cons first needle =>
      rw [occurs]
      induction symbols with
      | nil => simp [occursFrom]
      | cons symbol rest ih =>
          rw [occursFrom, Bool.or_eq_true, Bool.and_eq_true, Symbol.same_iff, startsWith_iff, ih,
            List.infix_cons_iff, List.cons_prefix_cons, eq_comm]

theorem contains_fill {needle symbols : Symbols σ} (value : σ → Text)
    (present : occurs needle symbols = true) :
    contains (fill value needle) (fill value symbols) = true := by
  obtain ⟨before, after, rfl⟩ := (occurs_iff needle symbols).mp present
  rw [fill_append, fill_append]
  exact contains_of_append _ _ _

end Presence

section Absence

variable (allowed : σ → Char → Bool)

/-- Every slot holds a text of the characters allowed in it. -/
def Fits (value : σ → Text) : Prop := ∀ name, ∀ c ∈ value name, allowed name c = true

/-- Neither a character nor a slot of the symbols can be the given character. -/
def lacks (c : Char) (symbols : Symbols σ) : Bool :=
  symbols.all fun symbol =>
    match symbol with
    | .char d => d != c
    | .slot name => !allowed name c

/-- What remains of a needle after 0, 1, 2, ... characters of a class. -/
def leftovers (accepts : Char → Bool) : Text → List Text
  | [] => [[]]
  | c :: rest => (c :: rest) :: if accepts c then leftovers accepts rest else []

/-- Some text that fills the symbols in may start with the needle. -/
def mayStart : Symbols σ → Text → Bool
  | [], needle => needle.isEmpty
  | .char _ :: _, [] => true
  | .char c :: rest, d :: needle => c == d && mayStart rest needle
  | .slot name :: rest, needle => (leftovers (allowed name) needle).any (mayStart rest)

/-- Some text that fills the symbols in may contain the needle; a needle wholly
inside one slot counts when `within` says so. -/
def mayOccurFrom (within : Bool) (first : Char) (needle : Text) : Symbols σ → Bool
  | [] => false
  | .char c :: rest => (c == first && mayStart allowed rest needle) || mayOccurFrom within first needle rest
  | .slot name :: rest =>
      (leftovers (allowed name) (first :: needle)).any (fun left =>
        (within || !left.isEmpty) && mayStart allowed rest left) || mayOccurFrom within first needle rest

def mayOccur (within : Bool) (needle : Text) (symbols : Symbols σ) : Bool :=
  match needle with
  | [] => true
  | first :: rest => mayOccurFrom allowed within first rest symbols

variable {allowed}

theorem Fits.mono {value : σ → Text} (fits : Fits allowed value) {wider : σ → Char → Bool}
    (wide : ∀ name c, allowed name c = true → wider name c = true) : Fits wider value :=
  fun name c inside => wide name c (fits name c inside)

theorem notMem_fill {value : σ → Text} (fits : Fits allowed value) {c : Char} {symbols : Symbols σ}
    (absent : lacks allowed c symbols = true) : c ∉ fill value symbols := by
  intro inside
  obtain ⟨symbol, member, inside⟩ := List.mem_flatMap.mp inside
  have other := List.all_eq_true.mp absent symbol member
  cases symbol with
  | char d =>
      rw [List.mem_singleton.mp inside] at other
      simp at other
  | slot name =>
      have held := fits name c inside
      simp [held] at other

theorem mem_leftovers {accepts : Char → Bool} (inside left : Text)
    (all : ∀ c ∈ inside, accepts c = true) : left ∈ leftovers accepts (inside ++ left) := by
  induction inside with
  | nil => cases left <;> simp [leftovers]
  | cons c inside ih =>
      have later := ih fun d member => all d (List.mem_cons_of_mem c member)
      simp [leftovers, all c (by simp), later]

theorem mayStart_nil (symbols : Symbols σ) : mayStart allowed symbols [] = true := by
  induction symbols with
  | nil => rfl
  | cons first rest ih =>
      cases first with
      | char c => rfl
      | slot name => simp [mayStart, leftovers, ih]

/-- A needle at the front of a slot's text and what follows uses up some
characters of the slot, and the rest of it starts what follows. -/
theorem prefix_slot {needle held after : Text} (starts : needle <+: held ++ after) :
    ∃ inside left, needle = inside ++ left ∧ inside <+: held ∧ left <+: after := by
  rcases List.prefix_or_prefix_of_prefix starts (List.prefix_append held after) with within | beyond
  · exact ⟨needle, [], by simp, within, List.nil_prefix⟩
  · obtain ⟨left, rfl⟩ := beyond
    exact ⟨held, left, rfl, List.prefix_refl _, (List.prefix_append_right_inj held).mp starts⟩

theorem mayStart_of_starts {value : σ → Text} (fits : Fits allowed value) (symbols : Symbols σ)
    (needle : Text) (starts : needle <+: fill value symbols) :
    mayStart allowed symbols needle = true := by
  induction symbols generalizing needle with
  | nil =>
      rw [List.prefix_nil.mp starts]
      rfl
  | cons first rest ih =>
      cases first with
      | char c =>
          cases needle with
          | nil => rfl
          | cons d needle =>
              rw [fill_char, List.cons_prefix_cons] at starts
              simp [mayStart, starts.1, ih needle starts.2]
      | slot name =>
          obtain ⟨inside, left, rfl, within, starts⟩ := prefix_slot starts
          have held := mem_leftovers inside left fun c member =>
            fits name c (within.subset member)
          exact List.any_eq_true.mpr ⟨left, held, ih left starts⟩

/-- A needle in a filled text may be found in the symbols, unless it is inside a
slot and such needles do not count. -/
theorem mayOccurFrom_of_contains {value : σ → Text} (fits : Fits allowed value) {within : Bool}
    {first : Char} {needle : Text} (symbols : Symbols σ)
    (found : contains (first :: needle) (fill value symbols) = true)
    (outside : within = false → ∀ name, contains (first :: needle) (value name) = false) :
    mayOccurFrom allowed within first needle symbols = true := by
  induction symbols with
  | nil => cases found
  | cons symbol rest ih =>
      cases symbol with
      | char c =>
          rw [fill_char, contains, Bool.or_eq_true, List.isPrefixOf_iff_prefix,
            List.cons_prefix_cons] at found
          rw [mayOccurFrom, Bool.or_eq_true]
          rcases found with starts | later
          · exact Or.inl (by simp [starts.1, mayStart_of_starts fits rest needle starts.2])
          · exact Or.inr (ih later)
      | slot name =>
          rw [fill_slot, contains_iff, List.infix_append_iff] at found
          rw [mayOccurFrom, Bool.or_eq_true]
          rcases found with inSlot | later | ⟨inside, left, split, ends, starts⟩
          · cases within with
            | false =>
                have absent := outside rfl name
                rw [(contains_iff (first :: needle) _).mpr inSlot] at absent
                cases absent
            | true =>
                have fit : ∀ c ∈ first :: needle, allowed name c = true := fun c member =>
                  fits name c (inSlot.subset member)
                have held := mem_leftovers (first :: needle) [] fit
                rw [List.append_nil] at held
                exact Or.inl (List.any_eq_true.mpr ⟨[], held, mayStart_nil rest⟩)
          · exact Or.inr (ih ((contains_iff (first :: needle) _).mpr later))
          · have held := mem_leftovers inside left fun c member => fits name c (ends.subset member)
            rw [← split] at held
            refine Or.inl (List.any_eq_true.mpr ⟨left, held, ?_⟩)
            rw [mayStart_of_starts fits rest left starts, Bool.and_true, Bool.or_eq_true]
            by_cases none : left = []
            · subst none
              rw [List.append_nil] at split
              cases within with
              | false =>
                  have absent := outside rfl name
                  rw [split, (contains_iff inside _).mpr ends.isInfix] at absent
                  cases absent
              | true => exact Or.inl rfl
            · exact Or.inr (by simp [none])

theorem notContains_fill {value : σ → Text} (fits : Fits allowed value) {within : Bool} {needle : Text}
    {symbols : Symbols σ} (clear : mayOccur allowed within needle symbols = false)
    (outside : within = false → ∀ name, contains needle (value name) = false) :
    contains needle (fill value symbols) = false := by
  rw [Bool.eq_false_iff]
  intro found
  cases needle with
  | nil => cases clear
  | cons first needle =>
      rw [mayOccur, mayOccurFrom_of_contains fits symbols found outside] at clear
      cases clear

/-- A character that no slot may hold keeps a needle out of every slot. -/
theorem notContains_slot {value : σ → Text} (fits : Fits allowed value) {needle : Text} {c : Char}
    (member : c ∈ needle) (refused : ∀ name, allowed name c = false) (name : σ) :
    contains needle (value name) = false := by
  apply notContains_of_notMem member
  intro inside
  have held := fits name c inside
  rw [refused name] at held
  cases held

end Absence

section Cutting

variable [DecidableEq σ] (allowed : σ → Char → Bool)

/-- The parts around the first occurrence of a separator, when the symbols say
for certain which one that is. -/
def cutSymbols (sep : Text) : Symbols σ → Option (Symbols σ × Symbols σ)
  | [] => none
  | first :: rest =>
      if startsWith (first :: rest) (chars sep) then some ([], (first :: rest).drop sep.length)
      else if mayStart allowed (first :: rest) sep then none
      else (cutSymbols sep rest).map fun parts => (first :: parts.1, parts.2)

def cutSymbolLines (sep : Text) : List (Symbols σ) → Option (List (Symbols σ) × List (Symbols σ))
  | [] => none
  | line :: rest =>
      if mayOccur allowed true sep line then
        (cutSymbols allowed sep line).map fun parts => ([parts.1], parts.2 :: rest)
      else (cutSymbolLines sep rest).map fun parts => (line :: parts.1, parts.2)

/-- `untilMark` on symbols, when every line that matters starts with a character. -/
def untilMarkSymbols (mark : Char) : List (Symbols σ) → Option (List (Symbols σ))
  | [] => some []
  | [] :: rest => (untilMarkSymbols mark rest).map ([] :: ·)
  | (.char c :: line) :: rest =>
      if c = mark then some [] else (untilMarkSymbols mark rest).map ((.char c :: line) :: ·)
  | (.slot _ :: _) :: _ => none

variable {allowed}

theorem cut_fill {value : σ → Text} (fits : Fits allowed value) {sep : Text} (filled : sep ≠ [])
    {symbols : Symbols σ} {parts : Symbols σ × Symbols σ}
    (found : cutSymbols allowed sep symbols = some parts) :
    cut sep (fill value symbols) = some (fill value parts.1, fill value parts.2) := by
  induction symbols generalizing parts with
  | nil => cases found
  | cons first rest ih =>
      rw [cutSymbols] at found
      split at found
      · rename_i here
        cases found
        obtain ⟨after, same⟩ := (startsWith_iff _ _).mp here
        obtain ⟨c, tail, rfl⟩ := List.exists_cons_of_ne_nil filled
        have length : (chars (c :: tail) : Symbols σ).length = (c :: tail).length := by simp [chars]
        have starts : (c :: tail).isPrefixOf (c :: (tail ++ fill value after)) = true :=
          List.isPrefixOf_iff_prefix.mpr (List.prefix_append (c :: tail) _)
        rw [← same, fill_append, fill_chars, ← length, List.drop_left, List.cons_append, cut,
          if_pos starts]
        simp
      · split at found
        · cases found
        · rename_i clear
          obtain ⟨later, cutLater, rfl⟩ := Option.map_eq_some_iff.mp found
          have notHere (kept after : Text) (split : Symbol.fill value first = kept ++ after)
              (some : after ≠ []) : ¬ sep <+: after ++ fill value rest := by
            intro starts
            apply clear
            cases first with
            | char c =>
                have whole : kept = [] := by
                  cases kept with
                  | nil => rfl
                  | cons d kept =>
                      have none := (List.cons.inj split).2
                      exact absurd (List.append_eq_nil_iff.mp none.symm).2 some
                subst whole
                rw [List.nil_append] at split
                exact mayStart_of_starts fits (.char c :: rest) sep (by rw [← split] at starts; exact starts)
            | slot name =>
                obtain ⟨inside, left, rfl, within, starts⟩ := prefix_slot starts
                have held := mem_leftovers inside left fun c member => fits name c (by
                  rw [show value name = kept ++ after from split]
                  exact List.mem_append_right kept (within.subset member))
                exact List.any_eq_true.mpr ⟨left, held, mayStart_of_starts fits rest left starts⟩
          have passed := cut_passed sep (Symbol.fill value first) (fill value rest)
            fun after some suffix => by
              obtain ⟨kept, split⟩ := suffix
              exact notHere kept after split.symm some
          rw [show fill value (first :: rest) = Symbol.fill value first ++ fill value rest from rfl,
            passed, ih cutLater]
          rfl

theorem cutLines_fill {value : σ → Text} (fits : Fits allowed value) {sep : Text} (filled : sep ≠ [])
    {lines : List (Symbols σ)} {parts : List (Symbols σ) × List (Symbols σ)}
    (found : cutSymbolLines allowed sep lines = some parts) :
    cutLines sep (lines.map (fill value)) =
      some (parts.1.map (fill value), parts.2.map (fill value)) := by
  induction lines generalizing parts with
  | nil => cases found
  | cons line rest ih =>
      rw [cutSymbolLines] at found
      rw [List.map_cons, cutLines]
      split at found
      · obtain ⟨inLine, cutInLine, rfl⟩ := Option.map_eq_some_iff.mp found
        rw [cut_fill fits filled cutInLine]
        rfl
      · rename_i clear
        obtain ⟨later, cutLater, rfl⟩ := Option.map_eq_some_iff.mp found
        have absent := notContains_fill fits (Bool.eq_false_iff.mpr clear) fun inside => by cases inside
        rw [cut_eq_none_iff.mpr absent, ih cutLater]
        rfl

omit [DecidableEq σ] in
theorem untilMark_fill {mark : Char} (value : σ → Text) {lines kept : List (Symbols σ)}
    (found : untilMarkSymbols mark lines = some kept) :
    untilMark mark (lines.map (fill value)) = kept.map (fill value) := by
  induction lines generalizing kept with
  | nil =>
      cases found
      rfl
  | cons line rest ih =>
      cases line with
      | nil =>
          obtain ⟨later, foundLater, rfl⟩ := Option.map_eq_some_iff.mp found
          rw [List.map_cons, List.map_cons, ← ih foundLater]
          rfl
      | cons first line =>
          cases first with
          | slot name => cases found
          | char c =>
              rw [untilMarkSymbols] at found
              split at found
              · rename_i marked
                cases found
                simp [untilMark, marked]
              · rename_i other
                obtain ⟨later, foundLater, rfl⟩ := Option.map_eq_some_iff.mp found
                rw [List.map_cons, List.map_cons, ← ih foundLater, fill_char, untilMark,
                  List.takeWhile_cons, if_pos (by simp [other])]
                rfl

end Cutting

end SymbolicText
