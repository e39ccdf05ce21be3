import QuantumSafe.CeosContract
import QuantumSafe.PyValue
import QuantumSafe.ShellWords

set_option autoImplicit false

/- `lab/probe_client.py`: the commands that a probe container runs in a shell, and the
argument lists that run on the host. -/
namespace QuantumSafe.ProbeClient

open PyText PyIpAddress PyValue ShellWords
open CeosContract (sshPqcKex)

inductive ProbeClientMode where
  | testRunner
  | radius
  | host
deriving DecidableEq, Repr

def opensslPqcCnf : Text := text "/etc/probe/openssl-pqc.cnf"
def radiusOpensslPqcCnf : Text := text "/etc/raddb/openssl-pqc.cnf"

def opensslEnvPrefix (mode : ProbeClientMode) (usePqcConf : Bool) : Text :=
  if !usePqcConf then []
  else
    match mode with
    | .radius => text "OPENSSL_CONF=" ++ radiusOpensslPqcCnf ++ text " "
    | .host => []
    | .testRunner => text "OPENSSL_CONF=" ++ opensslPqcCnf ++ text " "

def curlOpensslEnv (mode : ProbeClientMode) : Text := opensslEnvPrefix mode true

section

variable (printable : Char → Bool)

def curlEapiCommand (url payload user : Text) (mode : ProbeClientMode) : Text :=
  curlOpensslEnv mode ++ text "curl -sk --tlsv1.3 --tls-max 1.3 " ++
    (text "-u " ++ user ++ text " " ++ reprText printable url ++ text " ") ++
    text "-H 'Content-Type: application/json' " ++
    (text "-d " ++ reprText printable payload)

def curlEapiArgv (url payload user : Text) : List Text :=
  [ text "curl", text "-sk", text "--tlsv1.3", text "--tls-max", text "1.3", text "-u", user, url,
    text "-H", text "Content-Type: application/json", text "-d", payload ]

def sshPqcCommand (mgmtIp user remoteCommand kex : Text) : Text :=
  text "ssh -vvv " ++
    text "-o StrictHostKeyChecking=no -o UserKnownHostsFile=/dev/null " ++
    text "-o PubkeyAuthentication=no -o PreferredAuthentications=keyboard-interactive " ++
    (text "-o KexAlgorithms=" ++ kex ++ text " ") ++
    (user ++ text "@" ++ mgmtIp ++ text " " ++ reprText printable remoteCommand ++ text " 2>&1")

def sshPqcArgv (mgmtIp user remoteCommand kex : Text) : List Text :=
  [ text "ssh", text "-vvv", text "-o", text "StrictHostKeyChecking=no", text "-o",
    text "UserKnownHostsFile=/dev/null", text "-o", text "PubkeyAuthentication=no", text "-o",
    text "PreferredAuthentications=keyboard-interactive", text "-o", text "KexAlgorithms=" ++ kex,
    user ++ text "@" ++ mgmtIp, remoteCommand ]

/-- The shell runs the command with the arguments that the host passes. -/
def CurlAgrees (url payload user : Text) : Prop :=
  splitWords (curlEapiCommand printable url payload user .host) = some (curlEapiArgv url payload user)

/-- The same without the redirection. -/
def SshAgrees (mgmtIp user remoteCommand : Text) : Prop :=
  ∃ command, sshPqcCommand printable mgmtIp user remoteCommand sshPqcKex = command ++ text " 2>&1" ∧
    splitWords command = some (sshPqcArgv mgmtIp user remoteCommand sshPqcKex)

/-- A character that `repr` writes as it is, unless it is the quote or a backslash. -/
def shown (c : Char) : Bool :=
  !(c.toNat < 32 || c.toNat == 127) && (c.toNat < 127 || printable c)

/-- A text whose `repr` a shell reads back. -/
structure Quotable (s : Text) : Prop where
  shown : ∀ c ∈ s, shown printable c = true
  quotes : ('\'' ∉ s ∧ '\\' ∉ s) ∨ ('\'' ∈ s ∧ '"' ∉ s ∧ ∀ c ∈ s, expands c = false)

end

/- Characters of a `repr`. -/

/-- Letters and digits mean nothing to any quoting. -/
structure Inert (c : Char) : Prop where
  double : step .double c = some (.double, [c])
  escaped : step .doubleEscaped c = some (.double, ['\\', c])
  visible : isBlank c = false
  notQuote : c ≠ '\''

theorem inert_of_isAlphanum {c : Char} (char : c.isAlphanum = true) : Inert c := by
  have other (d : Char) (never : d.isAlphanum = false) : c ≠ d := by
    rintro rfl
    rw [char] at never
    cases never
  have plainQuote := other '"' rfl
  have backslash := other '\\' rfl
  have dollar := other '$' rfl
  have backquote := other '\x60' rfl
  have feed := other '\n' rfl
  have space := other ' ' rfl
  have tab := other '\t' rfl
  refine ⟨?_, ?_, ?_, other '\'' rfl⟩
  · simp [step, expands, plainQuote, backslash, dollar, backquote]
  · simp [step, expands, plainQuote, backslash, dollar, backquote, feed]
  · simp [isBlank, space, tab]

theorem isAlphanum_of_isHexDigit {c : Char} (hex : isHexDigit c = true) : c.isAlphanum = true := by
  simp only [isHexDigit, Char.isDigit, Bool.or_eq_true, Bool.and_eq_true, decide_eq_true_eq,
    Char.le_def, UInt32.le_iff_toNat_le] at hex
  simp only [Char.isAlphanum, isAlpha_eq, isUpper_eq, isLower_eq, Char.isDigit, Bool.or_eq_true,
    Bool.and_eq_true, decide_eq_true_eq, ge_iff_le, UInt32.le_iff_toNat_le]
  change ((48 ≤ c.toNat ∧ c.toNat ≤ 57) ∨ 97 ≤ c.toNat ∧ c.toNat ≤ 102) ∨
    65 ≤ c.toNat ∧ c.toNat ≤ 70 at hex
  change ((65 ≤ c.toNat ∧ c.toNat ≤ 90) ∨ 97 ≤ c.toNat ∧ c.toNat ≤ 122) ∨
    48 ≤ c.toNat ∧ c.toNat ≤ 57
  omega

theorem isAlphanum_hexDigits (width n : Nat) : ∀ c ∈ hexDigits width n, c.isAlphanum = true := by
  intro c member
  rcases List.mem_append.mp member with zero | digit
  · rw [List.eq_of_mem_replicate zero]
    rfl
  · exact isAlphanum_of_isHexDigit (isHexDigit_of_mem_hex digit)

/-- The three ways in which `repr` writes a character. -/
inductive Written (printable : Char → Bool) (quote c : Char) : Prop where
  | escaped (mark : c = quote ∨ c = '\\') (eq : escape printable quote c = ['\\', c])
  | itself (quoteless : c ≠ quote ∧ c ≠ '\\') (printed : shown printable c = true)
      (eq : escape printable quote c = [c])
  | code (quoteless : c ≠ quote ∧ c ≠ '\\') (hidden : shown printable c = false) (kind : Char)
      (digits : Text) (alnum : ∀ d ∈ kind :: digits, d.isAlphanum = true)
      (eq : escape printable quote c = '\\' :: kind :: digits)

theorem written (printable : Char → Bool) (quote c : Char) : Written printable quote c := by
  by_cases mark : c = quote ∨ c = '\\'
  · apply Written.escaped mark
    rw [escape, if_pos (by simpa using mark)]
  · have quoteless := not_or.mp mark
    have notMark : ¬ (c == quote || c == '\\') = true := by simpa using quoteless
    have coded (kind : Char) (digits : Text) (letter : kind.isAlphanum = true)
        (rest : ∀ d ∈ digits, d.isAlphanum = true) : ∀ d ∈ kind :: digits, d.isAlphanum = true :=
      List.forall_mem_cons.mpr ⟨letter, rest⟩
    by_cases tab : c = '\t'
    · subst tab
      exact .code quoteless rfl 't' [] (coded _ _ rfl (by simp)) (by rw [escape, if_neg notMark]; rfl)
    by_cases feed : c = '\n'
    · subst feed
      exact .code quoteless rfl 'n' [] (coded _ _ rfl (by simp)) (by rw [escape, if_neg notMark]; rfl)
    by_cases ret : c = '\r'
    · subst ret
      exact .code quoteless rfl 'r' [] (coded _ _ rfl (by simp)) (by rw [escape, if_neg notMark]; rfl)
    have rest : escape printable quote c =
        if c.toNat < 32 || c.toNat == 127 then text "\\x" ++ hexDigits 2 c.toNat
        else if c.toNat < 127 || printable c then [c]
        else if c.toNat < 256 then text "\\x" ++ hexDigits 2 c.toNat
        else if c.toNat < 65536 then text "\\u" ++ hexDigits 4 c.toNat
        else text "\\U" ++ hexDigits 8 c.toNat := by
      rw [escape, if_neg notMark, if_neg (by simpa using tab), if_neg (by simpa using feed),
        if_neg (by simpa using ret)]
    by_cases control : (c.toNat < 32 || c.toNat == 127) = true
    · have hidden : shown printable c = false := by rw [shown, control, Bool.not_true, Bool.false_and]
      rw [if_pos control] at rest
      exact .code quoteless hidden 'x' _ (coded _ _ rfl (isAlphanum_hexDigits 2 _)) rest
    rw [if_neg control] at rest
    by_cases printed : (c.toNat < 127 || printable c) = true
    · rw [if_pos printed] at rest
      exact .itself quoteless (by rw [shown, printed, Bool.eq_false_iff.mpr control]; rfl) rest
    have hidden : shown printable c = false := by
      rw [shown, Bool.eq_false_iff.mpr printed, Bool.and_false]
    rw [if_neg printed] at rest
    split at rest
    · exact .code quoteless hidden 'x' _ (coded _ _ rfl (isAlphanum_hexDigits 2 _)) rest
    · split at rest
      · exact .code quoteless hidden 'u' _ (coded _ _ rfl (isAlphanum_hexDigits 4 _)) rest
      · exact .code quoteless hidden 'U' _ (coded _ _ rfl (isAlphanum_hexDigits 8 _)) rest

section

variable {printable : Char → Bool} {quote c : Char}

theorem escape_eq_self_iff (notQuote : c ≠ quote) :
    escape printable quote c = [c] ↔ shown printable c = true ∧ c ≠ '\\' := by
  rcases written printable quote c with ⟨mark, eq⟩ | ⟨quoteless, printed, eq⟩ |
    ⟨quoteless, hidden, kind, digits, -, eq⟩
  · have backslash : c = '\\' := mark.resolve_left notQuote
    rw [eq]
    simp [backslash]
  · rw [eq]
    simp [printed, quoteless.2]
  · rw [eq, hidden]
    simp

theorem two_le_length_escape (other : escape printable quote c ≠ [c]) :
    2 ≤ (escape printable quote c).length := by
  rcases written printable quote c with ⟨-, eq⟩ | ⟨-, -, eq⟩ | ⟨-, -, kind, digits, -, eq⟩
  · rw [eq]
    exact le_refl 2
  · exact absurd eq other
  · rw [eq, List.length_cons, List.length_cons]
    omega

theorem blanks_escape (visible : isBlank quote = false) : blanks (escape printable quote c) ≤ blanks [c] := by
  have backslash : isBlank '\\' = false := rfl
  rcases written printable quote c with ⟨mark, eq⟩ | ⟨-, -, eq⟩ | ⟨-, -, kind, digits, alnum, eq⟩
  · have none : isBlank c = false := by
      rcases mark with rfl | rfl
      · exact visible
      · rfl
    rw [eq]
    simp [blanks, backslash, none]
  · rw [eq]
  · have none : blanks (kind :: digits) = 0 := by
      rw [blanks, List.countP_eq_zero]
      intro d member
      simp [(inert_of_isAlphanum (alnum d member)).visible]
    rw [eq, blanks, List.countP_cons_of_neg (by simp [backslash])]
    rw [blanks] at none
    omega

theorem quote_notMem_escape (notQuote : c ≠ '\'') : '\'' ∉ escape printable '\'' c := by
  rcases written printable '\'' c with ⟨-, eq⟩ | ⟨-, -, eq⟩ | ⟨-, -, kind, digits, alnum, eq⟩
  · rw [eq]
    simp [Ne.symm notQuote]
  · rw [eq]
    simp [Ne.symm notQuote]
  · rw [eq, List.mem_cons, not_or]
    refine ⟨by decide, ?_⟩
    intro inside
    exact (inert_of_isAlphanum (alnum _ inside)).notQuote rfl

end

/-- Where every character becomes longer or stays, a text stays iff its characters do. -/
theorem flatMap_eq_self_iff {f : Char → Text} (long : ∀ c, f c ≠ [c] → 2 ≤ (f c).length) {s : Text} :
    s.flatMap f = s ↔ ∀ c ∈ s, f c = [c] := by
  have atLeast (s : Text) : s.length ≤ (s.flatMap f).length := by
    induction s with
    | nil => exact le_refl 0
    | cons c s ih =>
        have one : 1 ≤ (f c).length := by
          by_cases same : f c = [c]
          · rw [same]
            exact le_refl 1
          · have two := long c same
            omega
        rw [List.flatMap_cons, List.length_append, List.length_cons]
        omega
  induction s with
  | nil => simp
  | cons c s ih =>
      rw [List.flatMap_cons, List.forall_mem_cons]
      constructor
      · intro same
        by_cases itself : f c = [c]
        · rw [itself] at same
          exact ⟨itself, ih.mp (List.cons.inj same).2⟩
        · have two := long c itself
          have rest := atLeast s
          have whole := congrArg List.length same
          rw [List.length_append, List.length_cons] at whole
          omega
      · rintro ⟨itself, rest⟩
        rw [itself, ih.mpr rest]
        rfl

theorem blanks_reprText_le (printable : Char → Bool) (s : Text) :
    blanks (reprText printable s) ≤ blanks s := by
  have body (quote : Char) (visible : isBlank quote = false) :
      blanks (s.flatMap (escape printable quote)) ≤ blanks s := by
    induction s with
    | nil => exact le_refl 0
    | cons c s ih =>
        have here := @blanks_escape printable quote c visible
        have split : blanks (c :: s) = blanks [c] + blanks s := blanks_append [c] s
        rw [List.flatMap_cons, blanks_append]
        omega
  have around (quote : Char) (visible : isBlank quote = false) :
      blanks (quote :: s.flatMap (escape printable quote) ++ [quote]) ≤ blanks s := by
    have inside := body quote visible
    rw [List.cons_append, blanks, List.countP_cons_of_neg (by simp [visible]), List.countP_append,
      List.countP_singleton, if_neg (by simp [visible])]
    rw [blanks] at inside
    exact inside
  rw [reprText]
  split
  · exact around '"' rfl
  · exact around '\'' rfl

/- A `repr` in double quotes. -/

/-- What the shell makes of a character there. -/
def unescaped (printable : Char → Bool) (c : Char) : Text :=
  if c = '\\' then ['\\'] else escape printable '"' c

section

variable {printable : Char → Bool}

theorem split_double_alnum {s : Text} (alnum : ∀ d ∈ s, d.isAlphanum = true) (rest : Text) :
    split .double (s ++ rest) = (split .double rest).map (List.modifyHead (s ++ ·)) := by
  induction s with
  | nil => rw [List.nil_append, map_modifyHead_nil]
  | cons d s ih =>
      have inert := inert_of_isAlphanum (alnum d List.mem_cons_self)
      rw [List.cons_append, split_inWord inert.double rfl,
        ih fun e member => alnum e (List.mem_cons_of_mem d member), map_modifyHead]
      rfl

theorem split_double_escape {c : Char} (notQuote : c ≠ '"') (fixed : expands c = false) (rest : Text) :
    split .double (escape printable '"' c ++ rest) =
      (split .double rest).map (List.modifyHead (unescaped printable c ++ ·)) := by
  have backslash : step .double '\\' = some (.doubleEscaped, []) := rfl
  rcases written printable '"' c with ⟨mark, eq⟩ | ⟨quoteless, -, eq⟩ |
    ⟨quoteless, -, kind, digits, alnum, eq⟩
  · have same : c = '\\' := mark.resolve_left notQuote
    subst same
    have literal : step .doubleEscaped '\\' = some (.double, ['\\']) := rfl
    rw [eq, List.cons_append, List.singleton_append, split_inWord backslash rfl, map_modifyHead_nil,
      split_inWord literal rfl]
    rfl
  · have literal : step .double c = some (.double, [c]) := by
      simp [step, quoteless.1, quoteless.2, fixed]
    rw [unescaped, if_neg quoteless.2, eq, List.singleton_append, split_inWord literal rfl]
  · have inert := inert_of_isAlphanum (alnum kind List.mem_cons_self)
    rw [unescaped, if_neg quoteless.2, eq, List.cons_append, List.cons_append,
      split_inWord backslash rfl, map_modifyHead_nil, split_inWord inert.escaped rfl,
      split_double_alnum (fun d member => alnum d (List.mem_cons_of_mem kind member)), map_modifyHead]
    rfl

/-- Without expansions, the whole text is read up to the closing quote. -/
theorem split_double_repr {s : Text} (notQuote : '"' ∉ s) (fixed : ∀ c ∈ s, expands c = false) :
    split .double (s.flatMap (escape printable '"') ++ ['"']) =
      some [s.flatMap (unescaped printable)] := by
  induction s with
  | nil => rfl
  | cons c s ih =>
      rw [List.mem_cons, not_or] at notQuote
      rw [List.flatMap_cons, List.append_assoc,
        split_double_escape (Ne.symm notQuote.1) (fixed c List.mem_cons_self),
        ih notQuote.2 fun d member => fixed d (List.mem_cons_of_mem c member)]
      rfl

/-- An expansion is met whatever stands before it. -/
theorem split_double_expands {s : Text} (notQuote : '"' ∉ s) {c : Char} (member : c ∈ s)
    (expanded : expands c = true) (rest : Text) :
    split .double (s.flatMap (escape printable '"') ++ rest) = none := by
  induction s with
  | nil => cases member
  | cons d s ih =>
      rw [List.mem_cons, not_or] at notQuote
      rw [List.flatMap_cons, List.append_assoc]
      by_cases here : expands d = true
      · have itself : escape printable '"' d = [d] := by
          simp only [expands, Bool.or_eq_true, beq_iff_eq] at here
          rcases here with rfl | rfl <;> rfl
        have refused : step .double d = none := by
          simp only [expands, Bool.or_eq_true, beq_iff_eq] at here
          rcases here with rfl | rfl <;> rfl
        rw [itself, List.singleton_append, split_cons, refused]
        rfl
      · have later : c ∈ s := by
          rcases List.mem_cons.mp member with rfl | later
          · exact absurd expanded here
          · exact later
        rw [split_double_escape (Ne.symm notQuote.1) (Bool.eq_false_iff.mpr here), ih notQuote.2 later]
        rfl

theorem flatMap_unescaped_eq_iff {s : Text} (notQuote : '"' ∉ s) :
    s.flatMap (unescaped printable) = s ↔ ∀ c ∈ s, shown printable c = true := by
  have long (c : Char) (other : unescaped printable c ≠ [c]) : 2 ≤ (unescaped printable c).length := by
    rw [unescaped] at other ⊢
    split at other
    · rename_i backslash
      exact absurd (by rw [backslash]) other
    · rename_i backslash
      rw [if_neg backslash]
      exact two_le_length_escape other
  rw [flatMap_eq_self_iff long]
  apply forall₂_congr
  intro c member
  have free : c ≠ '"' := fun same => notQuote (same ▸ member)
  rw [unescaped]
  split
  · rename_i backslash
    subst backslash
    exact iff_of_true rfl rfl
  · rename_i backslash
    rw [escape_eq_self_iff free]
    exact and_iff_left backslash

end

/- The `repr` of a text. -/

section

variable {printable : Char → Bool} {s : Text}

theorem splitWords_double (apostrophe : '\'' ∈ s) (notQuote : '"' ∉ s) :
    splitWords (reprText printable s) = some [s] ↔ Quotable printable s := by
  have quoted : reprText printable s = '"' :: (s.flatMap (escape printable '"') ++ ['"']) := by
    simp [reprText, apostrophe, notQuote]
  have opened : step .between '"' = some (.double, []) := rfl
  rw [quoted, splitWords, split_inWord opened rfl, map_modifyHead_nil]
  by_cases fixed : ∀ c ∈ s, expands c = false
  · rw [split_double_repr notQuote fixed, Option.some.injEq, List.cons.injEq,
      flatMap_unescaped_eq_iff notQuote]
    constructor
    · intro read
      exact ⟨read.1, Or.inr ⟨apostrophe, notQuote, fixed⟩⟩
    · intro quotable
      exact ⟨quotable.shown, rfl⟩
  · obtain ⟨c, member, expanded⟩ : ∃ c ∈ s, expands c = true := by simpa using fixed
    rw [split_double_expands notQuote member expanded]
    apply iff_of_false (by simp)
    intro quotable
    rcases quotable.quotes with none | plain
    · exact none.1 apostrophe
    · exact fixed plain.2.2

theorem quote_notMem_flatMap (free : '\'' ∉ s) : '\'' ∉ s.flatMap (escape printable '\'') := by
  intro inside
  obtain ⟨c, member, inside⟩ := List.mem_flatMap.mp inside
  exact quote_notMem_escape (fun same => free (same ▸ member)) inside

theorem splitWords_single_repr (free : '\'' ∉ s) :
    splitWords (reprText printable s) = some [s] ↔ Quotable printable s := by
  have quoted : reprText printable s = '\'' :: (s.flatMap (escape printable '\'') ++ ['\'']) := by
    simp [reprText, free]
  have body := @quote_notMem_flatMap printable s free
  have whole : split .word [] = some [[]] := rfl
  rw [quoted, splitWords_single body, whole, Option.map_some, List.modifyHead_cons, List.append_nil,
    Option.some.injEq, List.cons.injEq, flatMap_eq_self_iff fun c => two_le_length_escape]
  have each : (∀ c ∈ s, escape printable '\'' c = [c]) ↔ ∀ c ∈ s, shown printable c = true ∧ c ≠ '\\' := by
    apply forall₂_congr
    intro c member
    exact escape_eq_self_iff fun same => free (same ▸ member)
  rw [each]
  constructor
  · intro read
    exact ⟨fun c member => (read.1 c member).1, Or.inl ⟨free, fun inside => (read.1 _ inside).2 rfl⟩⟩
  · intro quotable
    refine ⟨?_, rfl⟩
    intro c member
    refine ⟨quotable.shown c member, ?_⟩
    rintro rfl
    rcases quotable.quotes with none | other
    · exact none.2 member
    · exact free other.1

/-- What is escaped up to the first apostrophe, with the backslash of its own escape, is not
how the text begins: the backslashes in front only grow. -/
theorem escaped_not_front {front : Text} (free : '\'' ∉ front) (slashes : Nat) (back : Text) :
    ¬ (List.replicate slashes '\\' ++ (front.flatMap (escape printable '\'') ++ ['\\']) <+:
      front ++ '\'' :: back) := by
  induction front generalizing slashes with
  | nil =>
      cases slashes with
      | zero => simp
      | succ slashes => simp [List.replicate_succ]
  | cons c front ih =>
      rw [List.mem_cons, not_or] at free
      rw [List.flatMap_cons, List.append_assoc, List.cons_append]
      rcases written printable '\'' c with ⟨mark, eq⟩ | ⟨quoteless, -, eq⟩ |
        ⟨quoteless, -, kind, digits, -, eq⟩
      · have backslash : c = '\\' := mark.resolve_left (Ne.symm free.1)
        subst backslash
        have moved (rest : Text) : List.replicate slashes '\\' ++ '\\' :: rest =
            List.replicate (slashes + 1) '\\' ++ rest := by
          rw [List.replicate_succ', List.append_cons]
        rw [eq, List.cons_append, List.singleton_append, moved, List.replicate_succ, List.cons_append,
          moved, List.cons_prefix_cons]
        exact fun begins => ih free.2 (slashes + 1) begins.2
      · cases slashes with
        | zero =>
            rw [eq, List.replicate_zero, List.nil_append, List.singleton_append, List.cons_prefix_cons]
            exact fun begins => ih free.2 0 begins.2
        | succ slashes =>
            rw [List.replicate_succ, List.cons_append, List.cons_prefix_cons]
            exact fun begins => quoteless.2 begins.1.symm
      · cases slashes with
        | zero =>
            rw [eq, List.replicate_zero, List.nil_append, List.cons_append, List.cons_prefix_cons]
            exact fun begins => quoteless.2 begins.1.symm
        | succ slashes =>
            rw [List.replicate_succ, List.cons_append, List.cons_prefix_cons]
            exact fun begins => quoteless.2 begins.1.symm

/-- With both kinds of quotes, the first apostrophe closes the quotation. -/
theorem splitWords_both (apostrophe : '\'' ∈ s) (quote : '"' ∈ s) :
    splitWords (reprText printable s) ≠ some [s] := by
  obtain ⟨front, back, rfl, free⟩ := List.eq_append_cons_of_mem apostrophe
  have marked : escape printable '\'' '\'' = ['\\', '\''] := rfl
  have quoted : reprText printable (front ++ '\'' :: back) =
      '\'' :: ((front.flatMap (escape printable '\'') ++ ['\\']) ++
        '\'' :: (back.flatMap (escape printable '\'') ++ ['\''])) := by
    have style : ((front ++ '\'' :: back).contains '\'' && !(front ++ '\'' :: back).contains '"') = false := by
      simp [quote]
    rw [reprText, style, if_neg Bool.false_ne_true, List.flatMap_append, List.flatMap_cons, marked]
    simp
  have body : '\'' ∉ front.flatMap (escape printable '\'') ++ ['\\'] := by
    rw [List.mem_append, not_or]
    refine ⟨quote_notMem_flatMap free, by decide⟩
  rw [quoted, splitWords_single body]
  intro read
  obtain ⟨words, -, same⟩ := Option.map_eq_some_iff.mp read
  cases words with
  | nil => cases same
  | cons word words =>
      rw [List.modifyHead_cons, List.cons.injEq] at same
      exact escaped_not_front free 0 back ⟨word, same.1⟩

/-- The shell reads back the `repr` of a text iff the text is quotable. -/
theorem splitWords_reprText_iff : splitWords (reprText printable s) = some [s] ↔ Quotable printable s := by
  by_cases apostrophe : '\'' ∈ s
  · by_cases quote : '"' ∈ s
    · apply iff_of_false (splitWords_both apostrophe quote)
      intro quotable
      rcases quotable.quotes with none | other
      · exact none.1 apostrophe
      · exact other.2.1 quote
    · exact splitWords_double apostrophe quote
  · exact splitWords_single_repr apostrophe

end

/- The two commands, word by word. -/

/-- A text that is written as it stands. -/
def verbatim (s : Text) : Source := ⟨s, s⟩

def quoted (printable : Char → Bool) (s : Text) : Source := ⟨reprText printable s, s⟩

/-- The text shows no blanks that its word does not have. -/
def Narrow (source : Source) : Prop := blanks source.shown ≤ blanks source.word

theorem narrow_verbatim (s : Text) : Narrow (verbatim s) := le_refl (blanks s)

theorem narrow_quoted (printable : Char → Bool) (s : Text) : Narrow (quoted printable s) :=
  blanks_reprText_le printable s

/-- Behind fixed words, only the other sources count. -/
theorem splitWords_fixed_iff {fixed : List Text} (reads : ∀ word ∈ fixed, splitWords word = some [word])
    {sources : List Source} (filled : sources ≠ []) (narrow : ∀ source ∈ sources, Narrow source) :
    splitWords (join [' '] ((fixed.map verbatim ++ sources).map Source.shown)) =
        some ((fixed.map verbatim ++ sources).map Source.word) ↔
      ∀ source ∈ sources, source.Reads := by
  have all : ∀ source ∈ fixed.map verbatim ++ sources, Narrow source := by
    rw [List.forall_mem_append, List.forall_mem_map]
    exact ⟨fun word _ => narrow_verbatim word, narrow⟩
  rw [splitWords_join_iff (List.append_ne_nil_of_right_ne_nil _ filled) all, List.forall_mem_append,
    List.forall_mem_map]
  exact and_iff_right reads

def curlOptions : List Text :=
  [text "curl", text "-sk", text "--tlsv1.3", text "--tls-max", text "1.3", text "-u"]

def contentType : Source :=
  ⟨text "'Content-Type: application/json'", text "Content-Type: application/json"⟩

def sshOptions : List Text :=
  [ text "ssh", text "-vvv", text "-o", text "StrictHostKeyChecking=no", text "-o",
    text "UserKnownHostsFile=/dev/null", text "-o", text "PubkeyAuthentication=no", text "-o",
    text "PreferredAuthentications=keyboard-interactive", text "-o",
    text "KexAlgorithms=" ++ sshPqcKex ]

section

variable (printable : Char → Bool)

def curlSources (url payload user : Text) : List Source :=
  [ verbatim user, quoted printable url, verbatim (text "-H"), contentType, verbatim (text "-d"),
    quoted printable payload ]

def sshSources (mgmtIp user remoteCommand : Text) : List Source :=
  [verbatim (user ++ text "@" ++ mgmtIp), quoted printable remoteCommand]

theorem curlEapiCommand_eq (url payload user : Text) :
    curlEapiCommand printable url payload user .host =
      join [' '] ((curlOptions.map verbatim ++ curlSources printable url payload user).map Source.shown) := by
  have sources : (curlOptions.map verbatim ++ curlSources printable url payload user).map Source.shown =
      [ text "curl", text "-sk", text "--tlsv1.3", text "--tls-max", text "1.3", text "-u", user,
        reprText printable url, text "-H", text "'Content-Type: application/json'", text "-d",
        reprText printable payload ] := rfl
  simp only [sources, curlEapiCommand, join, List.intercalate_cons_cons, List.intercalate_singleton,
    List.append_assoc]
  rfl

theorem sshPqcCommand_eq (mgmtIp user remoteCommand : Text) :
    sshPqcCommand printable mgmtIp user remoteCommand sshPqcKex =
      join [' '] ((sshOptions.map verbatim ++ sshSources printable mgmtIp user remoteCommand).map
        Source.shown) ++ text " 2>&1" := by
  have sources : (sshOptions.map verbatim ++ sshSources printable mgmtIp user remoteCommand).map
      Source.shown =
      sshOptions ++ [user ++ text "@" ++ mgmtIp, reprText printable remoteCommand] := rfl
  rw [sources, sshPqcCommand]
  simp only [sshOptions, List.cons_append, List.nil_append, join, List.intercalate_cons_cons,
    List.intercalate_singleton, List.append_assoc]
  rfl

theorem curlAgrees_iff (url payload user : Text) : CurlAgrees printable url payload user ↔
    PlainWord user ∧ Quotable printable url ∧ Quotable printable payload := by
  have narrow : ∀ source ∈ curlSources printable url payload user, Narrow source := by
    simp only [curlSources, List.forall_mem_cons]
    refine ⟨narrow_verbatim user, narrow_quoted printable url, narrow_verbatim _, ?_, narrow_verbatim _,
      narrow_quoted printable payload, by simp⟩
    rw [Narrow]
    decide
  have reads : ∀ word ∈ curlOptions, splitWords word = some [word] := by decide
  have words : curlEapiArgv url payload user =
      (curlOptions.map verbatim ++ curlSources printable url payload user).map Source.word := rfl
  rw [CurlAgrees, curlEapiCommand_eq, words, splitWords_fixed_iff reads (by simp [curlSources]) narrow]
  have header : (verbatim (text "-H")).Reads := rfl
  have type : contentType.Reads := rfl
  have data : (verbatim (text "-d")).Reads := rfl
  simp only [curlSources, List.forall_mem_cons, header, type, data, true_and]
  rw [Source.Reads, Source.Reads, Source.Reads, verbatim, quoted, quoted, splitWords_self_iff,
    splitWords_reprText_iff, splitWords_reprText_iff]
  simp

theorem sshAgrees_iff (mgmtIp user remoteCommand : Text) : SshAgrees printable mgmtIp user remoteCommand ↔
    PlainWord (user ++ text "@" ++ mgmtIp) ∧ Quotable printable remoteCommand := by
  have narrow : ∀ source ∈ sshSources printable mgmtIp user remoteCommand, Narrow source := by
    simp only [sshSources, List.forall_mem_cons]
    exact ⟨narrow_verbatim _, narrow_quoted printable remoteCommand, by simp⟩
  have reads : ∀ word ∈ sshOptions, splitWords word = some [word] := by decide
  have words : sshPqcArgv mgmtIp user remoteCommand sshPqcKex =
      (sshOptions.map verbatim ++ sshSources printable mgmtIp user remoteCommand).map Source.word := rfl
  simp only [SshAgrees, sshPqcCommand_eq, List.append_cancel_right_eq, exists_eq_left', words]
  rw [splitWords_fixed_iff reads (by simp [sshSources]) narrow]
  simp only [sshSources, List.forall_mem_cons]
  rw [Source.Reads, Source.Reads, verbatim, quoted, splitWords_self_iff, splitWords_reprText_iff]
  simp

end

/-- The shell runs what the host passes iff the user, or the user at the address, is a plain
word, and the texts between `repr` quotes are quotable. -/
theorem commandsAgree_iff (printable : Char → Bool) :
    (∀ url payload user, CurlAgrees printable url payload user ↔
      PlainWord user ∧ Quotable printable url ∧ Quotable printable payload) ∧
    (∀ mgmtIp user remoteCommand, SshAgrees printable mgmtIp user remoteCommand ↔
      PlainWord (user ++ text "@" ++ mgmtIp) ∧ Quotable printable remoteCommand) := by
  constructor
  · intro url payload user
    exact curlAgrees_iff printable url payload user
  · intro mgmtIp user remoteCommand
    exact sshAgrees_iff printable mgmtIp user remoteCommand

/-- An apostrophe among double quotes: the shell closes the quotation there, and meets one
that is not closed. -/
theorem not_commandsAgree_apostrophe :
    ¬ ∀ printable : Char → Bool,
      (∀ url payload user, CurlAgrees printable url payload user) ∧
        ∀ mgmtIp user remoteCommand, SshAgrees printable mgmtIp user remoteCommand := by
  intro agree
  have curl := (agree fun _ => true).1 (text "https://172.20.127.11:443/command-api")
    (text "\x7b\"cmds\": [\"interface Et1\", \"description Alice's link\"]\x7d") (text "admin:")
  have quotable := ((curlAgrees_iff _ _ _ _).mp curl).2.2
  rcases quotable.quotes with none | other
  · exact none.1 (by decide)
  · exact other.2.1 (by decide)

end QuantumSafe.ProbeClient
