import Mathlib.Logic.Function.Basic
import QuantumSafe.Aborting
import QuantumSafe.Certificates

set_option autoImplicit false

/- A work directory of keys, requests and certificates, and the openssl calls
on it as atomic steps that may fail. -/
namespace Openssl

open PyText Aborting

/-- The files of one certificate in the work directory. -/
structure Entry where
  key : Option Text
  csr : Option Text
  ext : Option Text
  crt : Option Text
  marker : Option Text

def Entry.absent : Entry := ⟨none, none, none, none, none⟩

/-- An openssl call and whether it succeeded. -/
inductive Call (Stem : Type) where
  | newKey (stem : Stem) (succeeded : Bool)
  | selfSign (stem : Stem) (succeeded : Bool)
  | sign (stem : Stem) (succeeded : Bool)
  | inspect (stem : Stem) (succeeded : Bool)

/-- The work directory by certificate, the published files, and the openssl
calls made so far, latest first. A key is numbered by the call that made it. -/
structure Directory (Stem Out : Type) where
  work : Stem → Entry
  out : Out → Option Text
  calls : List (Call Stem)

def Directory.empty {Stem Out : Type} : Directory Stem Out :=
  ⟨fun _ => .absent, fun _ => none, []⟩

section Calls

variable {Stem Out : Type} [DecidableEq Stem] [DecidableEq Out]

def Directory.setWork (d : Directory Stem Out) (stem : Stem) (entry : Entry) :
    Directory Stem Out :=
  { d with work := Function.update d.work stem entry }

def Directory.setOut (d : Directory Stem Out) (file : Out) (content : Text) :
    Directory Stem Out :=
  { d with out := Function.update d.out file (some content) }

def Directory.called (d : Directory Stem Out) (call : Call Stem) : Directory Stem Out :=
  { d with calls := call :: d.calls }

/-- Everything in the work directory is removed. -/
def Directory.rmtree (d : Directory Stem Out) : Directory Stem Out :=
  { d with work := fun _ => .absent }

variable (pem : Pem) (succeeds : Nat → Bool)

/-- `openssl req -newkey`: a fresh key and a request for it. -/
def newKey (stem : Stem) (subject : Text) : Step (Directory Stem Out) := fun d =>
  let key := d.calls.length
  if succeeds key then
    .ok ((d.setWork stem { d.work stem with
      key := some (pem.encode (.privateKey key))
      csr := some (pem.encode (.request subject key)) }).called (.newKey stem true))
  else .error (d.called (.newKey stem false))

/-- `openssl req -x509 -newkey`: a fresh key and a certificate signed with it. -/
def selfSign (stem : Stem) (subject extensions : Text) : Step (Directory Stem Out) := fun d =>
  let key := d.calls.length
  if succeeds key then
    .ok ((d.setWork stem { d.work stem with
      key := some (pem.encode (.privateKey key))
      crt := some (pem.encode (.certificate ⟨subject, key, key, extensions⟩)) }).called
        (.selfSign stem true))
  else .error (d.called (.selfSign stem false))

/-- `openssl x509 -req`: a certificate for the request, with the extensions of
the extension file. It also fails when one of its four inputs cannot be used. -/
def sign (ca stem : Stem) : Step (Directory Stem Out) := fun d =>
  match pem.held (d.work stem).csr, (d.work stem).ext, pem.held (d.work ca).crt,
      pem.held (d.work ca).key with
  | some (.request subject key), some extensions, some (.certificate issuer),
      some (.privateKey signer) =>
      if issuer.key = signer ∧ succeeds d.calls.length = true then
        .ok ((d.setWork stem { d.work stem with
          crt := some (pem.encode (.certificate ⟨subject, key, signer, extensions⟩)) }).called
            (.sign stem true))
      else .error (d.called (.sign stem false))
  | _, _, _, _ => .error (d.called (.sign stem false))

/-- Standard output of `openssl x509 -in ... -noout -ext keyUsage`, empty when
the call fails, and the directory after it. -/
def inspect (stem : Stem) (d : Directory Stem Out) : Text × Directory Stem Out :=
  match pem.held (d.work stem).crt, succeeds d.calls.length with
  | some (.certificate certificate), true =>
      (printedKeyUsage certificate, d.called (.inspect stem true))
  | _, _ => ([], d.called (.inspect stem false))

/-- `path.write_text("\n".join(lines) + "\n")` for the extension file. -/
def writeExt (stem : Stem) (lines : List Text) (d : Directory Stem Out) : Directory Stem Out :=
  d.setWork stem { d.work stem with ext := some (join (text "\n") lines ++ text "\n") }

/-- A key and a request, the extension file, and the certificate. -/
def issue (ca stem : Stem) (subject : Text) (lines : List Text) : Step (Directory Stem Out) :=
  andThen (newKey pem succeeds stem subject) fun d =>
    sign pem succeeds ca stem (writeExt stem lines d)

/-- One published file, from work files that must exist. -/
def publish (source : (Stem → Entry) → Option Text) (file : Out) : Step (Directory Stem Out) :=
  fun d =>
    match source d.work with
    | some content => .ok (d.setOut file content)
    | none => .error d

omit [DecidableEq Stem] in
theorem publish_work (source : (Stem → Entry) → Option Text) (file : Out)
    (d : Directory Stem Out) : (left (publish source file d)).work = d.work := by
  unfold publish
  split <;> rfl

omit [DecidableEq Stem] in
theorem publish_ok {source : (Stem → Entry) → Option Text} {file : Out}
    {d next : Directory Stem Out} (ends : publish source file d = .ok next) :
    next.work = d.work ∧ next.calls = d.calls ∧ next.out file = source d.work ∧
      ∀ other, other ≠ file → next.out other = d.out other := by
  unfold publish at ends
  split at ends
  · rename_i content found
    cases ends
    exact ⟨rfl, rfl, by simp [Directory.setOut, found],
      fun other differs => by simp [Directory.setOut, differs]⟩
  · cases ends

omit [DecidableEq Out] in
theorem newKey_frame {stem other : Stem} (differs : other ≠ stem) (subject : Text)
    (d : Directory Stem Out) :
    (left (newKey pem succeeds stem subject d)).work other = d.work other := by
  unfold newKey
  dsimp only
  split <;> simp [left, Directory.setWork, Directory.called, differs]

omit [DecidableEq Out] in
theorem sign_frame (ca : Stem) {stem other : Stem} (differs : other ≠ stem) (d : Directory Stem Out) :
    (left (sign pem succeeds ca stem d)).work other = d.work other := by
  unfold sign
  split
  · split <;> simp [left, Directory.setWork, Directory.called, differs]
  · rfl

omit [DecidableEq Out] in
/-- Whatever happens, `issue` touches only the files of its own certificate. -/
theorem issue_frame (ca : Stem) {stem other : Stem} (differs : other ≠ stem) (subject : Text)
    (lines : List Text) (d : Directory Stem Out) :
    (left (issue pem succeeds ca stem subject lines d)).work other = d.work other := by
  have first := newKey_frame pem succeeds differs subject d
  unfold issue andThen
  cases made : newKey pem succeeds stem subject d with
  | error stopped =>
      rw [made] at first
      exact first
  | ok next =>
      rw [made] at first
      have second := sign_frame pem succeeds ca differs (writeExt stem lines next)
      have kept : (writeExt stem lines next).work other = next.work other := by
        simp [writeExt, Directory.setWork, differs]
      exact (second.trans kept).trans first

/-- The certificate authority that later calls sign with. -/
def CaReady (ca : Stem) (authority : Certificate) (d : Directory Stem Out) : Prop :=
  pem.held (d.work ca).crt = some (.certificate authority) ∧
    pem.held (d.work ca).key = some (.privateKey authority.key)

omit [DecidableEq Out] in
/-- The two ways in which making a CA can end. -/
theorem selfSign_cases (stem : Stem) (subject extensions : Text) (d : Directory Stem Out) :
    selfSign pem succeeds stem subject extensions d = .error (d.called (.selfSign stem false)) ∨
    ∃ next, selfSign pem succeeds stem subject extensions d = .ok next ∧
      CaReady pem stem ⟨subject, d.calls.length, d.calls.length, extensions⟩ next ∧
      (∀ other, other ≠ stem → next.work other = d.work other) ∧ next.out = d.out ∧
      next.calls = .selfSign stem true :: d.calls := by
  unfold selfSign
  by_cases made : succeeds d.calls.length = true
  · right
    simp only [made, ↓reduceIte]
    refine ⟨_, rfl, ⟨?_, ?_⟩, fun other differs => ?_, rfl, rfl⟩
    · simp [Directory.called, Directory.setWork, pem.held_encode]
    · simp [Directory.called, Directory.setWork, pem.held_encode]
    · simp [Directory.called, Directory.setWork, differs]
  · left
    simp only [made, ↓reduceIte, Bool.false_eq_true]

/-- The directory between the two calls of `issue`. -/
def keyed (stem : Stem) (subject : Text) (lines : List Text) (d : Directory Stem Out) :
    Directory Stem Out :=
  (d.setWork stem { d.work stem with
    key := some (pem.encode (.privateKey d.calls.length))
    csr := some (pem.encode (.request subject d.calls.length))
    ext := some (join (text "\n") lines ++ text "\n") }).called (.newKey stem true)

/-- The certificate that `issue` makes. -/
def issued (authority : Certificate) (subject : Text) (lines : List Text)
    (d : Directory Stem Out) : Certificate :=
  ⟨subject, d.calls.length, authority.key, join (text "\n") lines ++ text "\n"⟩

omit [DecidableEq Out] in
/-- The three ways in which `issue` can end. -/
theorem issue_cases {ca stem : Stem} (other : stem ≠ ca) {authority : Certificate}
    {d : Directory Stem Out} (ready : CaReady pem ca authority d) (subject : Text)
    (lines : List Text) :
    issue pem succeeds ca stem subject lines d = .error (d.called (.newKey stem false)) ∨
    issue pem succeeds ca stem subject lines d =
      .error ((keyed pem stem subject lines d).called (.sign stem false)) ∨
    issue pem succeeds ca stem subject lines d =
      .ok (((keyed pem stem subject lines d).setWork stem
        { (keyed pem stem subject lines d).work stem with
          crt := some (pem.encode (.certificate (issued authority subject lines d))) }).called
            (.sign stem true)) := by
  unfold issue andThen newKey
  by_cases made : succeeds d.calls.length = true
  · right
    have after : writeExt stem lines ((d.setWork stem { d.work stem with
        key := some (pem.encode (.privateKey d.calls.length))
        csr := some (pem.encode (.request subject d.calls.length)) }).called (.newKey stem true)) =
        keyed pem stem subject lines d := by
      simp [writeExt, keyed, Directory.setWork, Directory.called]
    have csr : pem.held ((keyed pem stem subject lines d).work stem).csr =
        some (.request subject d.calls.length) := by
      simp [keyed, Directory.setWork, Directory.called, pem.held_encode]
    have ext : ((keyed pem stem subject lines d).work stem).ext =
        some (join (text "\n") lines ++ text "\n") := by
      simp [keyed, Directory.setWork, Directory.called]
    have kept : (keyed pem stem subject lines d).work ca = d.work ca := by
      simp [keyed, Directory.setWork, Directory.called, other.symm]
    simp only [made, ↓reduceIte, Except.bind, after]
    unfold sign
    rw [csr, ext, kept, ready.1, ready.2]
    by_cases signed : succeeds (keyed pem stem subject lines d).calls.length = true
    · right
      simp only [signed, and_self, ↓reduceIte, issued, ext]
    · left
      simp only [signed, and_false, ↓reduceIte, Bool.false_eq_true]
  · left
    simp only [made, ↓reduceIte, Except.bind, Bool.false_eq_true]

omit [DecidableEq Out] in
/-- What a completed `issue` leaves. -/
theorem issue_ok {ca stem : Stem} (other : stem ≠ ca) {authority : Certificate}
    {d next : Directory Stem Out} (ready : CaReady pem ca authority d) {subject : Text}
    {lines : List Text} (ends : issue pem succeeds ca stem subject lines d = .ok next) :
    (next.work stem).key = some (pem.encode (.privateKey d.calls.length)) ∧
      (next.work stem).crt =
        some (pem.encode (.certificate (issued authority subject lines d))) ∧
      (next.work stem).marker = (d.work stem).marker ∧
      next.calls = .sign stem true :: .newKey stem true :: d.calls ∧ next.out = d.out := by
  rcases issue_cases pem succeeds other ready subject lines with fails | fails | done
  · rw [fails] at ends
    cases ends
  · rw [fails] at ends
    cases ends
  · rw [done] at ends
    cases ends
    simp [keyed, Directory.setWork, Directory.called]

omit [DecidableEq Out] in
/-- What an `issue` that is cut short leaves: it failed before it changed
anything, or it replaced the key and not the certificate. -/
theorem issue_error {ca stem : Stem} (other : stem ≠ ca) {authority : Certificate}
    {d stopped : Directory Stem Out} (ready : CaReady pem ca authority d) {subject : Text}
    {lines : List Text} (ends : issue pem succeeds ca stem subject lines d = .error stopped) :
    (stopped.work stem).crt = (d.work stem).crt ∧
      (stopped.work stem).marker = (d.work stem).marker ∧ stopped.out = d.out ∧
      ((stopped.work stem).key = (d.work stem).key ∧
          stopped.calls = .newKey stem false :: d.calls ∨
        (stopped.work stem).key = some (pem.encode (.privateKey d.calls.length)) ∧
          stopped.calls = .sign stem false :: .newKey stem true :: d.calls) := by
  rcases issue_cases pem succeeds other ready subject lines with fails | fails | done
  · rw [fails] at ends
    cases ends
    simp [Directory.called]
  · rw [fails] at ends
    cases ends
    simp [keyed, Directory.setWork, Directory.called]
  · rw [done] at ends
    cases ends

end Calls

end Openssl
