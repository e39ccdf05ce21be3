import QuantumSafe.CeosContract
import QuantumSafe.Openssl

set_option autoImplicit false

/- `lab/gen_kme_pki.py`: the certificates of the KME pair and of its clients. -/
namespace QuantumSafe.GenKmePki

open PyText Aborting Openssl
open CeosContract (kmeSaeId kmeBSaeId)

/-- The certificates of the work directory. -/
inductive KmeStem where
  | ca
  | kmeA
  | kmeB
  | sae
  | saeB
deriving DecidableEq

def KmeStem.basename : KmeStem → Text
  | .ca => text "ca"
  | .kmeA => text "kme-a"
  | .kmeB => text "kme-b"
  | .sae => text "sae"
  | .saeB => text "sae-b"

/-- The published files. -/
inductive KmeOut where
  | crt (stem : KmeStem)
  | key (stem : KmeStem)
  | saeBundle
  | saeBBundle
deriving DecidableEq

def KmeOut.name : KmeOut → Text
  | .crt stem => stem.basename ++ text ".crt.pem"
  | .key stem => stem.basename ++ text ".key.pem"
  | .saeBundle => text "kme-sae-bundle.pem"
  | .saeBBundle => text "kme-sae-b-bundle.pem"

abbrev KmeDirectory := Directory KmeStem KmeOut

def caSubject : Text := text "/CN=quantum-safe-kme-ca/O=Lab/C=US"
def caUsage : Text := text "keyUsage=critical,keyCertSign,cRLSign"
def kmeAId : Text := text "9b7703f1-9b6d-403d-b850-18a1b6fd6d8f"
def kmeBId : Text := text "ffb23f4d-5d5b-47e5-a8c5-fe9e47d646cd"

section Generate

variable (pem : Pem) (succeeds : Nat → Bool)

def caHasCertSign (d : KmeDirectory) : Bool × KmeDirectory :=
  if (d.work .ca).crt.isSome then
    let checked := inspect pem succeeds .ca d
    (contains (text "certificate sign") (lower checked.1), checked.2)
  else (false, d)

/-- The CA is kept when it has Certificate Sign; otherwise the work directory is
wiped and a new CA is made. -/
def ensureCa : Step KmeDirectory := fun d =>
  let checked := caHasCertSign pem succeeds d
  if checked.1 then .ok checked.2
  else
    selfSign pem succeeds .ca caSubject caUsage checked.2.rmtree

def kmeLines (kmeIp : IpText) (dnsNames : List Text) : List Text :=
  let san := join (text ", ") (ipEntry kmeIp.val :: dnsNames.map dnsEntry)
  [text "subjectAltName = " ++ san, text "extendedKeyUsage = serverAuth,clientAuth",
    text "keyUsage = digitalSignature,keyEncipherment"]

def issueKmeCert (stem : KmeStem) (kmeId : Text) (kmeIp : IpText) (dnsNames : List Text) :
    Step KmeDirectory :=
  issue pem succeeds .ca stem (text "/CN=" ++ kmeId ++ text "/O=KME/C=US") (kmeLines kmeIp dnsNames)

def saeLines : List Text :=
  let names := [text "radius", containerName (text "radius")]
  [text "subjectAltName = " ++ join (text ", ") (names.map dnsEntry),
    text "extendedKeyUsage = clientAuth", text "keyUsage = digitalSignature"]

def issueSaeCert (stem : KmeStem) (saeId : Text) : Step KmeDirectory := fun d =>
  if (d.work stem).crt.isSome then .ok d
  else issue pem succeeds .ca stem (text "/CN=" ++ saeId ++ text "/O=SAE/C=US") saeLines d

/-- What `_write_bundle` writes. -/
def bundle (entry : Entry) : Option Text :=
  match entry.key, entry.crt with
  | some key, some crt => some (rstrip key ++ text "\n" ++ crt)
  | _, _ => none

/-- Where each published file comes from. -/
def KmeOut.source : KmeOut → (KmeStem → Entry) → Option Text
  | .crt stem, work => (work stem).crt
  | .key stem, work => (work stem).key
  | .saeBundle, work => bundle (work .sae)
  | .saeBBundle, work => bundle (work .saeB)

def published : List KmeOut :=
  [.crt .ca, .crt .kmeA, .key .kmeA, .crt .kmeB, .key .kmeB, .crt .sae, .key .sae, .crt .saeB,
    .key .saeB, .saeBundle, .saeBBundle]

def generateKmePki (kmeAIp kmeBIp : IpText) : Step KmeDirectory :=
  andThen (ensureCa pem succeeds)
  (andThen (issueKmeCert pem succeeds .kmeA kmeAId kmeAIp
    [text "kme-a", containerName (text "kme-a")])
  (andThen (issueKmeCert pem succeeds .kmeB kmeBId kmeBIp
    [text "kme-b", containerName (text "kme-b")])
  (andThen (issueSaeCert pem succeeds .sae kmeSaeId)
  (andThen (issueSaeCert pem succeeds .saeB kmeBSaeId)
  (forEach published fun file => publish file.source file)))))

end Generate

section Results

variable (pem : Pem)

/-- A certificate and the key file beside it. -/
def Paired (work : KmeStem → Entry) (stem : KmeStem) (certificate : Certificate) : Prop :=
  (work stem).crt = some (pem.encode (.certificate certificate)) ∧
    (work stem).key = some (pem.encode (.privateKey certificate.key))

/-- The certificate of a client, if there is one, is the CA's and fits its key. -/
def SaeSound (authority : Certificate) (work : KmeStem → Entry) (stem : KmeStem) : Prop :=
  (work stem).crt = none ∨
    ∃ certificate, Paired pem work stem certificate ∧ certificate.signer = authority.key

/-- No CA that would be kept: an empty directory or one whose CA lacks
Certificate Sign. -/
def LacksCertSign (d : KmeDirectory) : Prop :=
  ∀ authority, pem.held (d.work .ca).crt = some (.certificate authority) → ¬ authority.CertSign

/-- A CA that will be kept, with its key, and the clients beside it. -/
def Ready (authority : Certificate) (d : KmeDirectory) : Prop :=
  authority.CertSign ∧ CaReady pem .ca authority d ∧
    SaeSound pem authority d.work .sae ∧ SaeSound pem authority d.work .saeB

/-- The invariant of the work directory between and inside runs. -/
def CaSound (d : KmeDirectory) : Prop :=
  LacksCertSign pem d ∨ ∃ authority, Ready pem authority d

/-- A published certificate that fits the key beside it and that the CA signed. -/
def LeafSound (authority : Certificate) (out : KmeOut → Option Text) (stem : KmeStem)
    (certificate : Certificate) : Prop :=
  pem.held (out (.crt stem)) = some (.certificate certificate) ∧
    pem.held (out (.key stem)) = some (.privateKey certificate.key) ∧
    certificate.signer = authority.key

/-- A bundle is the key file followed by the certificate file. -/
def BundleSound (out : KmeOut → Option Text) (file : KmeOut) (stem : KmeStem) : Prop :=
  ∃ key crt, out (.key stem) = some key ∧ out (.crt stem) = some crt ∧
    out file = some (key ++ crt)

structure KmePkiSound (out : KmeOut → Option Text) (kmeAIp kmeBIp : IpText) : Prop where
  leaves : ∃ authority, pem.held (out (.crt .ca)) = some (.certificate authority) ∧
    authority.CertSign ∧
    (∃ certificate, LeafSound pem authority out .kmeA certificate ∧
      certificate.ips = [kmeAIp.val]) ∧
    (∃ certificate, LeafSound pem authority out .kmeB certificate ∧
      certificate.ips = [kmeBIp.val]) ∧
    (∃ certificate, LeafSound pem authority out .sae certificate) ∧
    ∃ certificate, LeafSound pem authority out .saeB certificate
  sae : BundleSound out .saeBundle .sae
  saeB : BundleSound out .saeBBundle .saeB

end Results

theorem KmeStem.basename_injective : Function.Injective KmeStem.basename := by
  intro first second same
  cases first <;> cases second <;> first | rfl | exact absurd same (by decide)

theorem KmeOut.name_injective : Function.Injective KmeOut.name := by
  intro first second same
  rcases first with first | first | _ | _ <;> rcases second with second | second | _ | _ <;>
    first
    | rfl
    | (cases first <;> cases second <;> first | rfl | exact absurd same (by decide))
    | (cases first <;> exact absurd same (by decide))
    | (cases second <;> exact absurd same (by decide))
    | exact absurd same (by decide)

section Runs

variable (pem : Pem) (succeeds : Nat → Bool)

theorem caHasCertSign_work (d : KmeDirectory) :
    (caHasCertSign pem succeeds d).2.work = d.work := by
  unfold caHasCertSign inspect
  split
  · dsimp only
    split <;> rfl
  · rfl

theorem certSign_of_caHasCertSign {d : KmeDirectory}
    (checked : (caHasCertSign pem succeeds d).1 = true) :
    ∃ authority, pem.held (d.work .ca).crt = some (.certificate authority) ∧
      authority.CertSign := by
  unfold caHasCertSign inspect at checked
  split at checked
  · dsimp only at checked
    split at checked
    · rename_i certificate held _
      exact ⟨certificate, held, certSign_of_printed checked⟩
    · have empty : contains (text "certificate sign") (lower []) = false := by decide
      rw [empty] at checked
      cases checked
  · cases checked

theorem caUsage_certSign (subject : Text) (key signer : Nat) :
    Certificate.CertSign ⟨subject, key, signer, caUsage⟩ := by
  have listed : text "keyCertSign" ∈ extensionValues caUsage (text "keyUsage") := by
    decide +kernel
  exact listed

theorem ready_of_work_eq {authority : Certificate} {d next : KmeDirectory}
    (ready : Ready pem authority d) (same : next.work = d.work) : Ready pem authority next := by
  simpa only [Ready, CaReady, SaeSound, same] using ready

/-- From a sound directory, `generate_kme_pki` either gets a CA with Certificate
Sign or stops with none. -/
theorem ensureCa_cases {d : KmeDirectory} (sound : CaSound pem d) :
    (∃ stopped, ensureCa pem succeeds d = .error stopped ∧ LacksCertSign pem stopped) ∨
    ∃ authority next, ensureCa pem succeeds d = .ok next ∧ Ready pem authority next := by
  unfold ensureCa
  by_cases checked : (caHasCertSign pem succeeds d).1 = true
  · right
    obtain ⟨authority, held, signs⟩ := certSign_of_caHasCertSign pem succeeds checked
    rcases sound with lacks | ⟨kept, ready⟩
    · exact absurd signs (lacks authority held)
    · exact ⟨kept, _, by rw [if_pos checked],
        ready_of_work_eq pem ready (caHasCertSign_work pem succeeds d)⟩
  · simp only [checked, Bool.false_eq_true, ↓reduceIte]
    rcases selfSign_cases pem succeeds .ca caSubject caUsage
      (caHasCertSign pem succeeds d).2.rmtree with fails | ⟨next, made, ready, others, -, -⟩
    · left
      refine ⟨_, fails, fun authority held => ?_⟩
      simp [Directory.called, Directory.rmtree, Entry.absent, Pem.held] at held
    · right
      have wiped (stem : KmeStem) (other : stem ≠ .ca) : (next.work stem).crt = none := by
        rw [others stem other]
        rfl
      exact ⟨_, next, made, caUsage_certSign _ _ _, ready, Or.inl (wiped .sae (by decide)),
        Or.inl (wiped .saeB (by decide))⟩

/-- The new certificate and its key, as `issue` leaves them. -/
theorem issue_paired {authority : Certificate} {stem : KmeStem} (other : stem ≠ .ca)
    {d next : KmeDirectory} (ready : CaReady pem .ca authority d) {subject : Text}
    {lines : List Text} (ends : issue pem succeeds .ca stem subject lines d = .ok next) :
    Paired pem next.work stem (issued authority subject lines d) := by
  obtain ⟨key, crt, -⟩ := issue_ok pem succeeds other ready ends
  exact ⟨crt, key⟩

/-- A directory stays ready when a KME certificate or a missing client
certificate is issued, also when a call fails. -/
theorem issue_ready {authority : Certificate} {stem : KmeStem} (other : stem ≠ .ca)
    {d : KmeDirectory} (ready : Ready pem authority d)
    (missing : stem = .sae ∨ stem = .saeB → (d.work stem).crt = none) (subject : Text)
    (lines : List Text) :
    Ready pem authority (left (issue pem succeeds .ca stem subject lines d)) := by
  obtain ⟨signs, caReady, sae, saeB⟩ := ready
  have frame (file : KmeStem) (differs : file ≠ stem) :
      (left (issue pem succeeds .ca stem subject lines d)).work file = d.work file :=
    issue_frame pem succeeds .ca differs subject lines d
  have ca : CaReady pem .ca authority (left (issue pem succeeds .ca stem subject lines d)) := by
    simpa only [CaReady, frame .ca other.symm] using caReady
  have client (file : KmeStem) (named : file = .sae ∨ file = .saeB)
      (sound : SaeSound pem authority d.work file) :
      SaeSound pem authority (left (issue pem succeeds .ca stem subject lines d)).work file := by
    by_cases same : file = stem
    · subst same
      cases ends : issue pem succeeds .ca file subject lines d with
      | error stopped =>
          have kept := (issue_error pem succeeds other caReady ends).1
          exact Or.inl (kept.trans (missing named))
      | ok next => exact Or.inr ⟨_, issue_paired pem succeeds other caReady ends, rfl⟩
    · simpa only [SaeSound, Paired, frame file same] using sound
  exact ⟨signs, ca, client .sae (Or.inl rfl) sae, client .saeB (Or.inr rfl) saeB⟩

theorem issueKmeCert_keeps {authority : Certificate} {stem : KmeStem}
    (server : stem = .kmeA ∨ stem = .kmeB) (kmeId : Text) (kmeIp : IpText) (dnsNames : List Text) :
    Keeps (Ready pem authority) (issueKmeCert pem succeeds stem kmeId kmeIp dnsNames) := by
  intro d ready
  refine issue_ready pem succeeds ?_ ready ?_ _ _
  · rcases server with rfl | rfl <;> decide
  · rcases server with rfl | rfl <;> simp

theorem issueSaeCert_keeps {authority : Certificate} {stem : KmeStem}
    (client : stem = .sae ∨ stem = .saeB) (saeId : Text) :
    Keeps (Ready pem authority) (issueSaeCert pem succeeds stem saeId) := by
  intro d ready
  unfold issueSaeCert
  split
  · exact ready
  · rename_i missing
    refine issue_ready pem succeeds ?_ ready (fun _ => by simpa using missing) _ _
    rcases client with rfl | rfl <;> decide

theorem publish_keeps {authority : Certificate} (file : KmeOut) :
    Keeps (Ready pem authority) (publish file.source file) :=
  fun d ready => ready_of_work_eq pem ready (publish_work file.source file d)

/-- Whatever fails, a run leaves a sound directory. -/
theorem generateKmePki_keeps (kmeAIp kmeBIp : IpText) :
    Keeps (CaSound pem) (generateKmePki pem succeeds kmeAIp kmeBIp) := by
  intro d sound
  unfold generateKmePki
  rcases ensureCa_cases pem succeeds sound with
    ⟨stopped, fails, lacks⟩ | ⟨authority, next, made, ready⟩
  · simp only [andThen, fails, Except.bind]
    exact Or.inl lacks
  · refine Or.inr ⟨authority, ?_⟩
    have publishes : Keeps (Ready pem authority)
        (forEach published fun file => publish file.source file) :=
      Keeps.forEach fun file => publish_keeps pem file
    have clients := (issueSaeCert_keeps pem succeeds (Or.inl rfl) kmeSaeId).andThen
      ((issueSaeCert_keeps pem succeeds (Or.inr rfl) kmeBSaeId).andThen publishes)
    have servers := (issueKmeCert_keeps pem succeeds (Or.inl rfl) kmeAId kmeAIp
        [text "kme-a", containerName (text "kme-a")]).andThen
      ((issueKmeCert_keeps pem succeeds (Or.inr rfl) kmeBId kmeBIp
        [text "kme-b", containerName (text "kme-b")]).andThen clients)
    simpa only [andThen, made, Except.bind] using servers next ready

/-- The CA's certificate for the key beside it, in the work directory. -/
def Issued (authority : Certificate) (stem : KmeStem) (about : Certificate → Prop)
    (d : KmeDirectory) : Prop :=
  ∃ certificate, Paired pem d.work stem certificate ∧ certificate.signer = authority.key ∧
    about certificate

theorem kmeLines_ips {kmeIp : IpText} {node : Text} (solid : Solid node)
    {certificate : Certificate}
    (made : certificate.extensions =
      join (text "\n") (kmeLines kmeIp [node, containerName node]) ++ text "\n") :
    certificate.ips = [kmeIp.val] := by
  have container : Solid (containerName node) :=
    Solid.append (solid_of_all (by decide)) solid
  have shape : certificate.extensions = text "subjectAltName = " ++
      join (text ", ") ([kmeIp.val].map ipEntry ++ [node, containerName node].map dnsEntry) ++
        '\n' :: text "extendedKeyUsage = serverAuth,clientAuth\nkeyUsage = digitalSignature,keyEncipherment\n" := by
    rw [made]
    simp [kmeLines, join, text]
  exact ips_of_spaced _ _ (by simp) (by simpa using kmeIp.property.2)
    (by simpa using ⟨solid, container⟩) shape

theorem issueKmeCert_issues {authority : Certificate} {stem : KmeStem} (other : stem ≠ .ca)
    {d next : KmeDirectory} (ready : Ready pem authority d) {kmeId : Text} {kmeIp : IpText}
    {node : Text} (solid : Solid node)
    (ends : issueKmeCert pem succeeds stem kmeId kmeIp [node, containerName node] d = .ok next) :
    Issued pem authority stem (fun certificate => certificate.ips = [kmeIp.val]) next :=
  ⟨_, issue_paired pem succeeds other ready.2.1 ends, rfl, kmeLines_ips solid rfl⟩

theorem issueSaeCert_issues {authority : Certificate} {stem : KmeStem}
    (client : stem = .sae ∨ stem = .saeB) {d next : KmeDirectory} (ready : Ready pem authority d)
    {saeId : Text} (ends : issueSaeCert pem succeeds stem saeId d = .ok next) :
    Issued pem authority stem (fun _ => True) next := by
  unfold issueSaeCert at ends
  split at ends
  · rename_i present
    cases ends
    have sound : SaeSound pem authority d.work stem := by
      rcases client with rfl | rfl
      · exact ready.2.2.1
      · exact ready.2.2.2
    rcases sound with absent | ⟨certificate, paired, signed⟩
    · simp [absent] at present
    · exact ⟨certificate, paired, signed, trivial⟩
  · have other : stem ≠ .ca := by rcases client with rfl | rfl <;> decide
    exact ⟨_, issue_paired pem succeeds other ready.2.1 ends, rfl, trivial⟩

/-- A step leaves the files of one certificate alone. -/
def Spares (stem : KmeStem) (step : Step KmeDirectory) : Prop :=
  ∀ d, (left (step d)).work stem = d.work stem

theorem issueKmeCert_spares {stem file : KmeStem} (differs : file ≠ stem) (kmeId : Text)
    (kmeIp : IpText) (dnsNames : List Text) :
    Spares file (issueKmeCert pem succeeds stem kmeId kmeIp dnsNames) :=
  fun d => by rw [issueKmeCert, issue_frame pem succeeds .ca differs]

theorem issueSaeCert_spares {stem file : KmeStem} (differs : file ≠ stem) (saeId : Text) :
    Spares file (issueSaeCert pem succeeds stem saeId) := by
  intro d
  unfold issueSaeCert
  split
  · rfl
  · exact issue_frame pem succeeds .ca differs _ _ d

theorem issued_of_spares {authority : Certificate} {stem : KmeStem} {about : Certificate → Prop}
    {step : Step KmeDirectory} (spares : Spares stem step) {d next : KmeDirectory}
    (issued : Issued pem authority stem about d) (ends : step d = .ok next) :
    Issued pem authority stem about next := by
  have same : next.work stem = d.work stem := by
    have spared := spares d
    rw [ends] at spared
    exact spared
  simpa only [Issued, Paired, same] using issued

/-- After the publishing loop every published file is what its source was. -/
theorem publish_all {d next : KmeDirectory}
    (ends : forEach published (fun file => publish file.source file) d = .ok next) :
    ∀ file ∈ published, next.out file = file.source d.work := by
  have establishes (file : KmeOut) : Leads (fun state : KmeDirectory => state.work = d.work)
      (fun state => state.work = d.work ∧ state.out file = file.source d.work)
      (publish file.source file) := by
    intro state after kept ends
    obtain ⟨work, -, content, -⟩ := publish_ok ends
    exact ⟨work.trans kept, by rw [content, kept]⟩
  have survives (file other : KmeOut) :
      Leads (fun state : KmeDirectory => state.work = d.work ∧ state.out other = other.source d.work)
        (fun state => state.out other = other.source d.work) (publish file.source file) := by
    rintro state after ⟨kept, before⟩ ends
    obtain ⟨-, -, content, others⟩ := publish_ok ends
    by_cases same : other = file
    · subst same
      rw [content, kept]
    · rw [others other same, before]
  exact (Leads.forEach establishes survives d next rfl ends).2

/-- What a completed run leaves in the work directory. -/
theorem generateKmePki_ok {d next : KmeDirectory} (sound : CaSound pem d)
    {kmeAIp kmeBIp : IpText} (ends : generateKmePki pem succeeds kmeAIp kmeBIp d = .ok next) :
    ∃ authority work, Ready pem authority work ∧
      Issued pem authority .kmeA (fun certificate => certificate.ips = [kmeAIp.val]) work ∧
      Issued pem authority .kmeB (fun certificate => certificate.ips = [kmeBIp.val]) work ∧
      Issued pem authority .sae (fun _ => True) work ∧
      Issued pem authority .saeB (fun _ => True) work ∧
      ∀ file ∈ published, next.out file = file.source work.work := by
  obtain ⟨d1, makesCa, ends⟩ := andThen_ok_iff.mp ends
  obtain ⟨d2, issuesA, ends⟩ := andThen_ok_iff.mp ends
  obtain ⟨d3, issuesB, ends⟩ := andThen_ok_iff.mp ends
  obtain ⟨d4, issuesSae, ends⟩ := andThen_ok_iff.mp ends
  obtain ⟨d5, issuesSaeB, publishes⟩ := andThen_ok_iff.mp ends
  rcases ensureCa_cases pem succeeds sound with ⟨stopped, fails, -⟩ | ⟨authority, made, done, ready1⟩
  · rw [fails] at makesCa
    cases makesCa
  · rw [done] at makesCa
    cases makesCa
    have nodeA : Solid (text "kme-a") := solid_of_all (by decide)
    have nodeB : Solid (text "kme-b") := solid_of_all (by decide)
    have ready2 := (issueKmeCert_keeps pem succeeds (Or.inl rfl) _ _ _).leads _ _ ready1 issuesA
    have ready3 := (issueKmeCert_keeps pem succeeds (Or.inr rfl) _ _ _).leads _ _ ready2 issuesB
    have ready4 := (issueSaeCert_keeps pem succeeds (Or.inl rfl) _).leads _ _ ready3 issuesSae
    have ready5 := (issueSaeCert_keeps pem succeeds (Or.inr rfl) _).leads _ _ ready4 issuesSaeB
    have kmeA := issueKmeCert_issues pem succeeds (by decide) ready1 nodeA issuesA
    have kmeB := issueKmeCert_issues pem succeeds (by decide) ready2 nodeB issuesB
    have sae := issueSaeCert_issues pem succeeds (Or.inl rfl) ready3 issuesSae
    have saeB := issueSaeCert_issues pem succeeds (Or.inr rfl) ready4 issuesSaeB
    have kmeA3 := issued_of_spares pem (issueKmeCert_spares pem succeeds (by decide) _ _ _) kmeA issuesB
    have kmeA4 := issued_of_spares pem (issueSaeCert_spares pem succeeds (by decide) _) kmeA3 issuesSae
    have kmeA5 := issued_of_spares pem (issueSaeCert_spares pem succeeds (by decide) _) kmeA4 issuesSaeB
    have kmeB4 := issued_of_spares pem (issueSaeCert_spares pem succeeds (by decide) _) kmeB issuesSae
    have kmeB5 := issued_of_spares pem (issueSaeCert_spares pem succeeds (by decide) _) kmeB4 issuesSaeB
    have sae5 := issued_of_spares pem (issueSaeCert_spares pem succeeds (by decide) _) sae issuesSaeB
    exact ⟨authority, d5, ready5, kmeA5, kmeB5, sae5, saeB, publish_all publishes⟩

theorem leafSound_of_issued {authority : Certificate} {stem : KmeStem}
    {about : Certificate → Prop} {d : KmeDirectory} {out : KmeOut → Option Text}
    (issued : Issued pem authority stem about d) (crt : out (.crt stem) = (d.work stem).crt)
    (key : out (.key stem) = (d.work stem).key) :
    ∃ certificate, LeafSound pem authority out stem certificate ∧ about certificate := by
  obtain ⟨certificate, paired, signed, holds⟩ := issued
  refine ⟨certificate, ⟨?_, ?_, signed⟩, holds⟩
  · rw [crt, paired.1, pem.held_encode]
  · rw [key, paired.2, pem.held_encode]

theorem bundleSound_of_issued {authority : Certificate} {stem : KmeStem} {file : KmeOut}
    {about : Certificate → Prop} {d : KmeDirectory} {out : KmeOut → Option Text}
    (issued : Issued pem authority stem about d) (crt : out (.crt stem) = (d.work stem).crt)
    (key : out (.key stem) = (d.work stem).key) (bundled : out file = bundle (d.work stem)) :
    BundleSound out file stem := by
  obtain ⟨certificate, paired, -⟩ := issued
  refine ⟨_, _, key.trans paired.2, crt.trans paired.1, ?_⟩
  rw [bundled, bundle, paired.1, paired.2]
  simp only [pem.rstrip_line]

/-- From an empty directory or one whose CA lacks Certificate Sign, after any
runs with failures at any openssl call, a run that completes publishes a sound
PKI. -/
theorem generateKmePki_sound (start : KmeDirectory) (lacks : LacksCertSign pem start)
    (earlier : List (IpText × IpText)) (kmeAIp kmeBIp : IpText) (final : KmeDirectory)
    (completes : generateKmePki pem succeeds kmeAIp kmeBIp
      (leftAfter (earlier.map fun ips => generateKmePki pem succeeds ips.1 ips.2) start) =
        .ok final) :
    KmePkiSound pem final.out kmeAIp kmeBIp := by
  have sound : CaSound pem
      (leftAfter (earlier.map fun ips => generateKmePki pem succeeds ips.1 ips.2) start) := by
    refine Keeps.leftAfter (fun step member => ?_) (Or.inl lacks)
    obtain ⟨ips, -, rfl⟩ := List.mem_map.mp member
    exact generateKmePki_keeps pem succeeds ips.1 ips.2
  obtain ⟨authority, d, ready, kmeA, kmeB, sae, saeB, out⟩ :=
    generateKmePki_ok pem succeeds sound completes
  have file (name : KmeOut) (listed : name ∈ published) : final.out name = name.source d.work :=
    out name listed
  have saeCrt := file (.crt .sae) (by decide)
  have saeKey := file (.key .sae) (by decide)
  have saeBCrt := file (.crt .saeB) (by decide)
  have saeBKey := file (.key .saeB) (by decide)
  obtain ⟨saeCertificate, saeLeaf, -⟩ := leafSound_of_issued pem sae saeCrt saeKey
  obtain ⟨saeBCertificate, saeBLeaf, -⟩ := leafSound_of_issued pem saeB saeBCrt saeBKey
  refine ⟨⟨authority, ?_, ready.1, ?_, ?_, ⟨saeCertificate, saeLeaf⟩, ⟨saeBCertificate, saeBLeaf⟩⟩,
    ?_, ?_⟩
  · rw [file (.crt .ca) (by decide)]
    exact ready.2.1.1
  · exact leafSound_of_issued pem kmeA (file (.crt .kmeA) (by decide))
      (file (.key .kmeA) (by decide))
  · exact leafSound_of_issued pem kmeB (file (.crt .kmeB) (by decide))
      (file (.key .kmeB) (by decide))
  · exact bundleSound_of_issued pem sae saeCrt saeKey (file .saeBundle (by decide))
  · exact bundleSound_of_issued pem saeB saeBCrt saeBKey (file .saeBBundle (by decide))

end Runs

private def exampleIp : IpText := ⟨text "172.20.127.51", by simp [text], solid_of_all (by decide)⟩

/-- Every openssl call succeeds but the fourth, the request for kme-b. -/
private def exampleRun : Step KmeDirectory :=
  generateKmePki Pem.quoted (fun call => call != 3) exampleIp exampleIp

theorem generateKmePki_sound_after_failure :
    KmePkiSound Pem.quoted (left (exampleRun (leftAfter [exampleRun] Directory.empty))).out
      exampleIp exampleIp :=
  generateKmePki_sound Pem.quoted (fun call => call != 3) Directory.empty
    (fun authority held => by cases held) [(exampleIp, exampleIp)] exampleIp exampleIp _
    (ok_left (by decide +kernel))

end QuantumSafe.GenKmePki
