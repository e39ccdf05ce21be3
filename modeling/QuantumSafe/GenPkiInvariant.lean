import QuantumSafe.GenPki

set_option autoImplicit false

/- What every run of `generate_radsec_pki` keeps true of the work directory,
wherever an openssl call fails. -/
namespace QuantumSafe.GenPki

open PyText Aborting Openssl

theorem serverLines_ips {name : Text} (solid : Solid name) (sanIps : List IpText)
    {certificate : Certificate}
    (made : certificate.extensions = join (text "\n") (serverLines name sanIps) ++ text "\n") :
    certificate.ips = sanIps.map Subtype.val := by
  have container : Solid (containerName name) :=
    Solid.append (solid_of_all (by decide)) solid
  have shape : certificate.extensions = text "subjectAltName = " ++
      join (text ",") ((sanIps.map Subtype.val).map ipEntry) ++
        ([name, containerName name].map dnsEntry).flatMap (text "," ++ ·) ++
          '\n' :: text "extendedKeyUsage = serverAuth\nkeyUsage = digitalSignature,keyEncipherment\n" := by
    rw [made, List.map_map]
    simp [serverLines, join, text, dnsEntry, Function.comp_def]
  refine ips_of_compact name [containerName name] _ ?_ (by simpa using ⟨solid, container⟩) shape
  intro ip member
  obtain ⟨address, -, rfl⟩ := List.mem_map.mp member
  exact address.property.2

/-- The marker file is read back as it was written. -/
theorem strip_marker (sanIps : List IpText) :
    strip (markerKey sanIps ++ text "\n") = markerKey sanIps := by
  have visible : ∀ c ∈ markerKey sanIps, isSpace c = false := by
    intro c inside
    rcases mem_join inside with comma | ⟨ip, member, has⟩
    · rw [List.mem_singleton.mp comma]
      decide
    · obtain ⟨address, -, rfl⟩ := List.mem_map.mp member
      exact (address.property.2 c has).2
  generalize markerKey sanIps = key at visible
  have newline : isSpace '\n' = true := by decide
  have whole : strip key = key :=
    strip_eq_self (fun c first => visible c (List.mem_of_head? first))
      fun c last => visible c (List.mem_of_getLast? last)
  cases key with
  | nil => rfl
  | cons c rest =>
      have front (after : Text) : lstrip (c :: rest ++ after) = c :: rest ++ after := by
        simp [lstrip, visible c (by simp)]
      have alone := front []
      rw [List.append_nil] at alone
      rw [strip, alone] at whole
      rw [strip, front, rstrip, show text "\n" = ['\n'] from rfl,
        List.rdropWhile_concat_pos _ _ _ newline]
      exact whole

/-- Different address lists have different markers. -/
theorem markerKey_injective {first second : List IpText}
    (same : markerKey first = markerKey second) :
    first.map Subtype.val = second.map Subtype.val := by
  have separate (ips : List IpText) : ∀ ip ∈ ips.map Subtype.val, ',' ∉ ip := by
    intro ip member
    obtain ⟨address, -, rfl⟩ := List.mem_map.mp member
    exact address.property.2.notMem_comma
  have nonempty (ip : IpText) (rest : List IpText) : markerKey (ip :: rest) ≠ [] := by
    rw [markerKey, List.map_cons, join_cons]
    simp [ip.property.1]
  cases first with
  | nil =>
      cases second with
      | nil => rfl
      | cons ip rest => exact absurd same.symm (nonempty ip rest)
  | cons ip rest =>
      cases second with
      | nil => exact absurd same (nonempty ip rest)
      | cons ip' rest' =>
          have split := congrArg (List.splitOn ',') same
          rw [markerKey, markerKey, join, join,
            show text "," = [','] from rfl,
            List.splitOn_intercalate ',' (separate (ip :: rest)) (by simp),
            List.splitOn_intercalate ',' (separate (ip' :: rest')) (by simp)] at split
          exact split

section Invariant

variable (pem : Pem)

/-- The files of a server certificate: none yet, or a certificate of the CA for
the addresses of its marker, whose key is beside it unless it is stale. -/
def EndpointFiles (authority : Certificate) (stem : RadsecStem) (d : RadsecDirectory) : Prop :=
  ((d.work stem).crt = none ∧ (d.work stem).marker = none) ∨
    ∃ certificate key sanIps,
      (d.work stem).crt = some (pem.encode (.certificate certificate)) ∧
      (d.work stem).key = some (pem.encode (.privateKey key)) ∧
      (d.work stem).marker = some (markerKey sanIps ++ text "\n") ∧
      certificate.signer = authority.key ∧ certificate.ips = sanIps.map Subtype.val ∧
      certificate.key < d.calls.length ∧ (stale stem d.calls = false ↔ key = certificate.key)

/-- The files of a client certificate: none yet, or a certificate of the CA and
its key. -/
def ClientFiles (authority : Certificate) (stem : RadsecStem) (d : RadsecDirectory) : Prop :=
  (d.work stem).crt = none ∨
    ∃ certificate, (d.work stem).crt = some (pem.encode (.certificate certificate)) ∧
      (d.work stem).key = some (pem.encode (.privateKey certificate.key)) ∧
      certificate.signer = authority.key

/-- What the work directory keeps true of the files of each certificate. -/
def FilesSound (authority : Certificate) (stem : RadsecStem) (d : RadsecDirectory) : Prop :=
  match stem with
  | .ca => CaReady pem .ca authority d
  | .client _ => ClientFiles pem authority stem d
  | _ => EndpointFiles pem authority stem d

/-- A work directory with a CA. -/
def Ready (authority : Certificate) (d : RadsecDirectory) : Prop :=
  ∀ stem, FilesSound pem authority stem d

/-- The invariant of the work directory between and inside runs. -/
def Sound (d : RadsecDirectory) : Prop :=
  (∀ stem, (d.work stem).crt = none ∧ (d.work stem).marker = none) ∨
    ∃ authority, Ready pem authority d

def RadsecStem.IsEndpoint : RadsecStem → Prop
  | .ca => False
  | .client _ => False
  | _ => True

theorem filesSound_endpoint {stem : RadsecStem} (endpoint : stem.IsEndpoint)
    (authority : Certificate) (d : RadsecDirectory) :
    FilesSound pem authority stem d ↔ EndpointFiles pem authority stem d := by
  cases stem with
  | ca => cases endpoint
  | client name => cases endpoint
  | server => exact Iff.rfl
  | syslogServer => exact Iff.rfl
  | role name kind => exact Iff.rfl

/-- Neither the files of a certificate nor the calls about it have changed. -/
structure Untouched (stem : RadsecStem) (d next : RadsecDirectory) : Prop where
  work : next.work stem = d.work stem
  calls : d.calls.length ≤ next.calls.length
  stale : GenPki.stale stem next.calls = GenPki.stale stem d.calls

theorem FilesSound.untouched {authority : Certificate} {stem : RadsecStem}
    {d next : RadsecDirectory} (sound : FilesSound pem authority stem d)
    (same : Untouched stem d next) : FilesSound pem authority stem next := by
  have endpoint (files : EndpointFiles pem authority stem d) :
      EndpointFiles pem authority stem next := by
    rcases files with ⟨crt, marker⟩ | ⟨certificate, key, sanIps, crt, held, marker, signer, ips,
      earlier, current⟩
    · exact Or.inl ⟨same.work ▸ crt, same.work ▸ marker⟩
    · refine Or.inr ⟨certificate, key, sanIps, ?_, ?_, ?_, signer, ips, ?_, ?_⟩
      · rw [same.work, crt]
      · rw [same.work, held]
      · rw [same.work, marker]
      · have grows := same.calls
        omega
      · rw [same.stale, current]
  cases stem with
  | ca => simpa only [FilesSound, CaReady, same.work] using sound
  | client name => simpa only [FilesSound, ClientFiles, same.work] using sound
  | server => exact endpoint sound
  | syslogServer => exact endpoint sound
  | role name kind => exact endpoint sound

/-- After a step on the files of one certificate, the directory is ready when
these files are sound. -/
theorem Ready.touch {authority : Certificate} {stem : RadsecStem} {d next : RadsecDirectory}
    (ready : Ready pem authority d) (others : ∀ other, other ≠ stem → Untouched other d next)
    (own : FilesSound pem authority stem next) : Ready pem authority next := by
  intro other
  by_cases same : other = stem
  · exact same ▸ own
  · exact (ready other).untouched pem (others other same)

end Invariant

section Steps

variable (pem : Pem) (succeeds : Nat → Bool)

theorem issue_untouched {stem other : RadsecStem} (differs : other ≠ stem) (notCa : stem ≠ .ca)
    {authority : Certificate} {d : RadsecDirectory} (ready : CaReady pem .ca authority d)
    (subject : Text) (lines : List Text) :
    Untouched other d (left (issue pem succeeds .ca stem subject lines d)) := by
  have work := issue_frame pem succeeds .ca differs subject lines d
  refine ⟨work, ?_, ?_⟩
  · cases ends : issue pem succeeds .ca stem subject lines d with
    | error stopped =>
        obtain ⟨-, -, -, ⟨-, calls⟩ | ⟨-, calls⟩⟩ := issue_error pem succeeds notCa ready ends
        · simp only [left, calls, List.length_cons]
          omega
        · simp only [left, calls, List.length_cons]
          omega
    | ok next =>
        obtain ⟨-, -, -, calls, -⟩ := issue_ok pem succeeds notCa ready ends
        simp only [left, calls, List.length_cons]
        omega
  · cases ends : issue pem succeeds .ca stem subject lines d with
    | error stopped =>
        obtain ⟨-, -, -, ⟨-, calls⟩ | ⟨-, calls⟩⟩ := issue_error pem succeeds notCa ready ends
        · simp only [left, calls, GenPki.stale]
        · simp only [left, calls, GenPki.stale, differs.symm, ↓reduceIte]
    | ok next =>
        obtain ⟨-, -, -, calls, -⟩ := issue_ok pem succeeds notCa ready ends
        simp only [left, calls, GenPki.stale, differs.symm, ↓reduceIte]

theorem ensureCa_cases {d : RadsecDirectory} (sound : Sound pem d) :
    (∃ stopped, ensureCa pem succeeds d = .error stopped ∧ Sound pem stopped) ∨
    ∃ authority next, ensureCa pem succeeds d = .ok next ∧ Ready pem authority next ∧
      ∀ stem, stem ≠ .ca → Untouched stem d next := by
  unfold ensureCa
  rcases sound with fresh | ⟨authority, ready⟩
  · have absent := (fresh .ca).1
    simp only [absent, Option.isSome_none, Bool.false_eq_true, ↓reduceIte]
    rcases selfSign_cases pem succeeds .ca caSubject [] d with
      fails | ⟨next, made, ca, others, -, calls⟩
    · exact Or.inl ⟨_, fails, Or.inl fresh⟩
    · refine Or.inr ⟨⟨caSubject, d.calls.length, d.calls.length, []⟩, next, made, fun stem => ?_,
        fun stem differs => ⟨others stem differs, ?_, ?_⟩⟩
      · have kept (notCa : stem ≠ .ca) : (next.work stem).crt = none ∧ (next.work stem).marker = none := by
          rw [others stem notCa]
          exact fresh stem
        cases stem with
        | ca => exact ca
        | client name => exact Or.inl (kept (by simp)).1
        | server => exact Or.inl (kept (by simp))
        | syslogServer => exact Or.inl (kept (by simp))
        | role name kind => exact Or.inl (kept (by simp))
      · simp only [calls, List.length_cons]
        omega
      · simp only [calls, GenPki.stale]
  · have present : (d.work .ca).crt.isSome = true := by
      have held := (ready .ca).1
      cases crt : (d.work .ca).crt with
      | none => simp [Pem.held, crt] at held
      | some content => rfl
    right
    rw [if_pos present]
    exact ⟨authority, d, rfl, ready, fun stem _ => ⟨rfl, le_refl _, rfl⟩⟩

/-- A server certificate of this run, with its key and its marker. -/
def Renewed (authority : Certificate) (stem : RadsecStem) (sanIps : List IpText)
    (d : RadsecDirectory) : Prop :=
  ∃ certificate, (d.work stem).crt = some (pem.encode (.certificate certificate)) ∧
    (d.work stem).key = some (pem.encode (.privateKey certificate.key)) ∧
    (d.work stem).marker = some (markerKey sanIps ++ text "\n") ∧
    certificate.signer = authority.key ∧ certificate.ips = sanIps.map Subtype.val

/-- A failed call leaves the old certificate with its marker; the key beside it
is newer when the request had been made. -/
theorem endpointFiles_of_issue_error {authority : Certificate} {stem : RadsecStem}
    (notCa : stem ≠ .ca) {d stopped : RadsecDirectory} (ca : CaReady pem .ca authority d)
    (files : EndpointFiles pem authority stem d) {subject : Text} {lines : List Text}
    (ends : issue pem succeeds .ca stem subject lines d = .error stopped) :
    EndpointFiles pem authority stem stopped := by
  obtain ⟨crt, marker, -, changed⟩ := issue_error pem succeeds notCa ca ends
  rcases files with ⟨noCrt, noMarker⟩ | ⟨certificate, key, ips, hasCrt, hasKey, hasMarker,
    signer, sans, earlier, current⟩
  · exact Or.inl ⟨crt.trans noCrt, marker.trans noMarker⟩
  · rcases changed with ⟨sameKey, calls⟩ | ⟨newKey, calls⟩
    · refine Or.inr ⟨certificate, key, ips, crt.trans hasCrt, sameKey.trans hasKey,
        marker.trans hasMarker, signer, sans, ?_, ?_⟩
      · simp only [calls, List.length_cons]
        omega
      · simpa only [calls, GenPki.stale] using current
    · refine Or.inr ⟨certificate, d.calls.length, ips, crt.trans hasCrt, newKey,
        marker.trans hasMarker, signer, sans, ?_, ?_⟩
      · simp only [calls, List.length_cons]
        omega
      · simp only [calls, GenPki.stale, ↓reduceIte, Bool.true_eq_false, false_iff]
        omega

theorem renewed_of_issue_ok {authority : Certificate} {stem : RadsecStem} (notCa : stem ≠ .ca)
    {name : Text} (solid : Solid name) (sanIps : List IpText) {d made : RadsecDirectory}
    (ca : CaReady pem .ca authority d) {subject : Text}
    (ends : issue pem succeeds .ca stem subject (serverLines name sanIps) d = .ok made) :
    Renewed pem authority stem sanIps (writeMarker stem sanIps made) ∧
      EndpointFiles pem authority stem (writeMarker stem sanIps made) := by
  obtain ⟨key, crt, -, calls, -⟩ := issue_ok pem succeeds notCa ca ends
  have sans : (issued authority subject (serverLines name sanIps) d).ips =
      sanIps.map Subtype.val := serverLines_ips solid sanIps rfl
  have files : ((writeMarker stem sanIps made).work stem).crt = (made.work stem).crt ∧
      ((writeMarker stem sanIps made).work stem).key = (made.work stem).key ∧
      ((writeMarker stem sanIps made).work stem).marker =
        some (markerKey sanIps ++ text "\n") := by
    simp [writeMarker, Directory.setWork]
  have after : (writeMarker stem sanIps made).calls = .sign stem true :: .newKey stem true :: d.calls :=
    calls
  refine ⟨⟨_, files.1.trans crt, files.2.1.trans key, files.2.2, rfl, sans⟩, Or.inr ⟨_, _, _,
    files.1.trans crt, files.2.1.trans key, files.2.2, rfl, sans, ?_, ?_⟩⟩
  · simp only [after, List.length_cons, issued]
    omega
  · simp only [after, GenPki.stale, ↓reduceIte, issued]

/-- The three ways in which the refresh of a server certificate can end. -/
theorem refreshServerCert_cases {authority : Certificate} {stem : RadsecStem}
    (endpoint : stem.IsEndpoint) {name : Text} (solid : Solid name) (sanIps : List IpText)
    {d : RadsecDirectory} (ready : Ready pem authority d) :
    (reuses sanIps (d.work stem) = true ∧
      refreshServerCert pem succeeds stem name sanIps d = .ok d) ∨
    (∃ stopped, refreshServerCert pem succeeds stem name sanIps d = .error stopped ∧
      Ready pem authority stopped) ∨
    (reuses sanIps (d.work stem) = false ∧
      ∃ next, refreshServerCert pem succeeds stem name sanIps d = .ok next ∧
        Ready pem authority next ∧ Renewed pem authority stem sanIps next ∧ next.out = d.out ∧
        ∀ other, other ≠ stem → next.work other = d.work other) := by
  have notCa : stem ≠ .ca := by rintro rfl; exact endpoint
  have ca := ready .ca
  by_cases reused : reuses sanIps (d.work stem) = true
  · exact Or.inl ⟨reused, by rw [refreshServerCert, if_pos reused]⟩
  · have others (other : RadsecStem) (differs : other ≠ stem) :=
      issue_untouched pem succeeds differs notCa ca
        (text "/CN=" ++ name ++ text "/O=Lab/C=US") (serverLines name sanIps)
    rw [refreshServerCert, if_neg reused, andThen]
    cases ends : issue pem succeeds .ca stem (text "/CN=" ++ name ++ text "/O=Lab/C=US")
      (serverLines name sanIps) d with
    | error stopped =>
        rw [ends] at others
        have files := (filesSound_endpoint pem endpoint authority d).mp (ready stem)
        exact Or.inr (Or.inl ⟨stopped, rfl, ready.touch pem others
          ((filesSound_endpoint pem endpoint authority stopped).mpr
            (endpointFiles_of_issue_error pem succeeds notCa ca files ends))⟩)
    | ok made =>
        rw [ends] at others
        obtain ⟨renewed, files⟩ := renewed_of_issue_ok pem succeeds notCa solid sanIps ca ends
        have outside (other : RadsecStem) (differs : other ≠ stem) :
            Untouched other d (writeMarker stem sanIps made) := by
          obtain ⟨work, calls, stale⟩ := others other differs
          exact ⟨by simpa [writeMarker, Directory.setWork, differs, left] using work, calls, stale⟩
        exact Or.inr (Or.inr ⟨by simpa using reused, writeMarker stem sanIps made, rfl,
          ready.touch pem outside ((filesSound_endpoint pem endpoint authority _).mpr files),
          renewed, (issue_ok pem succeeds notCa ca ends).2.2.2.2,
          fun other differs => (outside other differs).work⟩)

/-- The three ways in which the loop over client certificates can continue. -/
theorem ensureClientCert_cases {authority : Certificate} (host : Hostname × Text)
    {d : RadsecDirectory} (ready : Ready pem authority d) :
    ((d.work (.client host.1)).crt.isSome = true ∧
      ensureClientCert pem succeeds host d = .ok d) ∨
    (∃ stopped, ensureClientCert pem succeeds host d = .error stopped ∧
      Ready pem authority stopped) ∨
    ∃ next, ensureClientCert pem succeeds host d = .ok next ∧ Ready pem authority next ∧
      (next.work (.client host.1)).crt.isSome = true ∧ next.out = d.out ∧
      ∀ other, other ≠ .client host.1 → next.work other = d.work other := by
  have notCa : RadsecStem.client host.1 ≠ .ca := by simp
  have ca := ready .ca
  by_cases present : (d.work (.client host.1)).crt.isSome = true
  · exact Or.inl ⟨present, by rw [ensureClientCert, if_pos present]⟩
  · have others (other : RadsecStem) (differs : other ≠ .client host.1) :=
      issue_untouched pem succeeds differs notCa ca
        (text "/CN=" ++ host.2 ++ text "/O=Lab/C=US") (clientLines host.2)
    rw [ensureClientCert, if_neg present]
    cases ends : issue pem succeeds .ca (.client host.1)
      (text "/CN=" ++ host.2 ++ text "/O=Lab/C=US") (clientLines host.2) d with
    | error stopped =>
        rw [ends] at others
        have crt := (issue_error pem succeeds notCa ca ends).1
        have absent : (d.work (.client host.1)).crt = none := by simpa using present
        exact Or.inr (Or.inl ⟨stopped, rfl, ready.touch pem others (Or.inl (crt.trans absent))⟩)
    | ok next =>
        rw [ends] at others
        obtain ⟨key, crt, -, -, out⟩ := issue_ok pem succeeds notCa ca ends
        exact Or.inr (Or.inr ⟨next, rfl, ready.touch pem others (Or.inr ⟨_, crt, key, rfl⟩),
          by simp [crt], out, fun other differs => (others other differs).work⟩)

theorem refreshServerCert_keeps {authority : Certificate} {stem : RadsecStem}
    (endpoint : stem.IsEndpoint) {name : Text} (solid : Solid name) (sanIps : List IpText) :
    Keeps (Ready pem authority) (refreshServerCert pem succeeds stem name sanIps) := by
  intro d ready
  rcases refreshServerCert_cases pem succeeds endpoint solid sanIps ready with
    ⟨-, ends⟩ | ⟨stopped, ends, still⟩ | ⟨-, next, ends, still, -⟩
  · rw [ends]
    exact ready
  · rw [ends]
    exact still
  · rw [ends]
    exact still

theorem ensureClientCert_keeps {authority : Certificate} (host : Hostname × Text) :
    Keeps (Ready pem authority) (ensureClientCert pem succeeds host) := by
  intro d ready
  rcases ensureClientCert_cases pem succeeds host ready with
    ⟨-, ends⟩ | ⟨stopped, ends, still⟩ | ⟨next, ends, still, -⟩
  · rw [ends]
    exact ready
  · rw [ends]
    exact still
  · rw [ends]
    exact still

theorem publish_keeps {authority : Certificate} (file : RadsecOut) :
    Keeps (Ready pem authority) (publish file.source file) := by
  intro d ready stem
  refine (ready stem).untouched pem ⟨?_, ?_, ?_⟩
  · rw [publish_work]
  · unfold publish
    split <;> exact le_refl _
  · unfold publish
    split <;> rfl

theorem publishPair_keeps {authority : Certificate} (stem : RadsecStem) :
    Keeps (Ready pem authority) (publishPair stem) :=
  (publish_keeps pem (.pem stem)).andThen (publish_keeps pem (.key stem))

theorem generateServerCert_keeps {authority : Certificate} (name : Hostname) (kind : Role)
    (sanIps : List IpText) :
    Keeps (Ready pem authority) (generateServerCert pem succeeds name kind sanIps) :=
  have endpoint : (RadsecStem.role name kind).IsEndpoint := trivial
  (refreshServerCert_keeps pem succeeds endpoint (host_solid name) sanIps).andThen
    (publishPair_keeps pem _)

theorem generateRoleCerts_keeps {authority : Certificate} (args : RadsecArgs)
    (host : Hostname × Text) :
    Keeps (Ready pem authority) (generateRoleCerts pem succeeds args host) := by
  unfold generateRoleCerts
  dsimp only
  split
  · exact fun d ready => ready
  · exact Keeps.forEach fun kind => generateServerCert_keeps pem succeeds host.1 kind _

theorem solid_radius : Solid (text "radius") := solid_of_all (by decide)

theorem solid_syslog : Solid (text "syslog") := solid_of_all (by decide)

theorem publishClients_keeps {authority : Certificate} (args : RadsecArgs) :
    Keeps (Ready pem authority) (publishClients args) :=
  (publish_keeps pem (.pem .ca)).andThen ((publish_keeps pem .radsecCa).andThen
    ((publish_keeps pem (.pem .server)).andThen
      (Keeps.forEach fun host => publishPair_keeps pem (.client host.1))))

theorem issueEndpoints_keeps {authority : Certificate} (args : RadsecArgs) :
    Keeps (Ready pem authority) (issueEndpoints pem succeeds args) := by
  refine (Keeps.forEach fun host => generateRoleCerts_keeps pem succeeds args host).andThen ?_
  cases args.syslogIps with
  | none => exact fun d ready => ready
  | some syslogIps =>
      have endpoint : RadsecStem.syslogServer.IsEndpoint := trivial
      exact (refreshServerCert_keeps pem succeeds endpoint solid_syslog syslogIps).andThen
        (publishPair_keeps pem _)

/-- Whatever fails, a run leaves a sound work directory. -/
theorem generateRadsecPki_keeps (args : RadsecArgs) :
    Keeps (Sound pem) (generateRadsecPki pem succeeds args) := by
  intro d sound
  rcases ensureCa_cases pem succeeds sound with
    ⟨stopped, fails, still⟩ | ⟨authority, next, made, ready, -⟩
  · rw [generateRadsecPki, andThen, fails]
    exact still
  · have server : RadsecStem.server.IsEndpoint := trivial
    have clients : Keeps (Ready pem authority) (forEach args.hosts (ensureClientCert pem succeeds)) :=
      Keeps.forEach fun host => ensureClientCert_keeps pem succeeds host
    have rest := (refreshServerCert_keeps pem succeeds server solid_radius args.radiusIps).andThen
      (clients.andThen ((publishClients_keeps pem args).andThen
        (issueEndpoints_keeps pem succeeds args)))
    rw [generateRadsecPki, andThen, made]
    exact Or.inr ⟨authority, rest next ready⟩

end Steps

end QuantumSafe.GenPki
