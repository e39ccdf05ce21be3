import QuantumSafe.GenPkiInvariant

set_option autoImplicit false

/- What a completed run of `generate_radsec_pki` publishes. -/
namespace QuantumSafe.GenPki

open PyText Aborting Openssl

section Stages

variable (pem : Pem) (succeeds : Nat → Bool) (authority : Certificate) (args : RadsecArgs)
  (start : RadsecDirectory)

/-- A server certificate as the refresh leaves it: taken over unchanged, or made
by this run. -/
def Refreshed (stem : RadsecStem) (d : RadsecDirectory) : Prop :=
  (reuses (args.endpointIps stem) (start.work stem) = true ∧ d.work stem = start.work stem) ∨
    (reuses (args.endpointIps stem) (start.work stem) = false ∧
      Renewed pem authority stem (args.endpointIps stem) d)

/-- The work directory during a run: the files of each server certificate are
those from before the run or made by it. -/
structure Stage (d : RadsecDirectory) : Prop where
  ready : Ready pem authority d
  endpoints : ∀ stem, stem.IsEndpoint →
    d.work stem = start.work stem ∨ Refreshed pem authority args start stem d

/-- The certificate and the key of the work directory are published. -/
def Published (stem : RadsecStem) (d : RadsecDirectory) : Prop :=
  d.out (.pem stem) = (RadsecOut.pem stem).source d.work ∧
    d.out (.key stem) = (RadsecOut.key stem).source d.work

/-- A step leaves the files of one certificate alone, in both directories. -/
structure Spared (stem : RadsecStem) (d next : RadsecDirectory) : Prop where
  work : next.work stem = d.work stem
  pem : next.out (.pem stem) = d.out (.pem stem)
  key : next.out (.key stem) = d.out (.key stem)

def Spares (stem : RadsecStem) (step : Step RadsecDirectory) : Prop :=
  ∀ d next, Ready pem authority d → step d = .ok next → Spared stem d next

theorem Spared.refl (stem : RadsecStem) (d : RadsecDirectory) : Spared stem d d := ⟨rfl, rfl, rfl⟩

theorem Spared.trans {stem : RadsecStem} {d between next : RadsecDirectory}
    (first : Spared stem d between) (second : Spared stem between next) : Spared stem d next :=
  ⟨second.work.trans first.work, second.pem.trans first.pem, second.key.trans first.key⟩

theorem source_congr {stem : RadsecStem} {work other : RadsecStem → Entry}
    (same : other stem = work stem) :
    (RadsecOut.pem stem).source other = (RadsecOut.pem stem).source work ∧
      (RadsecOut.key stem).source other = (RadsecOut.key stem).source work := by
  cases stem <;> simp only [RadsecOut.source, same, and_self]

/-- A fact about the files of one certificate. -/
def About (stem : RadsecStem) (fact : RadsecDirectory → Prop) : Prop :=
  ∀ d next, Spared stem d next → fact d → fact next

theorem about_published (stem : RadsecStem) : About stem (Published stem) := by
  intro d next spared published
  have sources := source_congr spared.work
  exact ⟨by rw [spared.pem, published.1, sources.1], by rw [spared.key, published.2, sources.2]⟩

theorem about_refreshed (stem : RadsecStem) :
    About stem (Refreshed pem authority args start stem) := by
  intro d next spared refreshed
  simpa only [Refreshed, Renewed, spared.work] using refreshed

theorem about_and {stem : RadsecStem} {first second : RadsecDirectory → Prop}
    (one : About stem first) (two : About stem second) :
    About stem (fun d => first d ∧ second d) :=
  fun d next spared both => ⟨one d next spared both.1, two d next spared both.2⟩

/-- A fact about spared files is still true after the step. -/
theorem Spares.leads {stem : RadsecStem} {step : Step RadsecDirectory}
    (spares : Spares pem authority stem step) {fact : RadsecDirectory → Prop}
    (about : About stem fact) :
    Leads (fun d => Stage pem authority args start d ∧ fact d) fact step :=
  fun d next holds ends => about d next (spares d next holds.1.ready ends) holds.2

theorem Spares.andThen {stem : RadsecStem} {first second : Step RadsecDirectory}
    (keeps : Keeps (Ready pem authority) first) (one : Spares pem authority stem first)
    (two : Spares pem authority stem second) :
    Spares pem authority stem (andThen first second) := by
  intro d next ready ends
  obtain ⟨between, starts, finishes⟩ := andThen_ok_iff.mp ends
  have still := keeps.leads d between ready starts
  exact (one d between ready starts).trans (two between next still finishes)

theorem Spares.forEach {Item : Type} {stem : RadsecStem} {items : List Item}
    {body : Item → Step RadsecDirectory} (keeps : ∀ item, Keeps (Ready pem authority) (body item))
    (each : ∀ item ∈ items, Spares pem authority stem (body item)) :
    Spares pem authority stem (forEach items body) := by
  induction items with
  | nil => exact fun d next _ ends => Except.ok.inj ends ▸ Spared.refl stem d
  | cons item rest ih =>
      exact Spares.andThen pem authority (keeps item) (each item (by simp))
        (ih fun later member => each later (by simp [member]))

theorem publish_spares {stem : RadsecStem} {file : RadsecOut} (notPem : file ≠ .pem stem)
    (notKey : file ≠ .key stem) : Spares pem authority stem (publish file.source file) := by
  intro d next _ ends
  obtain ⟨work, -, -, others⟩ := publish_ok ends
  exact ⟨by rw [work], others _ notPem.symm, others _ notKey.symm⟩

theorem publishPair_spares {stem other : RadsecStem} (differs : other ≠ stem) :
    Spares pem authority other (publishPair stem) :=
  Spares.andThen pem authority (publish_keeps pem _)
    (publish_spares pem authority (by simpa using differs.symm) (by simp))
    (publish_spares pem authority (by simp) (by simpa using differs.symm))

theorem publishPair_ok {stem : RadsecStem} {d next : RadsecDirectory}
    (ends : publishPair stem d = .ok next) : next.work = d.work ∧ Published stem next := by
  obtain ⟨between, starts, finishes⟩ := andThen_ok_iff.mp ends
  obtain ⟨work, -, pemFile, -⟩ := publish_ok starts
  obtain ⟨work', -, keyFile, others⟩ := publish_ok finishes
  refine ⟨work'.trans work, ?_, ?_⟩
  · rw [others _ (by simp), pemFile, work', work]
  · rw [keyFile, work']

theorem refreshServerCert_spares {stem other : RadsecStem} (differs : other ≠ stem)
    (endpoint : stem.IsEndpoint) {name : Text} (solid : Solid name) (sanIps : List IpText) :
    Spares pem authority other (refreshServerCert pem succeeds stem name sanIps) := by
  intro d next ready ends
  rcases refreshServerCert_cases pem succeeds endpoint solid sanIps ready with
    ⟨-, same⟩ | ⟨stopped, fails, -⟩ | ⟨-, made, done, -, -, out, others⟩
  · rw [same] at ends
    cases ends
    exact Spared.refl other d
  · rw [fails] at ends
    cases ends
  · rw [done] at ends
    cases ends
    exact ⟨others other differs, by rw [out], by rw [out]⟩

theorem ensureClientCert_spares {other : RadsecStem} {host : Hostname × Text}
    (differs : other ≠ .client host.1) :
    Spares pem authority other (ensureClientCert pem succeeds host) := by
  intro d next ready ends
  rcases ensureClientCert_cases pem succeeds host ready with
    ⟨-, same⟩ | ⟨stopped, fails, -⟩ | ⟨made, done, -, -, out, others⟩
  · rw [same] at ends
    cases ends
    exact Spared.refl other d
  · rw [fails] at ends
    cases ends
  · rw [done] at ends
    cases ends
    exact ⟨others other differs, by rw [out], by rw [out]⟩

theorem stage_of_work {d next : RadsecDirectory} (stage : Stage pem authority args start d)
    (ready : Ready pem authority next)
    (same : ∀ stem, stem.IsEndpoint → next.work stem = d.work stem) :
    Stage pem authority args start next := by
  refine ⟨ready, fun stem endpoint => ?_⟩
  have kept := stage.endpoints stem endpoint
  simpa only [Refreshed, Renewed, same stem endpoint] using kept

/-- The refresh takes a certificate over when its marker fits the start of the
run, and makes it otherwise. -/
theorem refreshServerCert_leads {stem : RadsecStem} (endpoint : stem.IsEndpoint) {name : Text}
    (solid : Solid name) :
    Leads (Stage pem authority args start)
      (fun next => Stage pem authority args start next ∧
        Refreshed pem authority args start stem next)
      (refreshServerCert pem succeeds stem name (args.endpointIps stem)) := by
  intro d next stage ends
  rcases refreshServerCert_cases pem succeeds endpoint solid (args.endpointIps stem) stage.ready with
    ⟨reused, same⟩ | ⟨stopped, fails, -⟩ | ⟨notReused, made, done, ready, renewed, -, others⟩
  · rw [same] at ends
    cases ends
    rcases stage.endpoints stem endpoint with untouched | refreshed
    · exact ⟨stage, Or.inl ⟨untouched ▸ reused, untouched⟩⟩
    · exact ⟨stage, refreshed⟩
  · rw [fails] at ends
    cases ends
  · rw [done] at ends
    cases ends
    have fresh : reuses (args.endpointIps stem) (start.work stem) = false := by
      rcases stage.endpoints stem endpoint with untouched | ⟨reused, untouched⟩ | ⟨fresh, -⟩
      · exact untouched ▸ notReused
      · rw [untouched, reused] at notReused
        cases notReused
      · exact fresh
    have refreshed : Refreshed pem authority args start stem next := Or.inr ⟨fresh, renewed⟩
    refine ⟨⟨ready, fun other otherEndpoint => ?_⟩, refreshed⟩
    by_cases same : other = stem
    · exact same ▸ Or.inr refreshed
    · have kept := stage.endpoints other otherEndpoint
      simpa only [Refreshed, Renewed, others other same] using kept

def ClientPresent (host : Hostname × Text) (d : RadsecDirectory) : Prop :=
  (d.work (.client host.1)).crt.isSome = true

theorem ensureClientCert_leads (host : Hostname × Text) :
    Leads (Stage pem authority args start)
      (fun next => Stage pem authority args start next ∧ ClientPresent host next)
      (ensureClientCert pem succeeds host) := by
  intro d next stage ends
  rcases ensureClientCert_cases pem succeeds host stage.ready with
    ⟨present, same⟩ | ⟨stopped, fails, -⟩ | ⟨made, done, ready, present, -, others⟩
  · rw [same] at ends
    cases ends
    exact ⟨stage, present⟩
  · rw [fails] at ends
    cases ends
  · rw [done] at ends
    cases ends
    refine ⟨stage_of_work pem authority args start stage ready fun stem endpoint =>
      others stem ?_, present⟩
    rintro rfl
    exact endpoint

theorem clients_lead (hosts : List (Hostname × Text)) :
    Leads (Stage pem authority args start)
      (fun next => Stage pem authority args start next ∧
        ∀ host ∈ hosts, ClientPresent host next)
      (forEach hosts (ensureClientCert pem succeeds)) := by
  refine Leads.forEach (ensureClientCert_leads pem succeeds authority args start) ?_
  intro host other d next holds ends
  by_cases same : RadsecStem.client other.1 = .client host.1
  · have again := (ensureClientCert_leads pem succeeds authority args start host d next holds.1
      ends).2
    simpa only [ClientPresent, same] using again
  · have spared := ensureClientCert_spares pem succeeds authority same d next holds.1.ready ends
    simpa only [ClientPresent, spared.work] using holds.2

/-- A server certificate that is refreshed and published. -/
def EndpointPublished (stem : RadsecStem) (d : RadsecDirectory) : Prop :=
  Refreshed pem authority args start stem d ∧ Published stem d

theorem publishPair_leads (stem : RadsecStem) :
    Leads (Stage pem authority args start)
      (fun next => Stage pem authority args start next ∧ Published stem next)
      (publishPair stem) := by
  intro d next stage ends
  obtain ⟨work, published⟩ := publishPair_ok ends
  exact ⟨stage_of_work pem authority args start stage
    ((publishPair_keeps pem stem).leads d next stage.ready ends) fun other _ => by rw [work],
    published⟩

theorem refreshAndPublish_leads {stem : RadsecStem} (endpoint : stem.IsEndpoint) {name : Text}
    (solid : Solid name) :
    Leads (Stage pem authority args start)
      (fun next => Stage pem authority args start next ∧
        EndpointPublished pem authority args start stem next)
      (andThen (refreshServerCert pem succeeds stem name (args.endpointIps stem))
        (publishPair stem)) := by
  intro d next stage ends
  obtain ⟨between, starts, finishes⟩ := andThen_ok_iff.mp ends
  obtain ⟨stage', refreshed⟩ :=
    refreshServerCert_leads pem succeeds authority args start endpoint solid d between stage starts
  obtain ⟨work, -⟩ := publishPair_ok finishes
  obtain ⟨stage'', published⟩ :=
    publishPair_leads pem authority args start stem between next stage' finishes
  refine ⟨stage'', ?_, published⟩
  simpa only [Refreshed, Renewed, work] using refreshed

theorem refreshAndPublish_spares {stem other : RadsecStem} (differs : other ≠ stem)
    (endpoint : stem.IsEndpoint) {name : Text} (solid : Solid name) (sanIps : List IpText) :
    Spares pem authority other
      (andThen (refreshServerCert pem succeeds stem name sanIps) (publishPair stem)) :=
  Spares.andThen pem authority (refreshServerCert_keeps pem succeeds endpoint solid sanIps)
    (refreshServerCert_spares pem succeeds authority differs endpoint solid sanIps)
    (publishPair_spares pem authority differs)

theorem about_endpointPublished (stem : RadsecStem) :
    About stem (EndpointPublished pem authority args start stem) :=
  about_and (about_refreshed pem authority args start stem) (about_published stem)

/-- Both certificates of a switch that has addresses. -/
def RolesPublished (host : Hostname × Text) (d : RadsecDirectory) : Prop :=
  args.sanIps host.1 ≠ [] →
    ∀ kind, EndpointPublished pem authority args start (.role host.1 kind) d

theorem roles_lead (name : Hostname) :
    Leads (Stage pem authority args start)
      (fun next => Stage pem authority args start next ∧
        ∀ kind ∈ [Role.eapi, Role.gnmi],
          EndpointPublished pem authority args start (.role name kind) next)
      (forEach [Role.eapi, Role.gnmi] fun kind =>
        generateServerCert pem succeeds name kind (args.sanIps name)) := by
  have endpoint (kind : Role) : (RadsecStem.role name kind).IsEndpoint := trivial
  have establishes (kind : Role) := refreshAndPublish_leads pem succeeds authority args start
    (endpoint kind) (host_solid name)
  refine Leads.forEach establishes ?_
  intro kind other d next holds ends
  by_cases same : other = kind
  · exact same ▸ (establishes kind d next holds.1 ends).2
  · have differs : RadsecStem.role name other ≠ .role name kind := by simpa using same
    exact (refreshAndPublish_spares pem succeeds authority differs (endpoint kind)
      (host_solid name) _).leads pem authority args start
        (about_endpointPublished pem authority args start _) d next holds ends

theorem generateRoleCerts_leads (host : Hostname × Text) :
    Leads (Stage pem authority args start)
      (fun next => Stage pem authority args start next ∧
        RolesPublished pem authority args start host next)
      (generateRoleCerts pem succeeds args host) := by
  intro d next stage ends
  unfold generateRoleCerts at ends
  by_cases none : args.sanIps host.1 = []
  · simp only [none, ↓reduceIte] at ends
    cases ends
    exact ⟨stage, fun some => absurd none some⟩
  · simp only [none, ↓reduceIte] at ends
    obtain ⟨stage', published⟩ :=
      roles_lead pem succeeds authority args start host.1 d next stage ends
    exact ⟨stage', fun _ kind => published kind (by cases kind <;> simp)⟩

theorem generateRoleCerts_spares {other : RadsecStem} {host : Hostname × Text}
    (differs : ∀ kind, other ≠ .role host.1 kind) :
    Spares pem authority other (generateRoleCerts pem succeeds args host) := by
  unfold generateRoleCerts
  dsimp only
  split
  · exact fun d next _ ends => Except.ok.inj ends ▸ Spared.refl other d
  · exact Spares.forEach pem authority (fun kind => generateServerCert_keeps pem succeeds _ kind _)
      fun kind _ => refreshAndPublish_spares pem succeeds authority (differs kind) trivial
        (host_solid host.1) _

theorem allRoles_lead (hosts : List (Hostname × Text)) :
    Leads (Stage pem authority args start)
      (fun next => Stage pem authority args start next ∧
        ∀ host ∈ hosts, RolesPublished pem authority args start host next)
      (forEach hosts (generateRoleCerts pem succeeds args)) := by
  refine Leads.forEach (generateRoleCerts_leads pem succeeds authority args start) ?_
  intro host other d next holds ends
  by_cases same : other.1 = host.1
  · have again := (generateRoleCerts_leads pem succeeds authority args start host d next holds.1
      ends).2
    simpa only [RolesPublished, same] using again
  · intro addressed kind
    have differs : ∀ kind', RadsecStem.role other.1 kind ≠ .role host.1 kind' :=
      fun kind' equal => same (RadsecStem.role.inj equal).1
    exact (generateRoleCerts_spares pem succeeds authority args differs).leads pem authority args
      start (about_endpointPublished pem authority args start _) d next
      ⟨holds.1, holds.2 addressed kind⟩ ends

theorem clientPairs_spares {stem : RadsecStem} (differs : ∀ host : Hostname × Text,
    stem ≠ .client host.1) :
    Spares pem authority stem (forEach args.hosts fun host => publishPair (.client host.1)) :=
  Spares.forEach pem authority (fun host => publishPair_keeps pem (.client host.1))
    fun host _ => publishPair_spares pem authority (differs host)

/-- What is published before the certificates of the endpoints. -/
structure ClientsPublished (d : RadsecDirectory) : Prop where
  ca : d.out (.pem .ca) = (d.work .ca).crt
  server : d.out (.pem .server) = (RadsecOut.pem .server).source d.work
  clients : ∀ host ∈ args.hosts, Published (.client host.1) d

theorem publishClients_leads {d next : RadsecDirectory}
    (stage : Stage pem authority args start d) (ends : publishClients args d = .ok next) :
    next.work = d.work ∧ Stage pem authority args start next ∧ ClientsPublished args next := by
  have ready := (publishClients_keeps pem args).leads d next stage.ready ends
  obtain ⟨d1, publishesCa, ends⟩ := andThen_ok_iff.mp ends
  obtain ⟨d2, publishesCopy, ends⟩ := andThen_ok_iff.mp ends
  obtain ⟨d3, publishesServer, publishesClients⟩ := andThen_ok_iff.mp ends
  obtain ⟨work1, -, ca1, -⟩ := publish_ok publishesCa
  obtain ⟨work2, -, -, others2⟩ := publish_ok publishesCopy
  obtain ⟨work3, -, server3, others3⟩ := publish_ok publishesServer
  have stage3 : Stage pem authority args start d3 := by
    refine stage_of_work pem authority args start stage ?_ fun stem _ => by rw [work3, work2, work1]
    have ready1 := (publish_keeps pem (.pem .ca)).leads d d1 stage.ready publishesCa
    have ready2 := (publish_keeps pem .radsecCa).leads d1 d2 ready1 publishesCopy
    exact (publish_keeps pem (.pem .server)).leads d2 d3 ready2 publishesServer
  have loop : Leads (fun state => Stage pem authority args start state ∧ state.work = d3.work)
      (fun state => (Stage pem authority args start state ∧ state.work = d3.work) ∧
        ∀ host ∈ args.hosts, Published (.client host.1) state)
      (forEach args.hosts fun host => publishPair (.client host.1)) := by
    refine Leads.forEach (fun host state after holds pairs => ?_)
      fun host other state after holds pairs => ?_
    · obtain ⟨work, published⟩ := publishPair_ok pairs
      exact ⟨⟨(publishPair_leads pem authority args start _ state after holds.1 pairs).1,
        work.trans holds.2⟩, published⟩
    · by_cases same : RadsecStem.client other.1 = .client host.1
      · exact same ▸ (publishPair_ok pairs).2
      · exact about_published _ state after
          (publishPair_spares pem authority same state after holds.1.1.ready pairs) holds.2
  obtain ⟨⟨stage', work'⟩, clients⟩ := loop d3 next ⟨stage3, rfl⟩ publishesClients
  have sparesCa : Spared .ca d3 next := clientPairs_spares pem authority args
    (fun host => by simp) d3 next stage3.ready publishesClients
  have sparesServer : Spared .server d3 next := clientPairs_spares pem authority args
    (fun host => by simp) d3 next stage3.ready publishesClients
  refine ⟨by rw [work', work3, work2, work1], stage', ?_, ?_, clients⟩
  · rw [sparesCa.pem, others3 _ (by simp), others2 _ (by simp), ca1, work', work3, work2, work1]
    rfl
  · rw [sparesServer.pem, server3, work', work3]

/-- What a completed run leaves behind. -/
structure Completed (d : RadsecDirectory) : Prop where
  stage : Stage pem authority args start d
  published : ClientsPublished args d
  clients : ∀ host ∈ args.hosts, ClientPresent host d
  server : Refreshed pem authority args start .server d
  roles : ∀ host ∈ args.hosts, RolesPublished pem authority args start host d
  syslogServer : args.syslogIps.isSome = true →
    EndpointPublished pem authority args start .syslogServer d

theorem about_clientsPublished {d next : RadsecDirectory} (published : ClientsPublished args d)
    (ca : Spared .ca d next) (server : Spared .server d next)
    (clients : ∀ name, Spared (.client name) d next) : ClientsPublished args next where
  ca := by rw [ca.pem, published.ca, ca.work]
  server := by rw [server.pem, published.server, (source_congr server.work).1]
  clients host member :=
    about_published _ d next (clients host.1) (published.clients host member)

/-- The last step of the run leaves everything but the syslog certificate alone. -/
theorem syslogStep_leads {d next : RadsecDirectory} (stage : Stage pem authority args start d)
    (issues : (match args.syslogIps with
      | some syslogIps => generateSyslogServerCert pem succeeds syslogIps
      | none => .ok) d = .ok next) :
    Stage pem authority args start next ∧
      (args.syslogIps.isSome = true → EndpointPublished pem authority args start .syslogServer next) ∧
      ∀ stem, stem ≠ .syslogServer → Spared stem d next := by
  cases given : args.syslogIps with
  | none =>
      rw [given] at issues
      cases issues
      exact ⟨stage, fun asked => absurd asked (by simp), fun stem _ => Spared.refl stem _⟩
  | some syslogIps =>
      rw [given] at issues
      have syslog : RadsecStem.syslogServer.IsEndpoint := trivial
      have ips : args.endpointIps .syslogServer = syslogIps := by
        simp [RadsecArgs.endpointIps, given]
      subst ips
      obtain ⟨stage', published⟩ := refreshAndPublish_leads pem succeeds authority args start
        syslog solid_syslog d next stage issues
      refine ⟨stage', fun _ => published, ?_⟩
      intro stem differs
      exact refreshAndPublish_spares pem succeeds authority differs syslog solid_syslog _ d next
        stage.ready issues

theorem generateRadsecPki_completed {next : RadsecDirectory} (ready : Ready pem authority start)
    (ends : andThen (refreshServerCert pem succeeds .server (text "radius") args.radiusIps)
      (andThen (forEach args.hosts (ensureClientCert pem succeeds))
      (andThen (publishClients args) (issueEndpoints pem succeeds args))) start = .ok next) :
    Completed pem authority args start next := by
  obtain ⟨d1, refreshes, ends⟩ := andThen_ok_iff.mp ends
  obtain ⟨d2, issuesClients, ends⟩ := andThen_ok_iff.mp ends
  obtain ⟨d3, publishes, ends⟩ := andThen_ok_iff.mp ends
  obtain ⟨d4, issuesRoles, issuesSyslog⟩ := andThen_ok_iff.mp ends
  have endpoint : RadsecStem.server.IsEndpoint := trivial
  have stage : Stage pem authority args start start := ⟨ready, fun stem _ => Or.inl rfl⟩
  obtain ⟨stage1, server1⟩ := refreshServerCert_leads pem succeeds authority args start endpoint
    solid_radius start d1 stage refreshes
  obtain ⟨stage2, clients2⟩ :=
    clients_lead pem succeeds authority args start args.hosts d1 d2 stage1 issuesClients
  have spares2 : Spares pem authority .server (forEach args.hosts (ensureClientCert pem succeeds)) :=
    Spares.forEach pem authority (fun host => ensureClientCert_keeps pem succeeds host)
      fun host _ => ensureClientCert_spares pem succeeds authority (by simp)
  have server2 := about_refreshed pem authority args start .server d1 d2
    (spares2 d1 d2 stage1.ready issuesClients) server1
  obtain ⟨work3, stage3, published3⟩ :=
    publishClients_leads pem authority args start stage2 publishes
  obtain ⟨stage4, roles4⟩ :=
    allRoles_lead pem succeeds authority args start args.hosts d3 d4 stage3 issuesRoles
  have spares4 (stem : RadsecStem) (differs : ∀ name kind, stem ≠ .role name kind) :
      Spared stem d3 d4 :=
    Spares.forEach pem authority (fun host => generateRoleCerts_keeps pem succeeds args host)
      (fun host _ => generateRoleCerts_spares pem succeeds authority args (differs host.1))
      d3 d4 stage3.ready issuesRoles
  obtain ⟨stage5, syslog5, spares5⟩ := syslogStep_leads pem succeeds authority args start stage4 issuesSyslog
  have kept (stem : RadsecStem) (notRole : ∀ name kind, stem ≠ .role name kind)
      (notSyslog : stem ≠ .syslogServer) : Spared stem d3 next :=
    (spares4 stem notRole).trans (spares5 stem notSyslog)
  refine ⟨stage5, about_clientsPublished args published3 (kept .ca (by simp) (by simp))
    (kept .server (by simp) (by simp)) fun name => kept (.client name) (by simp) (by simp),
    fun host member => ?_, ?_, fun host member addressed kind => ?_, syslog5⟩
  · have spared := kept (.client host.1) (by simp) (by simp)
    simpa only [ClientPresent, spared.work, work3] using clients2 host member
  · have spared := kept .server (by simp) (by simp)
    simpa only [Refreshed, Renewed, spared.work, work3] using server2
  · exact about_endpointPublished pem authority args start _ d4 next (spares5 _ (by simp))
      (roles4 host member addressed kind)

/-- The certificate of a refreshed endpoint is the CA's, for the requested
addresses, and its key is beside it unless it was taken over stale. -/
theorem Refreshed.certificate {stem : RadsecStem} {d : RadsecDirectory}
    (refreshed : Refreshed pem authority args start stem d)
    (files : EndpointFiles pem authority stem start) :
    ∃ certificate key, (d.work stem).crt = some (pem.encode (.certificate certificate)) ∧
      (d.work stem).key = some (pem.encode (.privateKey key)) ∧
      certificate.signer = authority.key ∧
      certificate.ips = (args.endpointIps stem).map Subtype.val ∧
      (key = certificate.key ↔
        (reuses (args.endpointIps stem) (start.work stem) = true →
          stale stem start.calls = false)) := by
  rcases refreshed with ⟨reused, same⟩ | ⟨fresh, certificate, crt, key, -, signer, ips⟩
  · rcases files with ⟨noCrt, noMarker⟩ | ⟨certificate, key, sanIps, crt, held, marker, signer, ips,
      -, current⟩
    · simp [reuses, noMarker] at reused
    · refine ⟨certificate, key, by rw [same, crt], by rw [same, held], signer, ?_, ?_⟩
      · have equal : markerKey sanIps = markerKey (args.endpointIps stem) := by
          simpa [reuses, marker, crt, strip_marker] using reused
        rw [ips, markerKey_injective equal]
      · simp only [reused, forall_const, current]
  · exact ⟨certificate, certificate.key, crt, key, signer, ips, by simp [fresh]⟩

theorem mem_endpoints {stem : RadsecStem} (asked : stem ∈ args.endpoints) :
    stem = .server ∨
      (∃ host ∈ args.hosts, args.sanIps host.1 ≠ [] ∧ ∃ kind, stem = .role host.1 kind) ∨
      (stem = .syslogServer ∧ args.syslogIps.isSome = true) := by
  simp only [RadsecArgs.endpoints, List.mem_append, List.mem_cons, List.mem_flatMap] at asked
  rcases asked with (rfl | ⟨host, member, inside⟩) | syslog
  · exact Or.inl rfl
  · by_cases none : args.sanIps host.1 = []
    · simp [none] at inside
    · simp only [none, ↓reduceIte, List.mem_cons, List.not_mem_nil, or_false] at inside
      rcases inside with rfl | rfl
      · exact Or.inr (Or.inl ⟨host, member, none, .eapi, rfl⟩)
      · exact Or.inr (Or.inl ⟨host, member, none, .gnmi, rfl⟩)
  · cases given : args.syslogIps with
    | none => simp [given] at syslog
    | some ips =>
        rw [given] at syslog
        exact Or.inr (Or.inr ⟨by simpa using syslog, rfl⟩)

/-- Whether a published pair is sound is a question of its key only. -/
theorem leafSound_iff {stem : RadsecStem} {out : RadsecOut → Option Text}
    {certificate : Certificate} {key : Nat} {sanIps : List IpText} (notServer : stem ≠ .server)
    (crt : out (.pem stem) = some (pem.encode (.certificate certificate)))
    (held : out (.key stem) = some (pem.encode (.privateKey key)))
    (signer : certificate.signer = authority.key)
    (ips : certificate.ips = sanIps.map Subtype.val) :
    EndpointSound pem authority out stem sanIps ↔ key = certificate.key := by
  rw [EndpointSound]
  simp only [notServer, ↓reduceIte, LeafSound, crt, held, pem.held_encode]
  constructor
  · rintro ⟨other, ⟨same, pair, -⟩, -⟩
    cases same
    cases pair
    rfl
  · rintro rfl
    exact ⟨certificate, ⟨rfl, rfl, signer⟩, ips⟩

theorem serverFileSound_iff {out : RadsecOut → Option Text} {certificate : Certificate} {key : Nat}
    {sanIps : List IpText}
    (content : out (.pem .server) =
      some (pem.encode (.certificate certificate) ++ pem.encode (.privateKey key)))
    (signer : certificate.signer = authority.key)
    (ips : certificate.ips = sanIps.map Subtype.val) :
    EndpointSound pem authority out .server sanIps ↔ key = certificate.key := by
  rw [EndpointSound]
  simp only [↓reduceIte, ServerFileSound, content]
  constructor
  · rintro ⟨other, ⟨⟨given, rest, same, read, pair⟩, -⟩, -⟩
    cases same
    rw [pem.read_encode] at read
    cases read
    rw [pem.held_encode] at pair
    cases pair
    rfl
  · rintro rfl
    exact ⟨certificate, ⟨⟨_, _, rfl, pem.read_encode _ _, pem.held_encode _⟩, signer⟩, ips⟩

variable {pem authority args start} in
theorem Completed.endpointSound_iff {d : RadsecDirectory}
    (done : Completed pem authority args start d) (ready : Ready pem authority start)
    {stem : RadsecStem} (asked : stem ∈ args.endpoints) :
    EndpointSound pem authority d.out stem (args.endpointIps stem) ↔
      (reuses (args.endpointIps stem) (start.work stem) = true →
        stale stem start.calls = false) := by
  rcases mem_endpoints args asked with rfl | ⟨host, member, addressed, kind, rfl⟩ | ⟨rfl, given⟩
  · obtain ⟨certificate, key, crt, held, signer, ips, fits⟩ :=
      done.server.certificate pem authority args start (ready .server)
    have content := done.published.server
    simp only [RadsecOut.source, crt, held] at content
    rw [serverFileSound_iff pem authority content signer ips, fits]
  · obtain ⟨refreshed, published⟩ := done.roles host member addressed kind
    obtain ⟨certificate, key, crt, held, signer, ips, fits⟩ :=
      refreshed.certificate pem authority args start (ready (.role host.1 kind))
    rw [leafSound_iff pem authority (by simp) (published.1.trans crt) (published.2.trans held)
      signer ips, fits]
  · obtain ⟨refreshed, published⟩ := done.syslogServer given
    obtain ⟨certificate, key, crt, held, signer, ips, fits⟩ :=
      refreshed.certificate pem authority args start (ready .syslogServer)
    rw [leafSound_iff pem authority (by simp) (published.1.trans crt) (published.2.trans held)
      signer ips, fits]

variable {pem authority args start} in
theorem Completed.client {d : RadsecDirectory} (done : Completed pem authority args start d)
    {host : Hostname × Text} (member : host ∈ args.hosts) :
    ∃ certificate, LeafSound pem authority d.out (.client host.1) certificate := by
  have published := done.published.clients host member
  rcases done.stage.ready (.client host.1) with absent | ⟨certificate, crt, key, signer⟩
  · have present := done.clients host member
    simp [ClientPresent, absent] at present
  · refine ⟨certificate, ?_, ?_, signer⟩
    · rw [published.1, show (RadsecOut.pem (.client host.1)).source d.work =
        (d.work (.client host.1)).crt from rfl, crt, pem.held_encode]
    · rw [published.2, show (RadsecOut.key (.client host.1)).source d.work =
        (d.work (.client host.1)).key from rfl, key, pem.held_encode]

end Stages

section Runs

variable (pem : Pem) (succeeds : Nat → Bool)

/-- What the earlier runs leave behind, from an empty directory on. -/
def leftByRuns (earlier : List RadsecArgs) : RadsecDirectory :=
  leftAfter (earlier.map (generateRadsecPki pem succeeds)) Directory.empty

/-- For every sequence of runs from an empty directory, with a failure at any
openssl call of any run, a completed run publishes a sound PKI exactly when it
takes over no server certificate whose key an earlier run replaced. -/
theorem generateRadsecPki_sound_iff (earlier : List RadsecArgs) (args : RadsecArgs)
    (final : RadsecDirectory)
    (completes : generateRadsecPki pem succeeds args (leftByRuns pem succeeds earlier) = .ok final) :
    RadsecPkiSound pem args final.out ↔ NoStaleReuse args (leftByRuns pem succeeds earlier) := by
  have sound : Sound pem (leftByRuns pem succeeds earlier) := by
    refine Keeps.leftAfter (fun step member => ?_) (Or.inl fun stem => ⟨rfl, rfl⟩)
    obtain ⟨each, -, rfl⟩ := List.mem_map.mp member
    exact generateRadsecPki_keeps pem succeeds each
  rcases ensureCa_cases pem succeeds sound with
    ⟨stopped, fails, -⟩ | ⟨authority, start, made, ready, untouched⟩
  · rw [generateRadsecPki, andThen, fails] at completes
    cases completes
  · rw [generateRadsecPki, andThen, made] at completes
    have done := generateRadsecPki_completed pem succeeds authority args start ready completes
    have ca : pem.held (final.out (.pem .ca)) = some (.certificate authority) := by
      rw [done.published.ca]
      exact (done.stage.ready .ca).1
    have each {stem : RadsecStem} (asked : stem ∈ args.endpoints) :
        EndpointSound pem authority final.out stem (args.endpointIps stem) ↔
          (reuses (args.endpointIps stem) ((leftByRuns pem succeeds earlier).work stem) = true →
            stale stem (leftByRuns pem succeeds earlier).calls = false) := by
      have notCa : stem ≠ .ca := by
        rcases mem_endpoints args asked with rfl | ⟨_, -, -, _, rfl⟩ | ⟨rfl, -⟩ <;> simp
      rw [done.endpointSound_iff ready asked, (untouched stem notCa).work,
        (untouched stem notCa).stale]
    constructor
    · rintro ⟨other, heldCa, -, endpoints⟩ stem asked
      rw [ca] at heldCa
      cases heldCa
      exact (each asked).mp (endpoints stem asked)
    · intro current
      exact ⟨authority, ca, fun host member => done.client member,
        fun stem asked => (each asked).mpr (current stem asked)⟩

end Runs

private def radiusOnly (ip : IpText) : RadsecArgs := ⟨[ip], none, none, none, none⟩

private def firstIp : IpText := ⟨text "172.20.127.50", by simp [text], solid_of_all (by decide)⟩

private def secondIp : IpText := ⟨text "10.0.0.50", by simp [text], solid_of_all (by decide)⟩

/-- Every openssl call succeeds but the ninth: the certificate of the second run. -/
private def ninthFails (call : Nat) : Bool := call != 8

/-- A run for the first address, after a run for it that completed and a run for
the second address that stopped at its certificate. -/
private def thirdRun : Except RadsecDirectory RadsecDirectory :=
  generateRadsecPki Pem.quoted ninthFails (radiusOnly firstIp)
    (leftByRuns Pem.quoted ninthFails [radiusOnly firstIp, radiusOnly secondIp])

theorem generateRadsecPki_sound_iff_third :
    RadsecPkiSound Pem.quoted (radiusOnly firstIp) (left thirdRun).out ↔
      NoStaleReuse (radiusOnly firstIp)
        (leftByRuns Pem.quoted ninthFails [radiusOnly firstIp, radiusOnly secondIp]) :=
  generateRadsecPki_sound_iff Pem.quoted ninthFails [radiusOnly firstIp, radiusOnly secondIp]
    (radiusOnly firstIp) _ (ok_left (by decide +kernel))

/-- The keys of the certificate and of the private key in `server.pem`. -/
private def serverKeys (out : RadsecOut → Option Text) : Option (Nat × Nat) := do
  let content ← out (.pem .server)
  match Pem.quoted.read content with
  | some (.certificate certificate, rest) =>
      match Pem.quoted.held (some rest) with
      | some (.privateKey key) => some (certificate.key, key)
      | _ => none
  | _ => none

/-- The third run completes and publishes the certificate of the first run with
the key of the second. -/
theorem generateRadsecPki_mismatch :
    completed thirdRun = true ∧ ¬ RadsecPkiSound Pem.quoted (radiusOnly firstIp) (left thirdRun).out := by
  have keys : serverKeys (left thirdRun).out = some (1, 7) := by decide +kernel
  refine ⟨by decide +kernel, ?_⟩
  rintro ⟨authority, -, -, endpoints⟩
  obtain ⟨certificate, sound, -⟩ := endpoints .server (by simp [RadsecArgs.endpoints])
  obtain ⟨⟨content, rest, published, read, held⟩, -⟩ := sound
  simp [serverKeys, published, read, held] at keys
  omega

end QuantumSafe.GenPki
