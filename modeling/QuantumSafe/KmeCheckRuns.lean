import QuantumSafe.KmeChecks

set_option autoImplicit false

/- Runs of `run_kme_checks` without an error, and what they have seen. -/
namespace QuantumSafe.KmeChecks

open PyText PyJson PyIpAddress Interaction Interaction.Program DockerCalls LabSession KmeHttp
open KmePool (LoadsError)
open LabReport (recorded recorded_replicate_ok)
open TlsWire (CheckStatus)

variable {printable : Char → Bool} {loads : Text → Except LoadsError Json}

/-- A curl that ended well, and what it printed. -/
def Fetched (argv : List Text) (stdout : Text) (exchange : Exchange) : Prop :=
  exchange.1 = .run argv none (some dockerExecTimeoutSec) ∧
    ∃ stderr, exchange.2.outcome = .completed ⟨0, stdout, stderr⟩

theorem curlChecked_ok {title : Text} {argv : List Text} {shown : CompletedProcess → Text}
    {transcript : List Exchange} {result : CompletedProcess}
    (ends : (curlChecked title argv shown).Ends transcript (.ok result)) :
    ∃ call, transcript = [call] ∧ Fetched argv result.stdout call := by
  obtain ⟨outcome, before, after, rfl, ran, checks⟩ := ends_bind_ok ends
  obtain ⟨answer, rfl, same⟩ := subprocessRun_ends ran
  obtain rfl := Except.ok.inj same
  split at checks
  · cases checks.2
  · rename_i completed ended
    split at checks
    · cases checks.2
    · rename_i exit
      obtain ⟨rfl, same⟩ := checks
      obtain rfl := Except.ok.inj same
      refine ⟨_, rfl, rfl, result.stderr, ?_⟩
      rw [ended, ← not_not.mp exit]

theorem assertContains_ok {shown needle label : Text} {transcript : List Exchange}
    (ends : (assertContains printable shown needle label).Ends transcript (.ok ())) :
    transcript = [] ∧ contains needle shown = true := by
  unfold assertContains at ends
  split at ends
  · rename_i found
    exact ⟨ends.1, found⟩
  · cases ends.2

/-- A curl whose output has a text in it, and the report. -/
def Seen (argv : List Text) (needle : Text) (part : List Exchange) : Prop :=
  ∃ call told out, part = [call, told] ∧ Fetched argv out call ∧ contains needle out = true ∧
    told.1.status = some .ok

theorem statusCheck_ok {title label tag detail needle : Text} {argv : List Text}
    {shown : CompletedProcess → Text} {transcript : List Exchange}
    (ends : ((curlChecked title argv shown).bind fun result =>
      (assertContains printable result.stdout needle label).bind fun _ => reportOk tag detail).Ends
        transcript (.ok ())) :
    Seen argv needle transcript := by
  obtain ⟨result, before, rest, rfl, ran, checks⟩ := ends_bind_ok ends
  obtain ⟨call, rfl, fetched⟩ := curlChecked_ok ran
  obtain ⟨_, between, after, rfl, asserted, tells⟩ := ends_bind_ok checks
  obtain ⟨rfl, found⟩ := assertContains_ok asserted
  obtain ⟨answer, rfl, -⟩ := reportCheck_ends tells
  exact ⟨call, _, result.stdout, rfl, fetched, found, rfl⟩

variable (loads) in
/-- An answer whose first key is this one. -/
def Delivers (stdout keyId keyB64 : Text) (others : List Json) : Prop :=
  ∃ payload entry, loads stdout = .ok (.object payload) ∧
    payload.lookup (text "keys") = some (.list (.object entry :: others)) ∧
    entry.lookup (text "key_ID") = some (.str keyId) ∧ entry.lookup (text "key") = some (.str keyB64)

theorem payloadOf_ok {Value : Type} {stdout : Text} {test : Json → Except Failure Value}
    {transcript : List Exchange} {value : Value}
    (ends : (payloadOf loads stdout test).Ends transcript (.ok value)) :
    transcript = [] ∧ ∃ payload, loads stdout = .ok payload ∧ test payload = .ok value := by
  unfold payloadOf at ends
  cases loaded : loads stdout with
  | error error =>
      rw [loaded] at ends
      cases ends.2
  | ok payload =>
      simp only [loaded, Except.mapError, Except.bind] at ends
      cases tested : test payload with
      | error failure =>
          rw [tested] at ends
          cases ends.2
      | ok found =>
          rw [tested] at ends
          exact ⟨ends.1, payload, rfl, by rw [tested, Except.ok.inj ends.2]⟩

theorem firstKey_ok {payload : Json} {key : Text × Text} (found : firstKey printable payload = .ok key) :
    ∃ fields entry others, payload = .object fields ∧
      fields.lookup (text "keys") = some (.list (.object entry :: others)) ∧
      entry.lookup (text "key_ID") = some (.str key.1) ∧ entry.lookup (text "key") = some (.str key.2) := by
  unfold firstKey at found
  split at found
  · rename_i fields
    simp only at found
    split at found
    · rename_i entry others listed
      split at found
      · rename_i keyId keyB64 named given
        obtain rfl := Except.ok.inj found
        exact ⟨fields, entry, others, rfl, listed, named, given⟩
      · cases found
    · cases found
    · cases found
  · cases found

theorem onlyKey_ok {keyId keyB64 : Text} {payload : Json}
    (passes : onlyKey printable keyId keyB64 payload = .ok ()) :
    ∃ fields entry, payload = .object fields ∧
      fields.lookup (text "keys") = some (.list [.object entry]) ∧
      entry.lookup (text "key_ID") = some (.str keyId) ∧ entry.lookup (text "key") = some (.str keyB64) := by
  unfold onlyKey at passes
  split at passes
  · rename_i fields
    simp only at passes
    split at passes
    · rename_i entry listed
      split at passes
      · cases passes
      · rename_i sameId
        split at passes
        · cases passes
        · rename_i sameKey
          simp only [Bool.not_eq_true', Bool.not_eq_false, Option.any_eq_true, equalsText_iff] at sameId sameKey
          obtain ⟨_, named, rfl⟩ := sameId
          obtain ⟨_, given, rfl⟩ := sameKey
          exact ⟨fields, entry, rfl, listed, named, given⟩
    · cases passes
    · cases passes
  · cases passes

/- Handing out and asking for a key -/

variable (loads) in
/-- KME A hands out a key. -/
def HandedOut (targets : KmeTargets) (keyId keyB64 : Text) (exchange : Exchange) : Prop :=
  ∃ out others, Fetched (encArgv targets) out exchange ∧ Delivers loads out keyId keyB64 others

variable (loads) in
/-- KME B is asked for a key by its id, and gives back this one alone. -/
def GivenBack (targets : KmeTargets) (keyId keyB64 : Text) (exchange : Exchange) : Prop :=
  ∃ out, Fetched (decArgv targets keyId) out exchange ∧ Delivers loads out keyId keyB64 []

theorem encKeysOnce_ok {targets : KmeTargets} {transcript : List Exchange} {key : Text × Text}
    (ends : (encKeysOnce printable loads targets).Ends transcript (.ok key)) :
    ∃ call told, transcript = [call, told] ∧ HandedOut loads targets key.1 key.2 call ∧
      told.1.status = some .ok := by
  obtain ⟨result, before, rest, rfl, ran, checks⟩ := ends_bind_ok ends
  obtain ⟨call, rfl, fetched⟩ := curlChecked_ok ran
  obtain ⟨found, between, after, rfl, loaded, tells⟩ := ends_bind_ok checks
  obtain ⟨rfl, payload, decoded, accepted⟩ := payloadOf_ok loaded
  obtain ⟨_, last, none, rfl, reported, returns⟩ := ends_bind_ok tells
  obtain ⟨answer, rfl, -⟩ := reportCheck_ends reported
  obtain ⟨rfl, same⟩ := returns
  obtain rfl := Except.ok.inj same
  obtain ⟨fields, entry, others, rfl, listed, named, given⟩ := firstKey_ok accepted
  exact ⟨call, _, rfl, ⟨result.stdout, others, fetched, fields, entry, decoded, listed, named, given⟩, rfl⟩

theorem curlChecked_one {title : Text} {argv : List Text} {shown : CompletedProcess → Text}
    {transcript : List Exchange} {result : Except Failure CompletedProcess}
    (ends : (curlChecked title argv shown).Ends transcript result) :
    ∃ answer, transcript = [(.run argv none (some dockerExecTimeoutSec), answer)] := by
  obtain ⟨answer, rest, rfl, checks⟩ := ends
  refine ⟨answer, ?_⟩
  simp only [done_bind] at checks
  split at checks
  · rw [checks.1]
  · split at checks <;> rw [checks.1]

/-- An attempt that fails reports nothing. -/
theorem encKeysOnce_error {targets : KmeTargets} {transcript : List Exchange} {failure : Failure}
    (ends : (encKeysOnce printable loads targets).Ends transcript (.error failure)) :
    ∀ exchange ∈ transcript, exchange.1.status = none := by
  rcases ends_bind_iff.mp ends with ⟨result, before, rest, rfl, ran, checks⟩ | ⟨error, -, fails⟩
  · obtain ⟨answer, rfl⟩ := curlChecked_one ran
    rcases ends_bind_iff.mp checks with ⟨found, between, after, rfl, -, tells⟩ | ⟨error, -, fails⟩
    · obtain ⟨told, after, rfl, rfl, same⟩ := tells
      cases same
    · unfold payloadOf at fails
      split at fails
      · cases fails.2
      · rw [fails.1]
        simp [Command.status]
  · obtain ⟨answer, rfl⟩ := curlChecked_one fails
    simp [Command.status]

theorem statuses_eq_nil {transcript : List Exchange}
    (silent : ∀ exchange ∈ transcript, exchange.1.status = none) : statuses transcript = [] :=
  List.filterMap_eq_nil_iff.mpr silent

theorem encKeysOnKmeA_ok {fuel : Nat} {targets : KmeTargets} {transcript : List Exchange}
    {key : Text × Text} (ends : (encKeysOnKmeA printable loads fuel targets).Ends transcript (.ok key)) :
    ∃ front call told, transcript = front ++ [call, told] ∧ statuses front = [] ∧
      HandedOut loads targets key.1 key.2 call ∧ told.1.status = some .ok := by
  obtain ⟨now, before, rest, rfl, reads, loops⟩ := ends_bind_ok ends
  obtain ⟨clock, rfl, -⟩ := monotonic_ends reads
  obtain ⟨front, part, rfl, silent, once⟩ := retryBefore_ok (fun exchange => exchange.1.status = none)
    (fun _ => rfl) (fun _ => rfl) (fun _ _ => encKeysOnce_error) loops
  obtain ⟨call, told, rfl, handed, reported⟩ := encKeysOnce_ok once
  exact ⟨(.monotonic, clock) :: front, call, told, by simp,
    statuses_eq_nil (List.forall_mem_cons.mpr ⟨rfl, silent⟩), handed, reported⟩

theorem decKeysOnKmeB_ok {targets : KmeTargets} {keyId keyB64 : Text} {transcript : List Exchange}
    (ends : (decKeysOnKmeB printable loads targets keyId keyB64).Ends transcript (.ok ())) :
    ∃ call told, transcript = [call, told] ∧ GivenBack loads targets keyId keyB64 call ∧
      told.1.status = some .ok := by
  obtain ⟨result, before, rest, rfl, ran, checks⟩ := ends_bind_ok ends
  obtain ⟨call, rfl, fetched⟩ := curlChecked_ok ran
  obtain ⟨_, between, after, rfl, loaded, tells⟩ := ends_bind_ok checks
  obtain ⟨rfl, payload, decoded, accepted⟩ := payloadOf_ok loaded
  obtain ⟨answer, rfl, -⟩ := reportCheck_ends tells
  obtain ⟨fields, entry, rfl, listed, named, given⟩ := onlyKey_ok accepted
  exact ⟨call, _, rfl, ⟨result.stdout, fetched, fields, entry, decoded, listed, named, given⟩, rfl⟩

/- The whole run -/

/-- The status requests for `kme-a`, each with the text that the answer has in it. -/
def kmeARequests (targets : KmeTargets) : List (List Text × Text) :=
  [ (dockerExecArgv (targets.kmeContainer kmeA) (kmeCurlArgv
      { url := apiUrl targets.kmeAIp 8010 (keysPath CeosContract.kmeSaeId (text "status"))
        cert := text "/certs/sae.crt.pem"
        key := text "/certs/sae.key.pem" }), text "\"source_KME_ID\""),
    (dockerExecArgv (targets.kmeContainer kmeA) (kmeCurlArgv
      { url := apiUrl targets.kmeBIp 8020 (text "kme/status")
        cert := text "/certs/kme-a.crt.pem"
        key := text "/certs/kme-a.key.pem" }), text "\"KME_ID\"") ]

def kmeBRequests (targets : KmeTargets) : List (List Text × Text) :=
  [ (dockerExecArgv (targets.kmeContainer kmeB) (kmeCurlArgv
      { url := apiUrl targets.kmeAIp 8010 (text "kme/status")
        cert := text "/certs/kme-b.crt.pem"
        key := text "/certs/kme-b.key.pem" }), text "\"KME_ID\"") ]

def hostRequests (targets : KmeTargets) (node : Text) : List (List Text × Text) :=
  (hostChecks targets).map fun check =>
    (ceosKmeCurlExecArgv (targets.ceosContainer node) check.curl, check.expect)

/-- The status requests are made in this order, and each is followed by its report. -/
def SeenAll (requests : List (List Text × Text)) (transcript : List Exchange) : Prop :=
  ∃ parts, transcript = parts.flatten ∧
    List.Forall₂ (fun request part => Seen request.1 request.2 part) requests parts

theorem SeenAll.statuses {requests : List (List Text × Text)} {transcript : List Exchange}
    (seen : SeenAll requests transcript) :
    statuses transcript = List.replicate requests.length .ok := by
  obtain ⟨parts, rfl, each⟩ := seen
  induction each with
  | nil => rfl
  | cons first others ih =>
      obtain ⟨call, told, out, rfl, fetched, -, reported⟩ := first
      rw [List.flatten_cons, statuses_append, ih, List.length_cons, Nat.add_comm, List.replicate_add]
      rw [statuses_cons, statuses_cons, reported, fetched.1]
      rfl

theorem SeenAll.append {before after : List (List Text × Text)} {front back : List Exchange}
    (first : SeenAll before front) (later : SeenAll after back) :
    SeenAll (before ++ after) (front ++ back) := by
  obtain ⟨parts, rfl, each⟩ := first
  obtain ⟨others, rfl, rest⟩ := later
  exact ⟨parts ++ others, List.flatten_append.symm, List.rel_append each rest⟩

theorem checkHost_all {targets : KmeTargets} {node : Text} {transcript : List Exchange}
    (ends : (checkCeosHostKmeTls printable targets node).Ends transcript (.ok ())) :
    SeenAll (hostRequests targets node) transcript := by
  obtain ⟨parts, rfl, each⟩ := forEach_ok ends
  refine ⟨parts, rfl, List.forall₂_map_left_iff.mpr ?_⟩
  exact each.imp fun check part checked => statusCheck_ok checked

theorem checkHosts_all {targets : KmeTargets} {hosts : List Text} {transcript : List Exchange}
    (ends : (forEach hosts (checkCeosHostKmeTls printable targets)).Ends transcript (.ok ())) :
    SeenAll (hosts.flatMap (hostRequests targets)) transcript := by
  obtain ⟨parts, rfl, each⟩ := forEach_ok ends
  clear ends
  induction each with
  | nil => exact ⟨[], rfl, List.Forall₂.nil⟩
  | cons first others ih => exact (checkHost_all first).append ih

/-- What stands in such a part of a run. -/
theorem SeenAll.exchange {requests : List (List Text × Text)} {transcript : List Exchange}
    (seen : SeenAll requests transcript) :
    ∀ exchange ∈ transcript, exchange.1.status = some .ok ∨
      ∃ request ∈ requests, exchange.1 = .run request.1 none (some dockerExecTimeoutSec) := by
  obtain ⟨parts, rfl, each⟩ := seen
  induction each with
  | nil => exact List.forall_mem_nil _
  | cons first others ih =>
      obtain ⟨call, told, out, rfl, fetched, -, reported⟩ := first
      intro exchange member
      rcases List.mem_append.mp member with own | later
      · rcases List.mem_cons.mp own with rfl | own
        · exact Or.inr ⟨_, List.mem_cons_self, fetched.1⟩
        · obtain rfl := List.mem_singleton.mp own
          exact Or.inl reported
      · exact (ih exchange later).imp_right fun ⟨request, inside, same⟩ =>
          ⟨request, List.mem_cons_of_mem _ inside, same⟩

theorem SeenAll.request {requests : List (List Text × Text)} {transcript : List Exchange}
    (seen : SeenAll requests transcript) :
    ∀ request ∈ requests, ∃ exchange ∈ transcript, ∃ out,
      Fetched request.1 out exchange ∧ contains request.2 out = true := by
  obtain ⟨parts, rfl, each⟩ := seen
  induction each with
  | nil => exact List.forall_mem_nil _
  | cons first others ih =>
      obtain ⟨call, told, out, rfl, fetched, found, -⟩ := first
      refine List.forall_mem_cons.mpr ⟨⟨call, by simp, out, fetched, found⟩, ?_⟩
      intro request member
      obtain ⟨exchange, inside, rest⟩ := ih request member
      exact ⟨exchange, List.mem_append_right _ inside, rest⟩

/-- A request for a key of KME A. -/
def AsksA (targets : KmeTargets) (exchange : Exchange) : Prop :=
  exchange.1 = .run (encArgv targets) none (some dockerExecTimeoutSec)

theorem not_asksA_of_status {targets : KmeTargets} {exchange : Exchange}
    (reported : exchange.1.status = some .ok) : ¬ AsksA targets exchange := by
  intro asks
  rw [asks] at reported
  cases reported

/-- The arguments of the other commands differ in the certificate, or in the fourth place. -/
theorem not_asksA_of_argv {targets : KmeTargets} {exchange : Exchange} {argv : List Text} {timeout : Option Nat}
    (runs : exchange.1 = .run argv none timeout)
    (differs : argv[3]? ≠ some (text "curl") ∨ argv[15]? ≠ some (text "/certs/sae.crt.pem")) :
    ¬ AsksA targets exchange := by
  intro asks
  have same : argv = encArgv targets := (Command.run.inj (runs.symm.trans asks)).1
  rw [same] at differs
  rcases differs with call | cert
  · exact call rfl
  · exact cert rfl

variable (loads) in
/-- The last key that KME A hands out is the one that KME B gives back, with its material. -/
def Relayed (targets : KmeTargets) (transcript : List Exchange) : Prop :=
  ∃ keyId keyB64 front handed between given back,
    transcript = front ++ handed :: (between ++ given :: back) ∧
      HandedOut loads targets keyId keyB64 handed ∧ GivenBack loads targets keyId keyB64 given ∧
      ∀ exchange ∈ between ++ given :: back, ¬ AsksA targets exchange

theorem checkKmeA_ok {fuel : Nat} {targets : KmeTargets} {transcript : List Exchange} {key : Text × Text}
    (ends : (checkKmeA printable loads fuel targets).Ends transcript (.ok key)) :
    ∃ seen front call told, transcript = seen ++ (front ++ [call, told]) ∧
      SeenAll (kmeARequests targets) seen ∧ statuses front = [] ∧
      HandedOut loads targets key.1 key.2 call ∧ told.1.status = some .ok := by
  obtain ⟨_, sae, rest, rfl, status, others⟩ := ends_bind_ok ends
  obtain ⟨_, peer, enc, rfl, between, asks⟩ := ends_bind_ok others
  obtain ⟨front, call, told, rfl, silent, handed, reported⟩ := encKeysOnKmeA_ok asks
  refine ⟨sae ++ peer, front, call, told, by simp, ⟨[sae, peer], by simp, ?_⟩, silent, handed, reported⟩
  exact List.Forall₂.cons (statusCheck_ok status) (List.Forall₂.cons (statusCheck_ok between) List.Forall₂.nil)

theorem checkKmeB_ok {targets : KmeTargets} {key : Option (Text × Text)} {transcript : List Exchange}
    (ends : (checkKmeB printable loads targets key).Ends transcript (.ok ())) :
    ∃ keyId keyB64 seen call told, key = some (keyId, keyB64) ∧ transcript = seen ++ [call, told] ∧
      SeenAll (kmeBRequests targets) seen ∧ GivenBack loads targets keyId keyB64 call ∧
      told.1.status = some .ok := by
  obtain ⟨_, peer, rest, rfl, status, others⟩ := ends_bind_ok ends
  split at others
  · cases others.2
  · rename_i keyId keyB64
    obtain ⟨call, told, rfl, given, reported⟩ := decKeysOnKmeB_ok others
    refine ⟨keyId, keyB64, peer, call, told, rfl, rfl, ⟨[peer], by simp, ?_⟩, given, reported⟩
    exact List.Forall₂.cons (statusCheck_ok status) List.Forall₂.nil

/-- The status requests of a run. -/
def statusRequests (targets : KmeTargets) (kmeNodes hosts : List Text) : List (List Text × Text) :=
  (if kmeNodes.contains kmeA then kmeARequests targets else []) ++
    (if kmeNodes.contains kmeB then kmeBRequests targets else []) ++ hosts.flatMap (hostRequests targets)

/-- The number of checks that a run reports. -/
def checkCount (kmeNodes hosts : List Text) : Nat :=
  (if kmeNodes.contains kmeA then 3 else 0) + (if kmeNodes.contains kmeB then 2 else 0) + 2 * hosts.length

variable (loads) in
/-- What a run of the checks on these targets has seen when it ends without an error. -/
structure AllChecked (targets : KmeTargets) (kmeNodes hosts : List Text) (transcript : List Exchange) :
    Prop where
  relayed : kmeNodes.contains kmeB → kmeNodes.contains kmeA ∧ Relayed loads targets transcript
  requested : ∀ request ∈ statusRequests targets kmeNodes hosts, ∃ exchange ∈ transcript, ∃ out,
    Fetched request.1 out exchange ∧ contains request.2 out = true
  reported : recorded (statuses transcript) = ⟨checkCount kmeNodes hosts, 0, 0, 0⟩

theorem length_hostRequests (targets : KmeTargets) (hosts : List Text) :
    (hosts.flatMap (hostRequests targets)).length = 2 * hosts.length := by
  induction hosts with
  | nil => rfl
  | cons node rest ih =>
      have pair : (hostRequests targets node).length = 2 := rfl
      rw [List.flatMap_cons, List.length_append, ih, pair, List.length_cons]
      omega

theorem hostRequests_ip {targets : KmeTargets} {hosts : List Text} :
    ∀ request ∈ hosts.flatMap (hostRequests targets), request.1[3]? = some (text "ip") := by
  intro request member
  obtain ⟨node, -, inside⟩ := List.mem_flatMap.mp member
  obtain ⟨check, -, rfl⟩ := List.mem_map.mp inside
  rfl

/-- No host asks KME A for a key. -/
theorem not_asksA_hosts {targets : KmeTargets} {hosts : List Text} {transcript : List Exchange}
    (seen : SeenAll (hosts.flatMap (hostRequests targets)) transcript) :
    ∀ exchange ∈ transcript, ¬ AsksA targets exchange := by
  intro exchange member
  rcases seen.exchange exchange member with reported | ⟨request, inside, same⟩
  · exact not_asksA_of_status reported
  · refine not_asksA_of_argv same (Or.inl ?_)
    rw [hostRequests_ip request inside]
    decide

theorem kmeBCert_ne : text "/certs/kme-b.crt.pem" ≠ text "/certs/sae.crt.pem" := by decide

theorem saeBCert_ne : text "/certs/sae-b.crt.pem" ≠ text "/certs/sae.crt.pem" := by decide

theorem not_asksA_kmeB {targets : KmeTargets} {transcript : List Exchange}
    (seen : SeenAll (kmeBRequests targets) transcript) :
    ∀ exchange ∈ transcript, ¬ AsksA targets exchange := by
  intro exchange member
  rcases seen.exchange exchange member with reported | ⟨request, inside, same⟩
  · exact not_asksA_of_status reported
  · obtain rfl := List.mem_singleton.mp inside
    exact not_asksA_of_argv same (Or.inr fun cert => kmeBCert_ne (Option.some.inj cert))

theorem HandedOut.status {targets : KmeTargets} {keyId keyB64 : Text} {exchange : Exchange}
    (handed : HandedOut loads targets keyId keyB64 exchange) : exchange.1.status = none := by
  obtain ⟨out, others, fetched, -⟩ := handed
  rw [fetched.1]
  rfl

theorem GivenBack.status {targets : KmeTargets} {keyId keyB64 : Text} {exchange : Exchange}
    (given : GivenBack loads targets keyId keyB64 exchange) : exchange.1.status = none := by
  obtain ⟨out, fetched, -⟩ := given
  rw [fetched.1]
  rfl

theorem GivenBack.not_asksA {targets : KmeTargets} {keyId keyB64 : Text} {exchange : Exchange}
    (given : GivenBack loads targets keyId keyB64 exchange) : ¬ AsksA targets exchange := by
  obtain ⟨out, fetched, -⟩ := given
  exact not_asksA_of_argv fetched.1 (Or.inr fun cert => saeBCert_ne (Option.some.inj cert))

variable (loads) in
/-- The part of a run for `kme-a`: a key is handed out in the last but one exchange. -/
def PartA (targets : KmeTargets) (kmeNodes : List Text) (key : Option (Text × Text))
    (part : List Exchange) : Prop :=
  (¬ kmeNodes.contains kmeA ∧ key = none ∧ part = []) ∨
    kmeNodes.contains kmeA ∧ ∃ keyId keyB64 seen front call told, key = some (keyId, keyB64) ∧
      part = seen ++ (front ++ [call, told]) ∧ SeenAll (kmeARequests targets) seen ∧
      statuses front = [] ∧ HandedOut loads targets keyId keyB64 call ∧ told.1.status = some .ok

variable (loads) in
/-- The part for `kme-b`. -/
def PartB (targets : KmeTargets) (kmeNodes : List Text) (key : Option (Text × Text))
    (part : List Exchange) : Prop :=
  (¬ kmeNodes.contains kmeB ∧ part = []) ∨
    kmeNodes.contains kmeB ∧ ∃ keyId keyB64 seen call told, key = some (keyId, keyB64) ∧
      part = seen ++ [call, told] ∧ SeenAll (kmeBRequests targets) seen ∧
      GivenBack loads targets keyId keyB64 call ∧ told.1.status = some .ok

theorem askedA_ok {fuel : Nat} {targets : KmeTargets} {kmeNodes : List Text}
    {transcript : List Exchange} {key : Option (Text × Text)}
    (ends : (askedA printable loads fuel targets kmeNodes).Ends transcript (.ok key)) :
    PartA loads targets kmeNodes key transcript := by
  unfold askedA at ends
  split at ends
  · rename_i a
    obtain ⟨found, before, none, rfl, asked, rfl, same⟩ := ends_bind_ok ends
    obtain rfl := Except.ok.inj same
    obtain ⟨seen, front, call, told, rfl, rest⟩ := checkKmeA_ok asked
    exact Or.inr ⟨a, found.1, found.2, seen, front, call, told, rfl, List.append_nil _, rest⟩
  · rename_i without
    exact Or.inl ⟨without, Except.ok.inj ends.2, ends.1⟩

theorem askedB_ok {targets : KmeTargets} {kmeNodes : List Text} {transcript : List Exchange}
    {key : Option (Text × Text)}
    (ends : (askedB printable loads targets kmeNodes key).Ends transcript (.ok ())) :
    PartB loads targets kmeNodes key transcript := by
  unfold askedB at ends
  split at ends
  · rename_i b
    exact Or.inr ⟨b, checkKmeB_ok ends⟩
  · rename_i without
    exact Or.inl ⟨without, ends.1⟩

/-- What the two parts come to. -/
theorem relayed_of_parts {targets : KmeTargets} {kmeNodes hosts : List Text} {key : Option (Text × Text)}
    {first second last : List Exchange} (partA : PartA loads targets kmeNodes key first)
    (partB : PartB loads targets kmeNodes key second)
    (seenHosts : SeenAll (hosts.flatMap (hostRequests targets)) last) (b : kmeNodes.contains kmeB) :
    kmeNodes.contains kmeA ∧ Relayed loads targets (first ++ (second ++ last)) := by
  rcases partB with ⟨without, -⟩ | ⟨-, keyId, keyB64, seenB, given, toldB, rfl, rfl, bSeen, gives, reportedB⟩
  · exact absurd b without
  · rcases partA with ⟨-, same, -⟩ |
      ⟨a, otherId, otherB64, seenA, front, handed, told, same, rfl, -, -, hands, reported⟩
    · cases same
    · obtain ⟨rfl, rfl⟩ := Prod.mk.inj (Option.some.inj same)
      refine ⟨a, keyId, keyB64, seenA ++ front, handed, told :: seenB, given, toldB :: last, by simp,
        hands, gives, ?_⟩
      intro exchange member
      simp only [List.cons_append, List.mem_cons, List.mem_append] at member
      rcases member with rfl | inside | rfl | rfl | inside
      · exact not_asksA_of_status reported
      · exact not_asksA_kmeB bSeen exchange inside
      · exact gives.not_asksA
      · exact not_asksA_of_status reportedB
      · exact not_asksA_hosts seenHosts exchange inside

theorem PartA.statuses {targets : KmeTargets} {kmeNodes : List Text} {key : Option (Text × Text)}
    {part : List Exchange} (partA : PartA loads targets kmeNodes key part) :
    statuses part = List.replicate (if kmeNodes.contains kmeA then 3 else 0) .ok := by
  rcases partA with ⟨without, -, rfl⟩ |
    ⟨a, keyId, keyB64, seen, front, call, told, -, rfl, aSeen, silent, handed, reported⟩
  · rw [if_neg without]
    rfl
  · rw [if_pos a, statuses_append, statuses_append, aSeen.statuses, silent, statuses_cons, statuses_cons,
      handed.status, reported]
    rfl

theorem PartB.statuses {targets : KmeTargets} {kmeNodes : List Text} {key : Option (Text × Text)}
    {part : List Exchange} (partB : PartB loads targets kmeNodes key part) :
    statuses part = List.replicate (if kmeNodes.contains kmeB then 2 else 0) .ok := by
  rcases partB with ⟨without, rfl⟩ | ⟨b, keyId, keyB64, seen, call, told, -, rfl, bSeen, given, reported⟩
  · rw [if_neg without]
    rfl
  · rw [if_pos b, statuses_append, bSeen.statuses, statuses_cons, statuses_cons, given.status, reported]
    rfl

theorem requested_of_parts {targets : KmeTargets} {kmeNodes hosts : List Text} {key : Option (Text × Text)}
    {first second last : List Exchange} (partA : PartA loads targets kmeNodes key first)
    (partB : PartB loads targets kmeNodes key second)
    (seenHosts : SeenAll (hosts.flatMap (hostRequests targets)) last) :
    ∀ request ∈ statusRequests targets kmeNodes hosts, ∃ exchange ∈ first ++ (second ++ last), ∃ out,
      Fetched request.1 out exchange ∧ contains request.2 out = true := by
  intro request member
  rcases List.mem_append.mp member with early | fromHost
  · rcases List.mem_append.mp early with fromA | fromB
    · rcases partA with ⟨without, -⟩ |
        ⟨a, keyId, keyB64, seen, front, call, told, -, rfl, aSeen, -⟩
      · rw [if_neg without] at fromA
        cases fromA
      · rw [if_pos a] at fromA
        obtain ⟨exchange, inside, rest⟩ := aSeen.request request fromA
        exact ⟨exchange, by simp [inside], rest⟩
    · rcases partB with ⟨without, -⟩ | ⟨b, keyId, keyB64, seen, call, told, -, rfl, bSeen, -⟩
      · rw [if_neg without] at fromB
        cases fromB
      · rw [if_pos b] at fromB
        obtain ⟨exchange, inside, rest⟩ := bSeen.request request fromB
        exact ⟨exchange, by simp [inside], rest⟩
  · obtain ⟨exchange, inside, rest⟩ := seenHosts.request request fromHost
    exact ⟨exchange, by simp [inside], rest⟩

theorem checkTargets_ok {fuel : Nat} {targets : KmeTargets} {kmeNodes hosts : List Text}
    {transcript : List Exchange}
    (ends : (checkTargets printable loads fuel targets kmeNodes hosts).Ends transcript (.ok ())) :
    AllChecked loads targets kmeNodes hosts transcript := by
  obtain ⟨key, first, rest, rfl, begins, later⟩ := ends_bind_ok ends
  obtain ⟨_, second, last, rfl, middle, loops⟩ := ends_bind_ok later
  have partA := askedA_ok begins
  have partB := askedB_ok middle
  have seenHosts := checkHosts_all loops
  refine ⟨relayed_of_parts partA partB seenHosts, requested_of_parts partA partB seenHosts, ?_⟩
  rw [statuses_append, statuses_append, partA.statuses, partB.statuses, seenHosts.statuses,
    length_hostRequests, ← List.replicate_add, ← List.replicate_add, recorded_replicate_ok, checkCount,
    Nat.add_assoc]

/-- The targets that `run_kme_checks` makes of its arguments. -/
def Targeted (clabName mgmtSubnet : Text) (targets : KmeTargets) : Prop :=
  ∃ ips, mgmtIpsForSubnet (some mgmtSubnet) = .ok ips ∧ targets = ⟨clabName, ips .kmeA, ips .kmeB⟩

/-- A run of the KME checks without an error has seen the last key that KME A handed out come
back from KME B, under its id and with its material, and all the status answers that it asks
for; it reports one check for each, and no other. -/
theorem runKmeChecks_ok {fuel : Nat} {clabName mgmtSubnet : Text} {kmeNodes : List Text}
    {hostNodes : Option (List Text)} {transcript : List Exchange}
    (ends : (runKmeChecks printable loads fuel clabName mgmtSubnet kmeNodes hostNodes).Ends
      transcript (.ok ())) :
    ∃ targets, Targeted clabName mgmtSubnet targets ∧
      AllChecked loads targets kmeNodes (sortedHosts hostNodes) transcript := by
  unfold runKmeChecks at ends
  split at ends
  · cases ends.2
  · rename_i ips known
    exact ⟨_, ⟨ips, known, rfl⟩, checkTargets_ok ends⟩

/-- What every process of the example prints: one object with the fields of all the answers. -/
def exampleJson : Text :=
  text "\x7b\"source_KME_ID\": \"KME-A\", \"KME_ID\": \"KME-A\", \"stored_key_count\": 5, " ++
    text "\"keys\": [\x7b\"key_ID\": \"6f1c\", \"key\": \"a2V5\"\x7d]\x7d"

def exampleTree : Json :=
  .object [(text "source_KME_ID", .str (text "KME-A")), (text "KME_ID", .str (text "KME-A")),
    (text "stored_key_count", .int 5),
    (text "keys", .list [.object [(text "key_ID", .str (text "6f1c")), (text "key", .str (text "a2V5"))]])]

/-- `json.loads` on the text of the example. -/
def exampleLoads (shown : Text) : Except LoadsError Json :=
  if shown = exampleJson then .ok exampleTree else .error .jsonDecodeError

def exampleAnswer : Answer := ⟨.completed ⟨0, exampleJson, []⟩, 0⟩

def exampleChecks (hostNodes : Option (List Text)) : Check Unit :=
  runKmeChecks (fun _ => true) exampleLoads 8 labName (text "172.20.127.0/24") [kmeA, kmeB] hostNodes

private theorem exampleChecks_ok : ((exampleChecks none).run (fun _ _ => exampleAnswer) []).1 = .ok () := by
  decide +kernel

theorem runKmeChecks_ok_answered :
    ∃ targets, Targeted labName (text "172.20.127.0/24") targets ∧
      AllChecked exampleLoads targets [kmeA, kmeB] (sortedHosts none)
        ((exampleChecks none).run (fun _ _ => exampleAnswer) []).2 := by
  have ends := ends_run (fun _ _ => exampleAnswer) (exampleChecks none) []
  rw [exampleChecks_ok] at ends
  exact runKmeChecks_ok ends

end QuantumSafe.KmeChecks
