import Mathlib.Data.List.Nodup
import Mathlib.Data.List.ProdSigma
import QuantumSafe.CeosSession

set_option autoImplicit false

/- `lab/test_hosts.py`: every host of the data plane pings every other one, over IPv4 and IPv6. -/
namespace QuantumSafe.HostRouting

open PyText Interaction Interaction.Program DockerCalls LabSession LabReport
open CeosSession (ipFamilies familyLabel)
open LabContract (HostDataPlane hostDataPlane)
open RenderTopo (IpFamily)
open TlsWire (CheckStatus)

/-- `HostRoutingError` with its message, and the `ValueError` of `max` where there are no hosts. -/
inductive Failure where
  | hostRoutingError (message : Text)
  | valueError
deriving DecidableEq

abbrev Check (Value : Type) := Session Failure Value

/-- The address of a host in `host_data_ips` and `host_data_ips6`. -/
def hostDataIp (family : IpFamily) (host : HostDataPlane) : Text :=
  match family with
  | .ipv4 => splitHead (text "/") host.addr
  | .ipv6 => splitHead (text "/") host.addr6

/-- A ping of `host_ping_groups`. -/
structure Ping where
  src : HostDataPlane
  dst : HostDataPlane
  family : IpFamily

def Ping.title (ping : Ping) : Text :=
  text "ping " ++ familyLabel ping.family ++ text "  / " ++ ping.src.host.name ++ text " (" ++
    hostDataIp ping.family ping.src ++ text ") -> " ++ ping.dst.host.name ++ text " (" ++
    hostDataIp ping.family ping.dst ++ text ")"

def Ping.argv (ping : Ping) (clabName : Text) : List Text :=
  let target := hostDataIp ping.family ping.dst
  [text "docker", text "exec", containerOf clabName ping.src.host.name, text "ping", text "-c3",
      text "-W2"] ++
    (if contains (text ":") target then [text "-6"] else []) ++ [target]

/-- The pairs that `host_ping_groups` goes through. -/
def hostPairs (plane : List HostDataPlane) : List (HostDataPlane × HostDataPlane) :=
  plane.flatMap fun src => (plane.filter fun dst => src.host ≠ dst.host).map fun dst => (src, dst)

def hostPingGroups (plane : List HostDataPlane) : List Ping :=
  (hostPairs plane).flatMap fun pair => ipFamilies.map fun family => ⟨pair.1, pair.2, family⟩

/-- In verbose mode `run_step` runs the ping, with an empty input and without a timeout. -/
def Ping.command (ping : Ping) (clabName : Text) (verbose : Bool) : Command :=
  if verbose then .run (ping.argv clabName) (some []) none else .run (ping.argv clabName) none (some 30)

def liveTag : Text := text "[live]  "

/-- `_ping_host`. A failure in verbose mode is not reported. -/
def pingHost (clabName : Text) (verbose : Bool) (ping : Ping) : Check Bool :=
  .ask (ping.command clabName verbose) fun answer =>
    match answer.outcome with
    | .timeoutExpired =>
        if verbose then .done false
        else (reportCheck .fail liveTag (ping.title ++ text " timed out")).bind fun _ => .done false
    | .completed result =>
        if result.returncode = 0 then (reportOk liveTag ping.title).bind fun _ => .done true
        else if verbose then .done false
        else
          (reportCheck .fail liveTag (ping.title ++ text " failed (exit " ++ intText result.returncode ++
            text ")" ++ if result.detail = [] then [] else text ": " ++ result.detail)).bind
              fun _ => .done false

/-- `entries[key] = value` -/
def setItem {Key Value : Type} [DecidableEq Key] (key : Key) (value : Value) :
    List (Key × Value) → List (Key × Value)
  | [] => [(key, value)]
  | (other, old) :: rest =>
      if other = key then (other, value) :: rest else (other, old) :: setItem key value rest

/-- `results`: for each family the outcome of each pair of hosts. -/
abbrev Results := IpFamily → List ((Text × Text) × Bool)

def Results.none : Results := fun _ => []

def Ping.key (ping : Ping) : Text × Text := (ping.src.host.name, ping.dst.host.name)

def Results.record (results : Results) (ping : Ping) (ok : Bool) : Results := fun family =>
  if family = ping.family then setItem ping.key ok (results family) else results family

/-- The loop of `run_hosts_check`. -/
def runPings (clabName : Text) (verbose : Bool) : List Ping → Results → Check Results
  | [], results => .done results
  | ping :: rest, results => (pingHost clabName verbose ping).bind fun ok =>
      runPings clabName verbose rest (results.record ping ok)

/-- `f"{src} → {dst} ({family_label(family)})"` -/
def failureText (family : IpFamily) (key : Text × Text) : Text :=
  key.1 ++ text " → " ++ key.2 ++ text " (" ++ familyLabel family ++ text ")"

def failed (results : Results) : List Text :=
  ipFamilies.flatMap fun family =>
    ((results family).filter fun item => !item.2).map fun item => failureText family item.1

section Matrix

variable (colors : Bool) (plane : List HostDataPlane)

/-- `_dual_family_cell`, where the IPv6 result is looked at when there is an IPv4 one. -/
def dualFamilyCell (v4Ok v6Ok : Option Bool) : Text :=
  match v4Ok with
  | none => text "—"
  | some v4Ok =>
      statusMarker colors (if v4Ok then .ok else .fail) ++ text " " ++
        statusMarker colors (if v6Ok.getD false then .ok else .fail)

def ljust (shown : Text) (width : Nat) : Text := shown ++ List.replicate (width - shown.length) ' '

def rjust (shown : Text) (width : Nat) : Text := List.replicate (width - shown.length) ' ' ++ shown

def cellWidth : Nat :=
  ([4, visibleLen (statusMarker colors .ok), visibleLen (statusMarker colors .fail),
      visibleLen (dualFamilyCell colors (some true) (some true)), (text "—").length] ++
    plane.map (fun host => (hostDataIp .ipv4 host).length) ++
    plane.map fun host => (hostDataIp .ipv6 host).length).foldl max 0

def labelWidth : Nat := (plane.map fun host => host.host.name.length).foldl max 0 + 3

def cellGap : Nat := 2

/-- A line of the matrix above the rows. -/
def headLine (shown : HostDataPlane → Text) : Text :=
  List.replicate (labelWidth plane) ' ' ++
    plane.flatMap fun host => rjust (shown host) (cellWidth colors plane + cellGap)

def matrixRow (results : Results) (src : HostDataPlane) : Text :=
  ljust (src.host.name ++ text " →") (labelWidth plane) ++
    plane.flatMap fun dst =>
      alignRight
        (if src.host = dst.host then text "—"
        else dualFamilyCell colors ((results .ipv4).lookup (src.host.name, dst.host.name))
          ((results .ipv6).lookup (src.host.name, dst.host.name)))
        (cellWidth colors plane + cellGap)

def connectivityMatrix (results : Results) : Text :=
  join (text "\n") ([bold colors (text "HOST ROUTING (data-plane ping matrix)"), [],
      headLine colors plane fun host => host.host.name,
      headLine colors plane (hostDataIp .ipv4), headLine colors plane (hostDataIp .ipv6), []] ++
    plane.map (matrixRow colors plane results))

/-- The widths are maxima over the hosts. -/
def formatHostConnectivityMatrix (results : Results) : Except Failure Text :=
  if plane.isEmpty then .error .valueError else .ok (connectivityMatrix colors plane results)

end Matrix

/-- `run_hosts_check` on a data plane. -/
def checkPlane (colors : Bool) (plane : List HostDataPlane) (clabName : Text) (verbose : Bool) : Check Unit :=
  (runPings clabName verbose (hostPingGroups plane) Results.none).bind fun results =>
    match formatHostConnectivityMatrix colors plane results with
    | .error failure => .fail failure
    | .ok matrix => (print matrix).bind fun _ =>
        if failed results ≠ [] then
          .fail (.hostRoutingError (text "host routing failed: " ++ join (text ", ") (failed results)))
        else .done ()

def runHostsCheck (colors : Bool) (clabName : Text) (verbose : Bool) : Check Unit :=
  checkPlane colors hostDataPlane clabName verbose

/- What a run does -/

theorem hostPairs_eq (plane : List HostDataPlane) :
    hostPairs plane = (plane ×ˢ plane).filter fun pair => pair.1.host ≠ pair.2.host := by
  show _ = (plane.flatMap fun src => plane.map (Prod.mk src)).filter _
  rw [List.filter_flatMap]
  apply List.flatMap_congr
  intro src _
  rw [List.filter_map]
  rfl

theorem mem_hostPairs {plane : List HostDataPlane} {src dst : HostDataPlane} :
    (src, dst) ∈ hostPairs plane ↔ src ∈ plane ∧ dst ∈ plane ∧ src.host ≠ dst.host := by
  rw [hostPairs_eq, List.mem_filter, List.mem_product, decide_eq_true_iff, and_assoc]

theorem mem_hostPingGroups {plane : List HostDataPlane} {ping : Ping} :
    ping ∈ hostPingGroups plane ↔ ping.src ∈ plane ∧ ping.dst ∈ plane ∧ ping.src.host ≠ ping.dst.host := by
  obtain ⟨src, dst, family⟩ := ping
  rw [← mem_hostPairs, hostPingGroups, List.mem_flatMap]
  constructor
  · rintro ⟨⟨first, second⟩, member, among⟩
    obtain ⟨other, -, same⟩ := List.mem_map.mp among
    cases same
    exact member
  · intro member
    exact ⟨(src, dst), member, List.mem_map.mpr ⟨family, by cases family <;> decide, rfl⟩⟩

/-- The pings of one family are one for each pair. -/
theorem hostPingGroups_filter (plane : List HostDataPlane) (family : IpFamily) :
    (hostPingGroups plane).filter (fun ping => ping.family = family) =
      (hostPairs plane).map fun pair => ⟨pair.1, pair.2, family⟩ := by
  rw [hostPingGroups, List.filter_flatMap, List.map_eq_flatMap]
  apply List.flatMap_congr
  intro pair _
  cases family <;> rfl

theorem product_map {Item Other : Type} (shown : Item → Other) (items others : List Item) :
    (items ×ˢ others).map (Prod.map shown shown) = items.map shown ×ˢ others.map shown := by
  show (items.flatMap fun item => others.map (Prod.mk item)).map _ =
    (items.map shown).flatMap fun item => (others.map shown).map (Prod.mk item)
  rw [List.map_flatMap, List.flatMap_map]
  simp only [List.map_map, Function.comp_def, Prod.map]

theorem hostPairs_names_nodup {plane : List HostDataPlane}
    (distinct : (plane.map fun host => host.host.name).Nodup) :
    ((hostPairs plane).map fun pair => (pair.1.host.name, pair.2.host.name)).Nodup := by
  have all := distinct.product distinct
  rw [← product_map] at all
  rw [hostPairs_eq]
  exact all.sublist (List.filter_sublist.map _)

/-- No two pings of one family have the same ends. -/
theorem keys_nodup {plane : List HostDataPlane}
    (distinct : (plane.map fun host => host.host.name).Nodup) (family : IpFamily) :
    (((hostPingGroups plane).filter fun ping => ping.family = family).map Ping.key).Nodup := by
  rw [hostPingGroups_filter, List.map_map]
  exact hostPairs_names_nodup distinct

/-- No ping is made twice. -/
theorem hostPingGroups_nodup {plane : List HostDataPlane}
    (distinct : (plane.map fun host => host.host.name).Nodup) : (hostPingGroups plane).Nodup := by
  refine List.nodup_flatMap.mpr ⟨fun pair _ => ?_, ?_⟩
  · exact (by decide : ipFamilies.Nodup).map fun _ _ same => (Ping.mk.inj same).2.2
  · refine (hostPairs_names_nodup distinct).of_map.imp fun {first second} differ ping inFirst inSecond => ?_
    obtain ⟨_, -, rfl⟩ := List.mem_map.mp inFirst
    obtain ⟨_, -, same⟩ := List.mem_map.mp inSecond
    obtain ⟨sources, targets, -⟩ := Ping.mk.inj same
    exact differ (Prod.ext sources.symm targets.symm)

theorem setItem_fresh {Key Value : Type} [DecidableEq Key] {key : Key} {value : Value}
    {items : List (Key × Value)} (fresh : key ∉ items.map Prod.fst) :
    setItem key value items = items ++ [(key, value)] := by
  induction items with
  | nil => rfl
  | cons item rest ih =>
      rw [List.map_cons, List.mem_cons, not_or] at fresh
      rw [setItem, if_neg (Ne.symm fresh.1), ih fresh.2]
      rfl

/-- A ping got through. -/
def reached (exchange : Exchange) : Bool :=
  match exchange.2.outcome with
  | .completed result => result.returncode = 0
  | .timeoutExpired => false

/-- What `_ping_host` reports of a ping. -/
def told (verbose : Bool) (exchange : Exchange) : List CheckStatus :=
  if reached exchange then [.ok] else if verbose then [] else [.fail]

/-- The outcomes of the pings of one family, in order. -/
def outcomes (parts : List (Ping × Exchange)) : Results := fun family =>
  (parts.filter fun part => part.1.family = family).map fun part => (part.1.key, reached part.2)

theorem reportCheck_done {status : CheckStatus} {tag detail : Text} {ok : Bool}
    {transcript : List Exchange} {result : Except Failure Bool}
    (ends : ((reportCheck status tag detail).bind fun _ => .done ok).Ends transcript result) :
    processes transcript = [] ∧ statuses transcript = [status] ∧ result = .ok ok := by
  obtain ⟨answer, rest, rfl, rfl, same⟩ := ends
  exact ⟨rfl, rfl, same⟩

/-- What follows the answer to a ping. -/
theorem pingHost_ends {clabName : Text} {verbose : Bool} {ping : Ping} {transcript : List Exchange}
    {result : Except Failure Bool} (ends : (pingHost clabName verbose ping).Ends transcript result) :
    ∃ exchange, exchange.1 = ping.command clabName verbose ∧ processes transcript = [exchange] ∧
      statuses transcript = told verbose exchange ∧ result = .ok (reached exchange) := by
  obtain ⟨answer, rest, rfl, goes⟩ := ends
  have running : (ping.command clabName verbose).isRun = true ∧
      (ping.command clabName verbose).status = none := by
    cases verbose <;> exact ⟨rfl, rfl⟩
  have left : processes rest = [] ∧ statuses rest = told verbose (ping.command clabName verbose, answer) ∧
      result = .ok (reached (ping.command clabName verbose, answer)) := by
    beta_reduce at goes
    unfold told reached
    cases ended : answer.outcome with
    | timeoutExpired =>
        simp only [ended] at goes ⊢
        cases verbose with
        | false => exact reportCheck_done goes
        | true =>
            obtain ⟨rfl, rfl⟩ := goes
            exact ⟨rfl, rfl, rfl⟩
    | completed process =>
        simp only [ended] at goes ⊢
        by_cases fine : process.returncode = 0
        · rw [if_pos fine] at goes
          simpa [fine] using reportCheck_done goes
        · rw [if_neg fine] at goes
          cases verbose with
          | false => simpa [fine] using reportCheck_done goes
          | true =>
              obtain ⟨rfl, rfl⟩ := goes
              simp [fine]
  refine ⟨(ping.command clabName verbose, answer), rfl, ?_, ?_, left.2.2⟩
  · rw [processes_cons, running.1, if_pos rfl, left.1]
    rfl
  · rw [statuses_cons, running.2, left.2.1]
    rfl

theorem runPings_ends {clabName : Text} {verbose : Bool} {pings : List Ping} {results : Results}
    {transcript : List Exchange} {result : Except Failure Results}
    (ends : (runPings clabName verbose pings results).Ends transcript result) :
    List.Forall₂ (fun ping exchange => exchange.1 = ping.command clabName verbose) pings
        (processes transcript) ∧
      statuses transcript = (processes transcript).flatMap (told verbose) ∧
      result = .ok ((pings.zip (processes transcript)).foldl
        (fun results part => results.record part.1 (reached part.2)) results) := by
  induction pings generalizing results transcript with
  | nil =>
      obtain ⟨rfl, rfl⟩ := ends
      exact ⟨List.Forall₂.nil, rfl, rfl⟩
  | cons ping rest ih =>
      rcases ends_bind_iff.mp ends with ⟨ok, before, after, rfl, first, others⟩ | ⟨error, -, fails⟩
      · obtain ⟨exchange, asked, once, reports, same⟩ := pingHost_ends first
        obtain rfl := Except.ok.inj same
        obtain ⟨rightly, tells, rfl⟩ := ih others
        rw [processes_append, once, statuses_append, reports, tells]
        exact ⟨List.Forall₂.cons asked rightly, rfl, rfl⟩
      · obtain ⟨exchange, -, -, -, same⟩ := pingHost_ends fails
        cases same

/-- Outcomes that are recorded once each stay in their order. -/
theorem foldl_record {parts : List (Ping × Exchange)} {results : Results} (family : IpFamily)
    (fresh : ∀ family, ((results family).map Prod.fst ++
      (parts.filter fun part => part.1.family = family).map fun part => part.1.key).Nodup) :
    parts.foldl (fun results part => results.record part.1 (reached part.2)) results family =
      results family ++ outcomes parts family := by
  induction parts generalizing results with
  | nil => exact (List.append_nil _).symm
  | cons part rest ih =>
      have new : part.1.key ∉ (results part.1.family).map Prod.fst := by
        have all := fresh part.1.family
        rw [List.filter_cons_of_pos (by simp), List.map_cons, List.nodup_middle, List.nodup_cons] at all
        exact fun member => all.1 (List.mem_append_left _ member)
      have recorded : ∀ family, results.record part.1 (reached part.2) family =
          results family ++ if part.1.family = family then [(part.1.key, reached part.2)] else [] := by
        intro family
        rw [Results.record]
        split
        · next same => rw [same, if_pos rfl, setItem_fresh new]
        · next other => rw [if_neg (Ne.symm other), List.append_nil]
      rw [List.foldl_cons, ih, recorded, outcomes, outcomes, List.filter_cons]
      · split <;> simp_all
      · intro family
        have all := fresh family
        rw [recorded]
        rw [List.filter_cons] at all
        split <;> simp_all

theorem recorded_told (verbose : Bool) (pings : List Exchange) :
    recorded (pings.flatMap (told verbose)) =
      ⟨pings.countP reached, 0, if verbose then 0 else pings.countP (!reached ·), 0⟩ := by
  induction pings with
  | nil => cases verbose <;> rfl
  | cons exchange rest ih =>
      rw [List.flatMap_cons, recorded_append, ih, told]
      cases verbose <;> cases fine : reached exchange <;>
        simp [fine, recorded, CheckStats.record, CheckStats.add, CheckStats.none, Nat.add_comm]

theorem failed_eq_nil {results : Results} :
    failed results = [] ↔ ∀ family, ∀ item ∈ results family, item.2 = true := by
  simp only [failed, List.flatMap_eq_nil_iff, List.map_eq_nil_iff, List.filter_eq_nil_iff]
  constructor
  · intro every family item member
    simpa using every family (by cases family <;> decide) item member
  · intro every family _ item member
    simpa using every family item member

/-- The outcomes of a run: its processes are the pings in their order. -/
def survey (plane : List HostDataPlane) (transcript : List Exchange) : Results :=
  outcomes ((hostPingGroups plane).zip (processes transcript))

theorem survey_reached {plane : List HostDataPlane} {transcript : List Exchange}
    (each : (hostPingGroups plane).length = (processes transcript).length) :
    failed (survey plane transcript) = [] ↔ ∀ exchange ∈ processes transcript, reached exchange = true := by
  rw [failed_eq_nil]
  constructor
  · intro every exchange member
    rw [← List.map_snd_zip (Nat.le_of_eq each.symm)] at member
    obtain ⟨part, among, rfl⟩ := List.mem_map.mp member
    exact every part.1.family _ (List.mem_map_of_mem (List.mem_filter.mpr ⟨among, by simp⟩))
  · intro every family item member
    obtain ⟨part, among, rfl⟩ := List.mem_map.mp member
    exact every _ (List.of_mem_zip (List.mem_filter.mp among).1).2

theorem runPings_survey {clabName : Text} {verbose : Bool} {plane : List HostDataPlane}
    {transcript : List Exchange} {results : Results}
    (distinct : (plane.map fun host => host.host.name).Nodup)
    (ends : (runPings clabName verbose (hostPingGroups plane) Results.none).Ends transcript (.ok results)) :
    results = survey plane transcript := by
  obtain ⟨rightly, -, same⟩ := runPings_ends ends
  rw [Except.ok.inj same]
  funext family
  rw [foldl_record family]
  · rfl
  · intro family
    have keys : (((hostPingGroups plane).zip (processes transcript)).filter fun part =>
        part.1.family = family).map (fun part => part.1.key) =
        ((hostPingGroups plane).filter fun ping => ping.family = family).map Ping.key := by
      conv_rhs => rw [← List.map_fst_zip (Nat.le_of_eq rightly.length_eq), List.filter_map, List.map_map]
      rfl
    rw [keys]
    exact keys_nodup distinct family

theorem processes_print (transcript : List Exchange) (shown : Text) (answer : Answer) :
    processes (transcript ++ [(.print shown, answer)]) = processes transcript := by
  simp [Command.isRun]

theorem survey_print (plane : List HostDataPlane) (transcript : List Exchange) (shown : Text)
    (answer : Answer) : survey plane (transcript ++ [(.print shown, answer)]) = survey plane transcript := by
  rw [survey, processes_print, survey]

/-- A run pings from every host to every other one in both families, once each, prints the
matrix of the outcomes, and ends normally when every ping got through. Otherwise it names the
pings that did not, and outside the verbose mode it has reported as many failures. -/
theorem checkPlane_surveys {colors verbose : Bool} {clabName : Text} {plane : List HostDataPlane}
    {transcript : List Exchange} {result : Except Failure Unit}
    (hosts : plane ≠ []) (distinct : (plane.map fun host => host.host.name).Nodup)
    (ends : (checkPlane colors plane clabName verbose).Ends transcript result) :
    (hostPingGroups plane).Nodup ∧ (∀ ping, ping ∈ hostPingGroups plane ↔
      ping.src ∈ plane ∧ ping.dst ∈ plane ∧ ping.src.host ≠ ping.dst.host) ∧
    List.Forall₂ (fun ping exchange => exchange.1 = ping.command clabName verbose) (hostPingGroups plane)
      (processes transcript) ∧
    (∃ answer, (Command.print (connectivityMatrix colors plane (survey plane transcript)), answer)
      ∈ transcript) ∧
    recorded (statuses transcript) = ⟨(processes transcript).countP reached, 0,
      if verbose then 0 else (processes transcript).countP (!reached ·), 0⟩ ∧
    (result = .ok () ↔ ∀ exchange ∈ processes transcript, reached exchange = true) ∧
    (result ≠ .ok () → result = .error (.hostRoutingError (text "host routing failed: " ++
      join (text ", ") (failed (survey plane transcript))))) := by
  rcases ends_bind_iff.mp ends with ⟨results, before, after, rfl, pings, goes⟩ | ⟨error, -, fails⟩
  · obtain ⟨rightly, reports, -⟩ := runPings_ends pings
    obtain rfl := runPings_survey distinct pings
    rw [formatHostConnectivityMatrix, if_neg (by simpa using hosts)] at goes
    obtain ⟨answer, rest, rfl, ending⟩ := goes
    have nothing : rest = [] := by
      beta_reduce at ending
      split at ending <;> exact ending.1
    subst nothing
    have every := survey_reached rightly.length_eq
    rw [survey_print, processes_print]
    refine ⟨hostPingGroups_nodup distinct, fun _ => mem_hostPingGroups, rightly, ⟨answer, by simp⟩, ?_, ?_, ?_⟩
    · rw [statuses_append, reports, ← recorded_told]
      simp [Command.status]
    · rw [← every]
      beta_reduce at ending
      split at ending
      · next some => exact iff_of_false (fun same => by cases ending.2.symm.trans same) some
      · next none => exact iff_of_true ending.2 (not_not.mp none)
    · intro fails
      beta_reduce at ending
      split at ending
      · exact ending.2
      · exact absurd ending.2 fails
  · have same := (runPings_ends fails).2.2
    cases same

/-- The hosts of the lab, when no ping ends in time. -/
theorem checkPlane_surveys_silent :
    List.Forall₂ (fun ping exchange => exchange.1 = ping.command labName false) (hostPingGroups hostDataPlane)
      (processes ((runHostsCheck false labName false).run (fun _ _ => ⟨.timeoutExpired, 0⟩) []).2) := by
  have surveys := checkPlane_surveys (by decide) (by decide)
    (ends_run (fun _ _ => ⟨.timeoutExpired, 0⟩) (checkPlane false hostDataPlane labName false) [])
  exact surveys.2.2.1

end QuantumSafe.HostRouting
