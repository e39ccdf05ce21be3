import QuantumSafe.Cleanup
import QuantumSafe.CeosSession
import QuantumSafe.SyslogChecks
import QuantumSafe.TextLines

set_option autoImplicit false

/- The second half of `probe_syslog_delivery`: the logging hosts of a switch are taken out and
put back, while tcpdump waits on the collector for the ClientHello of the new session. -/
namespace QuantumSafe.SyslogWire

open PyText Interaction Interaction.Program DockerCalls LabSession CeosSession
open CeosContract (Ceos)
open LabContract (tlsPqcGroup)
open RenderTopo (IpFamily LabTargets)
open SyslogChecks (expectedSyslogHostLine expectedSyslogHostLines)
open TlsWire (CheckStatus)

def tlsKeyShareX25519 : Int := 29
def tlsKeyShareSecp256r1 : Int := 23
def tlsKeyShareX25519Mlkem768 : Int := 4588

def tlsKeyShareGroupName (groupId : Int) : Text :=
  if groupId = tlsKeyShareX25519 then text "x25519"
  else if groupId = tlsKeyShareSecp256r1 then text "secp256r1"
  else if groupId = tlsKeyShareX25519Mlkem768 then tlsPqcGroup
  else text "gid:" ++ intText groupId

def isPqcHybridKeyShareGroup (groupId : Int) : Bool := groupId == tlsKeyShareX25519Mlkem768

def tsharkClientHelloFilter (switchIp : Text) : Text :=
  if contains (text ":") switchIp then text "tls.handshake.type == 1 && ipv6.src == " ++ switchIp
  else text "tls.handshake.type == 1 && (ip.src == " ++ switchIp ++ text " || ipv6.src == ::ffff:" ++
    switchIp ++ text ")"

/-- The characters of Unicode 14 that are digits without being decimal. -/
def otherDigits : List (Nat × Nat) :=
  [(0xb2, 0xb3), (0xb9, 0xb9), (0x1369, 0x1371), (0x19da, 0x19da), (0x2070, 0x2070), (0x2074, 0x2079),
    (0x2080, 0x2089), (0x2460, 0x2468), (0x2474, 0x247c), (0x2488, 0x2490), (0x24ea, 0x24ea),
    (0x24f5, 0x24fd), (0x24ff, 0x24ff), (0x2776, 0x277e), (0x2780, 0x2788), (0x278a, 0x2792),
    (0x10a40, 0x10a43), (0x10e60, 0x10e68), (0x11052, 0x1105a), (0x1f100, 0x1f10a)]

/-- `str.isdigit` -/
def isdigit (s : Text) : Bool :=
  !s.isEmpty && s.all fun c =>
    PyInt.isDecimal c || otherDigits.any fun range => range.1 ≤ c.toNat && c.toNat ≤ range.2

section Bounce

variable (container : Text) (syslogIps : List Text)

/-- A line of `bounce_logging_hosts`. -/
def loggingHostLine (ip : Text) : Text :=
  text "logging vrf MGMT host " ++ ip ++ text " " ++ natText syslogPort ++
    text " protocol tls ssl-profile " ++ syslogSslProfile

/-- `enable`, `configure`, the lines, `end` -/
def configureWith (lines : List Text) : Text :=
  text "enable\nconfigure\n" ++ lines.flatMap (fun line => line ++ text "\n") ++ text "end\n"

def removeLines : List Text := syslogIps.map fun ip => text "no " ++ loggingHostLine ip

def addLines : List Text := syslogIps.map loggingHostLine

def bounceLoggingHosts : Check Unit :=
  (ceosCli container (configureWith (removeLines syslogIps))).bind fun _ =>
    (sleep 3).bind fun _ =>
      (ceosCli container (configureWith (addLines syslogIps))).bind fun _ => .done ()

end Bounce

def containerPcap : Text := text "/tmp/quantum-safe-syslog-kex.pcap"

def killCommand : Text := text "pkill -x tcpdump 2>/dev/null || true"

def startCommand (bpfFilter : Text) : Text :=
  killCommand ++ text "; rm -f " ++ containerPcap ++ text "; tcpdump -i eth0 -n -s 0 -w " ++ containerPcap ++
    text " " ++ bpfFilter ++ text " -Z root </dev/null >/dev/null 2>&1 & echo started"

def sizeCommand : Text := text "test -s " ++ containerPcap ++ text " && wc -c < " ++ containerPcap

def decodeCommand (switchIp : Text) : Text :=
  text "command -v tshark >/dev/null || apk add --no-cache tshark >/dev/null 2>&1; tshark -r " ++
    containerPcap ++ text " -Y '" ++ tsharkClientHelloFilter switchIp ++
    text "' -T fields -e tls.handshake.extensions_key_share_group 2>/dev/null | tail -1"

section Capture

variable (syslogContainer : Text)

def killTcpdump : Check Unit :=
  (runProcess (dockerSh syslogContainer killCommand) none).bind fun _ => .done ()

/-- The body of the `try`: half a second, the new sessions, and a while for their packets. -/
def bounced (bounce : Check Unit) (settleSec : ℚ) : Check Unit :=
  (sleep (1 / 2)).bind fun _ => bounce.bind fun _ => sleep settleSec

def usableSize (result : CompletedProcess) : Bool :=
  result.returncode == 0 &&
    match PyInt.parseInt (strip result.stdout) with
    | some size => decide (50 ≤ size)
    | none => false

/-- `_run_syslog_eth0_tcpdump_capture` -/
def runSyslogEth0TcpdumpCapture (bpfFilter : Text) (bounce : Check Unit) (settleSec : ℚ) : Check Bool :=
  (runProcess (dockerSh syslogContainer (startCommand bpfFilter)) none).bind fun start =>
    if start.returncode ≠ 0 then .done false
    else
      ((bounced bounce settleSec).ensure (killTcpdump syslogContainer)).bind fun _ =>
        (runProcess (dockerSh syslogContainer sizeCommand) none).bind fun size => .done (usableSize size)

/-- What the last line of tshark says. -/
def readGroup (decode : CompletedProcess) : Check (Option Int) :=
  if isdigit (strip decode.stdout) then
    match PyInt.parseInt (strip decode.stdout) with
    | some groupId => .done (some groupId)
    | none => .fail .valueError
  else .done none

def captureEosSyslogTlsKeyShareGroup (switchIp : Text) (bounce : Check Unit) (settleSec : ℚ) :
    Check (Option Int) :=
  (runSyslogEth0TcpdumpCapture syslogContainer
      (text "tcp port " ++ natText syslogPort ++ text " and host " ++ switchIp) bounce settleSec).bind
    fun pcapOk =>
      if !pcapOk then .done none
      else (runProcess (dockerSh syslogContainer (decodeCommand switchIp)) none).bind readGroup

/-- The loop over the attempts. -/
def negotiatedGroup (switchIp : Text) (bounce : Check Unit) : List Nat → Check (Option Int)
  | [] => .done none
  | attempt :: rest =>
      (captureEosSyslogTlsKeyShareGroup syslogContainer switchIp bounce (4 + attempt * 2)).bind fun
        | some groupId => .done (some groupId)
        | none => (sleep 1).bind fun _ => negotiatedGroup switchIp bounce rest

end Capture

def reportDelivered (node : LabNode) (family : IpFamily) (group : Option Int) : Check Unit :=
  let delivered := node.name ++ text " TLS syslog delivered (" ++ familyLabel family ++ text "), "
  match group with
  | some groupId =>
      if isPqcHybridKeyShareGroup groupId then
        reportLive (delivered ++ text "wire KEX " ++ tlsKeyShareGroupName groupId)
      else
        reportLive (delivered ++ text "not PQC-safe, TLS 1.3 compliant — wire KEX " ++
          tlsKeyShareGroupName groupId) .warn
  | none =>
      reportLive (delivered ++ text "not PQC-safe, TLS 1.3 compliant — wire KEX not verified") .warn

/-- `syslog_ips` -/
def syslogIps (targets : LabTargets) : List Text := [targets.mgmtIps .syslog, targets.mgmtIps6 .syslog]

/-- `probe_syslog_delivery` after the delivery itself. -/
def probeWire (targets : LabTargets) (node : Ceos) (family : IpFamily) : Check Unit :=
  (negotiatedGroup (containerAt targets .syslog) (targets.ceosMgmtIp node family)
      (bounceLoggingHosts (containerAt targets node.node) (syslogIps targets)) [0, 1]).bind
    (reportDelivered node.node family)

/- What the switch makes of a session -/

/-- The lines of a configuration session, from `enable` and `configure` to `end`. -/
def sessionLines (commands : Text) : Option (List Text) :=
  match commands.splitOn '\n' with
  | first :: second :: rest =>
      if first = text "enable" ∧ second = text "configure" then some (rest.takeWhile (· ≠ text "end"))
      else none
  | _ => none

/-- A line is added, or taken out when it starts with `no`. -/
def entered (configured : Text → Prop) (line other : Text) : Prop :=
  if (text "no ").isPrefixOf line then configured other ∧ text "no " ++ other ≠ line
  else configured other ∨ other = line

section Switch

variable {World : Type}

def ConfigSession (container commands : Text) (lines : List Text) (command : Command) : Prop :=
  command = .run (cliArgv container) (some commands) none ∧ sessionLines commands = some lines

/-- The configuration of a switch changes in the sessions on it only, and a session that
succeeds has entered its lines. -/
structure Configures (meets : World → Command → Answer → World → Prop) (container : Text)
    (configured : World → Text → Prop) : Prop where
  session : ∀ {world command answer next commands lines}, ConfigSession container commands lines command →
    meets world command answer next → Succeeded (command, answer) →
    ∀ line, configured next line ↔ lines.foldl entered (configured world) line
  others : ∀ {world command answer next}, meets world command answer next →
    (∀ commands lines, ¬ ConfigSession container commands lines command) →
    ∀ line, configured next line ↔ configured world line

/-- A session that did not succeed. -/
def BrokenSession (container : Text) (exchange : Exchange) : Prop :=
  (∃ commands lines, ConfigSession container commands lines exchange.1) ∧ ¬ Succeeded exchange

/-- Some line configures this logging host. -/
def HostLine (syslogIps : List Text) (line : Text) : Prop :=
  ∃ ip ∈ syslogIps, line = expectedSyslogHostLine ip

/-- The configuration is the one before, or that one with the logging hosts, which are put back
whether or not they were there. -/
def Restores (syslogIps : List Text) (configured : World → Text → Prop) (world final : World) : Prop :=
  (∀ line, configured final line ↔ configured world line) ∨
    ∀ line, configured final line ↔ configured world line ∨ HostLine syslogIps line

/-- Where the logging hosts were configured, the configuration is the one before. -/
theorem Restores.same {syslogIps : List Text} {configured : World → Text → Prop} {world final : World}
    (restores : Restores syslogIps configured world final)
    (hosts : ∀ ip ∈ syslogIps, configured world (expectedSyslogHostLine ip)) (line : Text) :
    configured final line ↔ configured world line := by
  rcases restores with same | added
  · exact same line
  · refine (added line).trans (or_iff_left_of_imp ?_)
    rintro ⟨ip, member, rfl⟩
    exact hosts ip member

end Switch

theorem foldl_removeLines {syslogIps : List Text} {configured : Text → Prop} {line : Text} :
    (removeLines syslogIps).foldl entered configured line ↔
      configured line ∧ ∀ ip ∈ syslogIps, line ≠ expectedSyslogHostLine ip := by
  induction syslogIps generalizing configured with
  | nil => simp [removeLines]
  | cons ip rest ih =>
      rw [removeLines, List.map_cons, List.foldl_cons]
      refine ih.trans ?_
      have removed : entered configured (text "no " ++ loggingHostLine ip) line ↔
          configured line ∧ line ≠ expectedSyslogHostLine ip := by
        rw [entered, if_pos (List.isPrefixOf_iff_prefix.mpr (List.prefix_append _ _))]
        exact and_congr_right fun _ => not_congr (List.append_right_inj _)
      rw [removed, List.forall_mem_cons, and_assoc]

theorem foldl_addLines {syslogIps : List Text} {configured : Text → Prop} {line : Text} :
    (addLines syslogIps).foldl entered configured line ↔
      configured line ∨ ∃ ip ∈ syslogIps, line = expectedSyslogHostLine ip := by
  induction syslogIps generalizing configured with
  | nil => simp [addLines]
  | cons ip rest ih =>
      rw [addLines, List.map_cons, List.foldl_cons]
      refine ih.trans ?_
      have added : entered configured (loggingHostLine ip) line ↔
          configured line ∨ line = expectedSyslogHostLine ip := Iff.rfl
      rw [added, or_assoc, List.exists_mem_cons_iff]

theorem splitOn_flatMap {lines : List Text} (plain : ∀ line ∈ lines, '\n' ∉ line) (rest : Text) :
    (lines.flatMap (fun line => line ++ text "\n") ++ rest).splitOn '\n' = lines ++ rest.splitOn '\n' := by
  induction lines with
  | nil => rfl
  | cons line others ih =>
      obtain ⟨first, later⟩ := List.forall_mem_cons.mp plain
      have shape : (line :: others).flatMap (fun line => line ++ text "\n") ++ rest =
          line ++ '\n' :: (others.flatMap (fun line => line ++ text "\n") ++ rest) := by
        rw [List.flatMap_cons, List.append_assoc, List.append_assoc]
        rfl
      rw [shape, splitOn_append_cons first, ih later]
      rfl

theorem sessionLines_configureWith {lines : List Text} (plain : ∀ line ∈ lines, '\n' ∉ line)
    (other : ∀ line ∈ lines, line ≠ text "end") : sessionLines (configureWith lines) = some lines := by
  have pieces : (configureWith lines).splitOn '\n' =
      text "enable" :: text "configure" :: (lines ++ [text "end", []]) := by
    have shape : configureWith lines = text "enable" ++ '\n' :: (text "configure" ++ '\n' ::
        (lines.flatMap (fun line => line ++ text "\n") ++ text "end\n")) := by
      rw [configureWith, List.append_assoc]
      rfl
    rw [shape, splitOn_append_cons (by decide), splitOn_append_cons (by decide), splitOn_flatMap plain]
    rfl
  have ended : (lines ++ [text "end", []]).takeWhile (fun line => decide (line ≠ text "end")) = lines := by
    rw [List.takeWhile_append_of_pos fun line member => by simp [other line member]]
    simp
  rw [sessionLines, pieces]
  simp only [and_self, if_true, ended]

theorem notMem_loggingHostLine {ip : Text} (plain : '\n' ∉ ip) : '\n' ∉ loggingHostLine ip := by
  have fixed : '\n' ∉ text "logging vrf MGMT host " ∧ '\n' ∉ text " " ++ natText syslogPort ++
      text " protocol tls ssl-profile " ++ syslogSslProfile := by decide +kernel
  have shape : loggingHostLine ip = text "logging vrf MGMT host " ++ (ip ++ (text " " ++
      natText syslogPort ++ text " protocol tls ssl-profile " ++ syslogSslProfile)) := by
    simp [loggingHostLine]
  rw [shape, List.mem_append, List.mem_append]
  rintro (inside | inside | inside)
  · exact fixed.1 inside
  · exact plain inside
  · exact fixed.2 inside

theorem sessionLines_remove {syslogIps : List Text} (plain : ∀ ip ∈ syslogIps, '\n' ∉ ip) :
    sessionLines (configureWith (removeLines syslogIps)) = some (removeLines syslogIps) := by
  apply sessionLines_configureWith
  · intro line member
    obtain ⟨ip, among, rfl⟩ := List.mem_map.mp member
    intro inside
    rcases List.mem_append.mp inside with early | late
    · exact absurd early (by decide)
    · exact notMem_loggingHostLine (plain ip among) late
  · intro line member same
    obtain ⟨ip, -, rfl⟩ := List.mem_map.mp member
    cases same

theorem sessionLines_add {syslogIps : List Text} (plain : ∀ ip ∈ syslogIps, '\n' ∉ ip) :
    sessionLines (configureWith (addLines syslogIps)) = some (addLines syslogIps) := by
  apply sessionLines_configureWith
  · intro line member
    obtain ⟨ip, among, rfl⟩ := List.mem_map.mp member
    exact notMem_loggingHostLine (plain ip among)
  · intro line member same
    obtain ⟨ip, -, rfl⟩ := List.mem_map.mp member
    cases same

section Restoring

variable {World : Type} {meets : World → Command → Answer → World → Prop} {container : Text}
variable {configured : World → Text → Prop} {syslogIps : List Text}

theorem restores_refl (world : World) : Restores syslogIps configured world world :=
  Or.inl fun _ => Iff.rfl

theorem restores_trans {first second third : World} (early : Restores syslogIps configured first second)
    (late : Restores syslogIps configured second third) : Restores syslogIps configured first third := by
  rcases early with same | added
  · exact late.imp (fun still line => (still line).trans (same line))
      fun more line => (more line).trans (or_congr_left (same line))
  · refine Or.inr fun line => ?_
    rcases late with still | more
    · exact (still line).trans (added line)
    · rw [more line, added line, or_assoc, or_self]

/-- Everything but a session on the switch. -/
theorem Configures.restores (manages : Configures meets container configured) {world next : World}
    {command : Command} {answer : Answer} (met : meets world command answer next)
    (other : ∀ commands lines, ¬ ConfigSession container commands lines command) :
    Restores syslogIps configured world next := Or.inl (manages.others met other)

/-- The hosts are out after the first session and back after the second one. -/
theorem preserves_bounce (manages : Configures meets container configured)
    (plain : ∀ ip ∈ syslogIps, '\n' ∉ ip) :
    Preserves meets (Restores syslogIps configured) (BrokenSession container)
      (bounceLoggingHosts container syslogIps) := by
  intro world transcript final result ends met
  have remove := sessionLines_remove plain
  have add := sessionLines_add plain
  rcases ends_bind_iff.mp ends with ⟨shown, before, after, rfl, takes, goes⟩ | ⟨error, rfl, fails⟩
  · obtain ⟨answer, rfl, ⟨process, ended, zero, -⟩ | ⟨-, error, same⟩⟩ := ceosCli_ends takes
    · obtain ⟨slept, rest, rfl, adds⟩ := goes
      simp only [done_bind] at adds
      obtain ⟨without, removed, paused, sleeps, still⟩ := met
      have out := manages.session ⟨rfl, remove⟩ removed ⟨process, ended, zero⟩
      have idle := manages.others sleeps fun commands lines session => by cases session.1
      rcases ends_bind_iff.mp adds with ⟨_, front, back, rfl, puts, rfl, -⟩ | ⟨error, rfl, fails⟩
      · obtain ⟨answer', rfl, ⟨process', ended', zero', -⟩ | ⟨-, error, same⟩⟩ := ceosCli_ends puts
        · obtain ⟨last, added, rfl⟩ := still
          have back := manages.session ⟨rfl, add⟩ added ⟨process', ended', zero'⟩
          refine Or.inl (Or.inr fun line => ?_)
          rw [back, foldl_addLines, idle, out, foldl_removeLines]
          constructor
          · exact Or.imp_left And.left
          · rintro (was | host)
            · by_cases host : HostLine syslogIps line
              · exact Or.inr host
              · exact Or.inl ⟨was, fun ip member same => host ⟨ip, member, same⟩⟩
            · exact Or.inr host
        · cases same
      · obtain ⟨answer', rfl, ⟨process', -, -, same⟩ | ⟨failed, -⟩⟩ := ceosCli_ends fails
        · cases same
        · exact Or.inr ⟨⟨error, rfl⟩, _, by simp, ⟨_, _, rfl, add⟩, failed⟩
    · cases same
  · obtain ⟨answer, rfl, ⟨process, -, -, same⟩ | ⟨failed, -⟩⟩ := ceosCli_ends fails
    · cases same
    · exact Or.inr ⟨⟨error, rfl⟩, _, by simp, ⟨_, _, rfl, remove⟩, failed⟩

/-- A run, however it ends, leaves the switch with its logging hosts, or a session broke. -/
abbrev Tidy {Value : Type} (meets : World → Command → Answer → World → Prop) (container : Text)
    (configured : World → Text → Prop) (syslogIps : List Text) (check : Check Value) : Prop :=
  Preserves meets (Restores syslogIps configured) (BrokenSession container) check

section Steps

variable {Value Result : Type}

theorem tidy_done (value : Value) : Tidy meets container configured syslogIps (.done value) :=
  Preserves.done restores_refl value

theorem tidy_fail (error : Raised) :
    Tidy meets container configured syslogIps (.fail error : Check Value) :=
  Preserves.fail restores_refl error

theorem tidy_bind {first : Check Value} {rest : Value → Check Result}
    (begins : Tidy meets container configured syslogIps first)
    (goes : ∀ value, Tidy meets container configured syslogIps (rest value)) :
    Tidy meets container configured syslogIps (first.bind rest) :=
  begins.bind restores_trans goes

theorem tidy_runProcess (manages : Configures meets container configured) {argv : List Text}
    (other : argv ≠ cliArgv container) (input : Option Text) :
    Tidy meets container configured syslogIps (runProcess argv input) := by
  refine Preserves.ask restores_trans (fun met => manages.restores met ?_) ?_
  · intro commands lines session
    cases session.1
    exact other rfl
  · intro answer
    simp only [done_bind]
    split
    · exact tidy_done _
    · exact tidy_fail _

theorem tidy_sleep (manages : Configures meets container configured) (seconds : ℚ) :
    Tidy meets container configured syslogIps (sleep seconds : Check Unit) :=
  Preserves.ask restores_trans
    (fun met => manages.restores met fun commands lines session => by cases session.1)
    fun _ => tidy_done ()

theorem tidy_reportLive (manages : Configures meets container configured) (detail : Text)
    (status : CheckStatus) : Tidy meets container configured syslogIps (reportLive detail status) :=
  Preserves.ask restores_trans
    (fun met => manages.restores met fun commands lines session => by cases session.1)
    fun _ => tidy_done ()

theorem dockerSh_ne_cliArgv (other command : Text) : dockerSh other command ≠ cliArgv container := by
  intro same
  cases congrArg List.length same

end Steps

variable {syslogContainer : Text}

theorem tidy_capture (manages : Configures meets container configured) {bpfFilter : Text}
    {bounce : Check Unit} {settleSec : ℚ} (bounces : Tidy meets container configured syslogIps bounce) :
    Tidy meets container configured syslogIps
      (runSyslogEth0TcpdumpCapture syslogContainer bpfFilter bounce settleSec) := by
  have process : ∀ command, Tidy meets container configured syslogIps
      (runProcess (dockerSh syslogContainer command) none) :=
    fun command => tidy_runProcess manages (dockerSh_ne_cliArgv _ _) none
  refine tidy_bind (process _) fun start => ?_
  split
  · exact tidy_done false
  · refine tidy_bind ?_ fun _ => tidy_bind (process _) fun size => tidy_done _
    refine Preserves.ensure restores_trans ?_ (tidy_bind (process _) fun _ => tidy_done ())
    exact tidy_bind (tidy_sleep manages _) fun _ => tidy_bind bounces fun _ => tidy_sleep manages _

theorem tidy_keyShareGroup (manages : Configures meets container configured) {switchIp : Text}
    {bounce : Check Unit} {settleSec : ℚ} (bounces : Tidy meets container configured syslogIps bounce) :
    Tidy meets container configured syslogIps
      (captureEosSyslogTlsKeyShareGroup syslogContainer switchIp bounce settleSec) := by
  refine tidy_bind (tidy_capture manages bounces) fun pcapOk => ?_
  split
  · exact tidy_done none
  · refine tidy_bind (tidy_runProcess manages (dockerSh_ne_cliArgv _ _) none) fun decode => ?_
    unfold readGroup
    split
    · split
      · exact tidy_done _
      · exact tidy_fail _
    · exact tidy_done none

theorem tidy_negotiatedGroup (manages : Configures meets container configured) {switchIp : Text}
    {bounce : Check Unit} (bounces : Tidy meets container configured syslogIps bounce)
    (attempts : List Nat) :
    Tidy meets container configured syslogIps
      (negotiatedGroup syslogContainer switchIp bounce attempts) := by
  induction attempts with
  | nil => exact tidy_done none
  | cons attempt rest ih =>
      refine tidy_bind (tidy_keyShareGroup manages bounces) fun group => ?_
      cases group with
      | some groupId => exact tidy_done _
      | none => exact tidy_bind (tidy_sleep manages 1) fun _ => ih

theorem tidy_reportDelivered (manages : Configures meets container configured) (node : LabNode)
    (family : IpFamily) (group : Option Int) :
    Tidy meets container configured syslogIps (reportDelivered node family group) := by
  cases group with
  | none => exact tidy_reportLive manages _ _
  | some groupId =>
      unfold reportDelivered
      dsimp only
      split <;> exact tidy_reportLive manages _ _

end Restoring

section Stopped

variable {syslogContainer container : Text} {syslogIps : List Text}

/-- A capture that has been started. -/
def Starts (syslogContainer : Text) (exchange : Exchange) : Prop :=
  (∃ bpfFilter, exchange.1 = .run (dockerSh syslogContainer (startCommand bpfFilter)) none none) ∧
    Succeeded exchange

def Stops (syslogContainer : Text) (exchange : Exchange) : Prop :=
  exchange.1 = .run (dockerSh syslogContainer killCommand) none none

/-- Not the start of a capture. -/
def Starting (syslogContainer : Text) (command : Command) : Prop :=
  ∃ bpfFilter, command = .run (dockerSh syslogContainer (startCommand bpfFilter)) none none

abbrev Idle {Value : Type} (syslogContainer : Text) (check : Check Value) : Prop :=
  check.Within (fun command => ¬ Starting syslogContainer command) fun _ => True

theorem idle_runProcess {argv : List Text}
    (other : ∀ bpfFilter, argv ≠ dockerSh syslogContainer (startCommand bpfFilter)) (input : Option Text) :
    Idle syslogContainer (runProcess argv input) := by
  refine ⟨?_, fun answer => ?_⟩
  · rintro ⟨bpfFilter, same⟩
    exact other bpfFilter (Command.run.inj same).1
  · simp only [done_bind]
    split <;> exact trivial

theorem idle_sleep (seconds : ℚ) : Idle syslogContainer (sleep seconds : Check Unit) :=
  ⟨fun starting => starting.elim fun _ same => Command.noConfusion same, fun _ => trivial⟩

theorem idle_reportLive (detail : Text) (status : CheckStatus) :
    Idle syslogContainer (reportLive detail status) :=
  ⟨fun starting => starting.elim fun _ same => Command.noConfusion same, fun _ => trivial⟩

theorem idle_ceosCli (commands : Text) : Idle syslogContainer (ceosCli container commands) := by
  refine (idle_runProcess (fun _ same => ?_) _).bind fun result => ?_
  · cases congrArg List.length same
  · split <;> exact trivial

theorem idle_bounce : Idle syslogContainer (bounceLoggingHosts container syslogIps) :=
  (idle_ceosCli _).bind fun _ => (idle_sleep 3).bind fun _ => (idle_ceosCli _).bind fun _ => trivial

theorem dockerSh_ne_start {command : Text} (other : ∀ bpfFilter, command ≠ startCommand bpfFilter)
    (bpfFilter : Text) : dockerSh syslogContainer command ≠ dockerSh syslogContainer (startCommand bpfFilter) := by
  intro same
  simp only [dockerSh, List.cons.injEq, and_true, true_and] at same
  exact other bpfFilter same

theorem killCommand_ne_start (bpfFilter : Text) : killCommand ≠ startCommand bpfFilter := by
  intro same
  have shape : startCommand bpfFilter = killCommand ++ ';' :: (startCommand bpfFilter).drop 37 := rfl
  have longer := congrArg List.length (same.trans shape)
  rw [List.length_append, List.length_cons] at longer
  omega

theorem idle_kill : Idle syslogContainer (killTcpdump syslogContainer) :=
  (idle_runProcess (dockerSh_ne_start killCommand_ne_start) none).bind fun _ => trivial

theorem killTcpdump_ends {transcript : List Exchange} {result : Except Raised Unit}
    (ends : (killTcpdump syslogContainer).Ends transcript result) :
    ∃ exchange ∈ transcript, Stops syslogContainer exchange := by
  rcases ends_bind_iff.mp ends with ⟨process, before, after, rfl, runs, -⟩ | ⟨error, -, fails⟩
  · obtain ⟨answer, rfl, -⟩ := runProcess_ends runs
    exact ⟨_, List.mem_append_left _ List.mem_cons_self, rfl⟩
  · obtain ⟨answer, rfl, -⟩ := runProcess_ends fails
    exact ⟨_, List.mem_cons_self, rfl⟩

theorem releases_of_idle {Value : Type} {check : Check Value} (idle : Idle syslogContainer check) :
    Releases (Starts syslogContainer) (Stops syslogContainer) check :=
  Releases.of_within idle fun _ _ other started => other started.1

/-- A bounce in a capture: tcpdump is stopped behind it, whatever the bounce does. -/
theorem bounced_stops {bounce : Check Unit} {settleSec : ℚ} {transcript : List Exchange}
    {result : Except Raised Unit}
    (ends : ((bounced bounce settleSec).ensure (killTcpdump syslogContainer)).Ends transcript result) :
    ∃ exchange ∈ transcript, Stops syslogContainer exchange := by
  obtain ⟨before, after, inner, rfl, -, ⟨cleaned, -⟩ | ⟨error, cleaned, -⟩⟩ := ends_ensure ends
  · obtain ⟨exchange, member, stops⟩ := killTcpdump_ends cleaned
    exact ⟨exchange, List.mem_append_right _ member, stops⟩
  · obtain ⟨exchange, member, stops⟩ := killTcpdump_ends cleaned
    exact ⟨exchange, List.mem_append_right _ member, stops⟩

theorem sizeCommand_ne_start (bpfFilter : Text) : sizeCommand ≠ startCommand bpfFilter := by
  intro same
  cases congrArg List.head? same

theorem decodeCommand_ne_start (switchIp bpfFilter : Text) : decodeCommand switchIp ≠ startCommand bpfFilter := by
  intro same
  cases congrArg List.head? same

theorem idle_bounced {bounce : Check Unit} {settleSec : ℚ} (idle : Idle syslogContainer bounce) :
    Idle syslogContainer ((bounced bounce settleSec).ensure (killTcpdump syslogContainer)) :=
  Within.ensure ((idle_sleep _).bind fun _ => idle.bind fun _ => idle_sleep _) idle_kill

theorem releases_capture {bpfFilter : Text} {bounce : Check Unit} {settleSec : ℚ}
    (idle : Idle syslogContainer bounce) :
    Releases (Starts syslogContainer) (Stops syslogContainer)
      (runSyslogEth0TcpdumpCapture syslogContainer bpfFilter bounce settleSec) := by
  intro transcript result ends
  have failing : ∀ {exchange : Exchange}, ¬ Succeeded exchange →
      Released (Starts syslogContainer) (Stops syslogContainer) [exchange] := by
    intro exchange failed
    apply released_of_none
    intro other member started
    obtain rfl := List.mem_singleton.mp member
    exact failed started.2
  rcases ends_bind_iff.mp ends with ⟨start, before, after, rfl, runs, goes⟩ | ⟨error, -, fails⟩
  · obtain ⟨answer, rfl, ⟨process, ended, given⟩ | ⟨-, given⟩⟩ := runProcess_ends runs
    · obtain rfl := Except.ok.inj given
      split at goes
      · rename_i failed
        obtain ⟨rfl, -⟩ := goes
        apply failing
        rintro ⟨other, completed, zero⟩
        cases ended.symm.trans completed
        exact failed zero
      · have sizes : ∀ value : Unit, Idle syslogContainer
            ((runProcess (dockerSh syslogContainer sizeCommand) none).bind fun size =>
              .done (usableSize size)) :=
          fun _ => (idle_runProcess (dockerSh_ne_start sizeCommand_ne_start) none).bind fun _ => trivial
        apply released_cons
        · intro _
          rcases ends_bind_iff.mp goes with ⟨_, front, back, rfl, complete, -⟩ | ⟨error, -, fails⟩
          · obtain ⟨exchange, member, stops⟩ := bounced_stops complete
            exact ⟨exchange, by simp [member], stops⟩
          · exact bounced_stops fails
        · exact releases_of_idle ((idle_bounced idle).bind sizes) goes
    · cases given
  · obtain ⟨answer, rfl, ⟨process, -, given⟩ | ⟨late, -⟩⟩ := runProcess_ends fails
    · cases given
    · apply failing
      rintro ⟨other, completed, -⟩
      cases late.symm.trans completed

theorem releases_negotiatedGroup {switchIp : Text} {bounce : Check Unit}
    (idle : Idle syslogContainer bounce) (attempts : List Nat) :
    Releases (Starts syslogContainer) (Stops syslogContainer)
      (negotiatedGroup syslogContainer switchIp bounce attempts) := by
  have decodes : Idle syslogContainer
      ((runProcess (dockerSh syslogContainer (decodeCommand switchIp)) none).bind readGroup) := by
    refine (idle_runProcess (dockerSh_ne_start (decodeCommand_ne_start switchIp)) none).bind fun decode => ?_
    unfold readGroup
    split
    · split <;> exact trivial
    · exact trivial
  induction attempts with
  | nil => exact releases_of_idle trivial
  | cons attempt rest ih =>
      refine Releases.bind ((releases_capture idle).bind fun pcapOk => ?_) fun group => ?_
      · split
        · exact releases_of_idle trivial
        · exact releases_of_idle decodes
      · cases group with
        | some groupId => exact releases_of_idle trivial
        | none => exact (releases_of_idle (idle_sleep 1)).bind fun _ => ih

theorem idle_reportDelivered (node : LabNode) (family : IpFamily) (group : Option Int) :
    Idle syslogContainer (reportDelivered node family group) := by
  cases group with
  | none => exact idle_reportLive _ _
  | some groupId =>
      unfold reportDelivered
      dsimp only
      split <;> exact idle_reportLive _ _

end Stopped

section Probe

variable {World : Type} {meets : World → Command → Answer → World → Prop}
variable {configured : World → Text → Prop}

/-- The probe takes the logging hosts of a switch out and puts them back. A run keeps every line
of the configuration and adds at most these hosts, so where they were configured it leaves it as it
found it; or one of its sessions on the switch did not succeed and the run failed. Every capture
that it starts on the collector is stopped in any case. -/
theorem probeWire_restores {targets : LabTargets} {node : Ceos} {family : IpFamily}
    (manages : Configures meets (containerAt targets node.node) configured)
    (plain : ∀ ip ∈ syslogIps targets, '\n' ∉ ip) {world final : World}
    {transcript : List Exchange} {result : Except Raised Unit}
    (ends : (probeWire targets node family).Ends transcript result)
    (met : Through meets world transcript final) :
    ((Restores (syslogIps targets) configured world final ∧
        ((∀ ip ∈ syslogIps targets, configured world (expectedSyslogHostLine ip)) →
          ∀ line, configured final line ↔ configured world line)) ∨
      (∃ error, result = .error error) ∧
        ∃ exchange ∈ transcript, BrokenSession (containerAt targets node.node) exchange) ∧
    Released (Starts (containerAt targets .syslog)) (Stops (containerAt targets .syslog)) transcript := by
  have bounces := preserves_bounce manages plain
  have tidy : Tidy meets (containerAt targets node.node) configured (syslogIps targets)
      (probeWire targets node family) :=
    tidy_bind (tidy_negotiatedGroup manages bounces [0, 1]) (tidy_reportDelivered manages node.node family)
  refine ⟨(tidy ends met).imp_left fun kept => ⟨kept, kept.same⟩, ?_⟩
  exact (releases_negotiatedGroup idle_bounce [0, 1]).bind
    (fun group => releases_of_idle (idle_reportDelivered node.node family group)) ends

/-- A switch whose sessions all succeed, and processes that print nothing. -/
def obeys (container : Text) (configured : Text → Prop) : Command → Answer × (Text → Prop)
  | .run argv (some commands) none =>
      (⟨.completed ⟨0, [], []⟩, 0⟩,
        if argv = cliArgv container then ((sessionLines commands).getD []).foldl entered configured
        else configured)
  | _ => (⟨.completed ⟨0, [], []⟩, 0⟩, configured)

theorem obeys_configures (container : Text) :
    Configures (fun world command answer next => obeys container world command = (answer, next)) container
      id where
  session := by
    rintro world command answer next commands lines ⟨rfl, read⟩ met - line
    obtain ⟨-, rfl⟩ := Prod.mk.inj met
    rw [if_pos rfl, read]
    rfl
  others := by
    intro world command answer next met other line
    obtain rfl : (obeys container world command).2 = next := congrArg Prod.snd met
    unfold obeys
    split
    · rename_i argv commands
      split
      · rename_i same
        cases read : sessionLines commands with
        | none => exact Iff.rfl
        | some lines => exact absurd ⟨by rw [same], read⟩ (other commands lines)
      · exact Iff.rfl
    · exact Iff.rfl

theorem obeys_succeeds {container : Text} {world next : Text → Prop} {command : Command} {answer : Answer}
    (met : obeys container world command = (answer, next)) : Succeeded (command, answer) := by
  unfold obeys at met
  split at met <;>
    · obtain ⟨rfl, -⟩ := Prod.mk.inj met
      exact ⟨⟨0, [], []⟩, rfl, rfl⟩

def exampleTargets : LabTargets where
  clabName := []
  mgmtIps := fun _ => text "172.20.127.22"
  mgmtIps6 := fun _ => text "2001:db8:127::22"
  ceosIps := fun _ => text "172.20.127.11"
  ceosIps6 := fun _ => text "2001:db8:127::11"

/-- A switch with nothing but its two logging hosts has them again. -/
theorem probeWire_restores_obeys :
    (∀ line, ((probeWire exampleTargets .ceos1Both .ipv4).live
        (obeys (containerAt exampleTargets Ceos.ceos1Both.node))
        (· ∈ addLines (syslogIps exampleTargets))).2.2 line ↔ line ∈ addLines (syslogIps exampleTargets)) ∧
      Released (Starts (containerAt exampleTargets .syslog)) (Stops (containerAt exampleTargets .syslog))
        ((probeWire exampleTargets .ceos1Both .ipv4).live
          (obeys (containerAt exampleTargets Ceos.ceos1Both.node))
          (· ∈ addLines (syslogIps exampleTargets))).2.1 := by
  have met := @through_live _ _ _ _ _ (fun world command answer next =>
      obeys (containerAt exampleTargets Ceos.ceos1Both.node) world command = (answer, next)) _
    (fun _ _ => rfl) (probeWire exampleTargets .ceos1Both .ipv4) (· ∈ addLines (syslogIps exampleTargets))
  obtain ⟨ended, released⟩ := probeWire_restores (obeys_configures _) (by decide) (ends_live _ _ _) met
  refine ⟨?_, released⟩
  rcases ended with ⟨-, same⟩ | ⟨-, exchange, member, -, failed⟩
  · exact same fun ip inside => List.mem_map_of_mem inside
  · obtain ⟨before, after, step⟩ := through_mem met member
    exact absurd (obeys_succeeds step) failed

end Probe

end QuantumSafe.SyslogWire
