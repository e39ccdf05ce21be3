import QuantumSafe.InstallQuadra

set_option autoImplicit false

/- Runs of `install_quadra`: what a complete run has seen on every switch, where a failing
one stops, and what a second run does to switches that answer truthfully. -/
namespace QuantumSafe.InstallQuadra

open PyText Interaction Interaction.Program DockerCalls LabContract CeosContract
open PyRegex (WordClass)

theorem subprocessRun_ok {command : Command} {transcript : List (Command × Outcome)}
    {process : CompletedProcess} (ends : (subprocessRun command).Ends transcript (.ok process)) :
    transcript = [(command, .completed process)] := by
  obtain ⟨answer, rest, rfl, ends⟩ := ends
  cases answer with
  | completed other =>
      obtain ⟨rfl, same⟩ := ends
      rw [Except.ok.inj same]
  | timeoutExpired => cases ends.2

/-- What an answer says about the extension. -/
def extensionReport [WordClass] (swix : Text) : Command × Outcome → Option Bool
  | (.cli _ commands, .completed process) =>
      if (commands = showExtensions ∨ commands = installCommands swix) ∧ process.returncode = 0 then
        some (extensionInstalled process.stdout swix)
      else none
  | _ => none

/-- What an answer says about the daemon. -/
def daemonReport : Command × Outcome → Option Bool
  | (.cli _ commands, .completed process) =>
      if (commands = showDaemon ∨ commands = startDaemon) ∧ process.returncode = 0 then
        some (daemonRunning process.stdout)
      else none
  | _ => none

/-- What a transcript says about one of them, in order. -/
def reports (report : Command × Outcome → Option Bool) (transcript : List (Command × Outcome)) :
    List Bool :=
  transcript.filterMap report

@[simp] theorem reports_nil (report : Command × Outcome → Option Bool) : reports report [] = [] := rfl

@[simp] theorem reports_cons (report : Command × Outcome → Option Bool) (exchange : Command × Outcome)
    (rest : List (Command × Outcome)) :
    reports report (exchange :: rest) = (report exchange).toList ++ reports report rest := by
  cases told : report exchange <;> simp [reports, told]

/-- The commands that only look. -/
def Command.Looks : Command → Prop
  | .inspect _ => True
  | .cli _ commands => commands = showExtensions ∨ commands = showDaemon
  | .copy _ _ _ => False

theorem installCommands_at (swix : Text) : (installCommands swix)[9]? = some 'p' := rfl

theorem installCommands_ne {swix other : Text} (differs : other[9]? ≠ some 'p') :
    installCommands swix ≠ other := by
  intro same
  exact differs (by rw [← same]; exact installCommands_at swix)

/-- A switch that has been dealt with: each transcript shows the extension and the daemon as they
are in the end, and changes are made only where the first look finds them missing. -/
structure NodeDone [WordClass] (clabName swixPath node : Text) (part : List (Command × Outcome)) : Prop where
  own : ∀ exchange ∈ part, exchange.1.container = containerOf clabName node
  installed : (reports (extensionReport (swixName swixPath)) part).getLast? = some true
  running : (reports daemonReport part).getLast? = some true
  installs : (∃ exchange ∈ part, exchange.1 = .cli (containerOf clabName node)
    (installCommands (swixName swixPath))) ↔
      (reports (extensionReport (swixName swixPath)) part).head? = some false
  starts : (∃ exchange ∈ part, exchange.1 = .cli (containerOf clabName node) startDaemon) ↔
    (reports daemonReport part).head? = some false

theorem enableDaemon_ok {container node : Text} {transcript : List (Command × Outcome)}
    (ends : (enableDaemon container node).Ends transcript (.ok ())) :
    ∃ shown : CompletedProcess, shown.returncode = 0 ∧
      ((daemonRunning shown.stdout = true ∧
          transcript = [(.cli container showDaemon, .completed shown)]) ∨
        ∃ start : CompletedProcess, start.returncode = 0 ∧ daemonRunning shown.stdout = false ∧
          daemonRunning start.stdout = true ∧
          transcript = [(.cli container showDaemon, .completed shown),
            (.cli container startDaemon, .completed start)]) := by
  obtain ⟨shown, before, after, rfl, looked, goes⟩ := ends_bind_ok ends
  obtain rfl := subprocessRun_ok looked
  split at goes
  · cases goes.2
  · rename_i exit
    refine ⟨shown, not_not.mp exit, ?_⟩
    split at goes
    · rename_i running
      obtain rfl := goes.1
      exact Or.inl ⟨running, rfl⟩
    · rename_i stopped
      obtain ⟨start, before, after, rfl, started, checks⟩ := ends_bind_ok goes
      obtain rfl := subprocessRun_ok started
      split at checks
      · cases checks.2
      · rename_i startExit
        split at checks
        · cases checks.2
        · rename_i up
          obtain rfl := checks.1
          exact Or.inr ⟨start, not_not.mp startExit, by simpa using stopped, by simpa using up, rfl⟩

theorem containerRunning_ok {name : Text} {transcript : List (Command × Outcome)} {answer : Bool}
    (ends : (containerRunning name).Ends transcript (.ok answer)) :
    ∃ inspected : CompletedProcess, transcript = [(.inspect name, .completed inspected)] := by
  obtain ⟨inspected, before, after, rfl, looked, goes⟩ := ends_bind_ok ends
  obtain rfl := subprocessRun_ok looked
  obtain rfl := goes.1
  exact ⟨inspected, rfl⟩

/-- The four ways through a switch: with or without an installation, with or without a start. -/
theorem installOnNode_ok [WordClass] {clabName swixPath node : Text} {transcript : List (Command × Outcome)}
    (ends : (installOnNode clabName swixPath node).Ends transcript (.ok ())) :
    ∃ inspected shown : CompletedProcess, ∃ rest, shown.returncode = 0 ∧
      transcript = (.inspect (containerOf clabName node), .completed inspected) ::
        (.cli (containerOf clabName node) showExtensions, .completed shown) :: rest ∧
      ((extensionInstalled shown.stdout (swixName swixPath) = true ∧
          (enableDaemon (containerOf clabName node) node).Ends rest (.ok ())) ∨
        ∃ cp install : CompletedProcess, ∃ others, install.returncode = 0 ∧
          extensionInstalled shown.stdout (swixName swixPath) = false ∧
          extensionInstalled install.stdout (swixName swixPath) = true ∧
          rest = (.copy swixPath (containerOf clabName node)
              (text "/mnt/flash/" ++ swixName swixPath), .completed cp) ::
            (.cli (containerOf clabName node) (installCommands (swixName swixPath)),
              .completed install) :: others ∧
          (enableDaemon (containerOf clabName node) node).Ends others (.ok ())) := by
  obtain ⟨up, before, after, rfl, inspects, goes⟩ := ends_bind_ok ends
  obtain ⟨inspected, rfl⟩ := containerRunning_ok inspects
  split at goes
  · cases goes.2
  · obtain ⟨shown, before, rest, rfl, looked, checks⟩ := ends_bind_ok goes
    obtain rfl := subprocessRun_ok looked
    split at checks
    · cases checks.2
    · rename_i exit
      refine ⟨inspected, shown, rest, not_not.mp exit, rfl, ?_⟩
      split at checks
      · rename_i present
        exact Or.inl ⟨present, checks⟩
      · rename_i absent
        refine Or.inr ?_
        obtain ⟨cp, before, after, rfl, copied, installs⟩ := ends_bind_ok checks
        obtain rfl := subprocessRun_ok copied
        split at installs
        · cases installs.2
        · obtain ⟨install, before, others, rfl, asked, reports⟩ := ends_bind_ok installs
          obtain rfl := subprocessRun_ok asked
          split at reports
          · cases reports.2
          · rename_i installExit
            split at reports
            · cases reports.2
            · rename_i listed
              exact ⟨cp, install, others, not_not.mp installExit, by simpa using absent,
                by simpa using listed, rfl, reports⟩

theorem showDaemon_ne_install (swix : Text) : showDaemon ≠ installCommands swix :=
  (installCommands_ne (by decide)).symm

theorem startDaemon_ne_install (swix : Text) : startDaemon ≠ installCommands swix :=
  (installCommands_ne (by decide)).symm

theorem showExtensions_ne_install (swix : Text) : showExtensions ≠ installCommands swix :=
  (installCommands_ne (by decide)).symm

/-- The exchanges about the daemon say nothing about the extension. -/
theorem daemonPart_extension [WordClass] (swix : Text) {container node : Text}
    {transcript : List (Command × Outcome)} (ends : (enableDaemon container node).Ends transcript (.ok ())) :
    reports (extensionReport swix) transcript = [] ∧
      ∀ exchange ∈ transcript, exchange.1 ≠ .cli container (installCommands swix) := by
  have different : showDaemon ≠ showExtensions ∧ startDaemon ≠ showExtensions := by decide
  obtain ⟨shown, -, ⟨-, rfl⟩ | ⟨start, -, -, -, rfl⟩⟩ := enableDaemon_ok ends
  · simp [extensionReport, different.1, showDaemon_ne_install]
  · simp [extensionReport, different.1, different.2, showDaemon_ne_install, startDaemon_ne_install]

theorem daemonPart_daemon {container node : Text} {transcript : List (Command × Outcome)}
    (ends : (enableDaemon container node).Ends transcript (.ok ())) :
    (reports daemonReport transcript).getLast? = some true ∧
      ((∃ exchange ∈ transcript, exchange.1 = .cli container startDaemon) ↔
        (reports daemonReport transcript).head? = some false) := by
  have different : showDaemon ≠ startDaemon := by decide
  obtain ⟨shown, exit, ⟨running, rfl⟩ | ⟨start, startExit, stopped, running, rfl⟩⟩ :=
    enableDaemon_ok ends
  · simp [daemonReport, exit, running, different]
  · simp [daemonReport, exit, startExit, stopped, running]

/-- An exception of the work on a node: its message names the node or its container. -/
def Failure.Names (clabName node : Text) : Failure → Prop
  | .timeoutExpired => True
  | .installQuadraError message =>
      message = text "container not running: " ++ containerOf clabName node ∨
        ∃ detail, message = node ++ text ": " ++ detail

section Within

variable {clabName node : Text}

/-- The commands for a node go to its container, and its exceptions name it. -/
abbrev OnNode (clabName node : Text) {Value : Type} (session : Session Value) : Prop :=
  session.Within (fun command => command.container = containerOf clabName node)
    (Failure.Names clabName node)

theorem subprocessRun_onNode {command : Command}
    (own : command.container = containerOf clabName node) :
    OnNode clabName node (subprocessRun command) := by
  refine ⟨own, fun answer => ?_⟩
  cases answer <;> trivial

theorem raiseError_onNode {message : Text} (detail : Text) (same : message = node ++ text ": " ++ detail) :
    OnNode clabName node (raiseError message) :=
  Or.inr ⟨detail, same⟩

theorem enableDaemon_onNode : OnNode clabName node (enableDaemon (containerOf clabName node) node) := by
  refine Within.bind (subprocessRun_onNode rfl) fun shown => ?_
  split
  · exact raiseError_onNode (text "show daemon quadra failed: " ++ shown.detail) (by simp; rfl)
  · split
    · trivial
    · refine Within.bind (subprocessRun_onNode rfl) fun start => ?_
      split
      · exact raiseError_onNode (text "daemon quadra start failed: " ++ start.detail) (by simp; rfl)
      · split
        · exact raiseError_onNode (text "daemon quadra not running after no shutdown:\n" ++
            strip start.stdout) (by simp; rfl)
        · trivial

theorem copyAndInstall_onNode [WordClass] (swixPath : Text) :
    OnNode clabName node (copyAndInstall (containerOf clabName node) node swixPath) := by
  refine Within.bind (subprocessRun_onNode rfl) fun cp => ?_
  split
  · exact raiseError_onNode (text "docker cp failed: " ++ cp.detail) (by simp; rfl)
  · refine Within.bind (subprocessRun_onNode rfl) fun install => ?_
    split
    · exact raiseError_onNode (text "extension install failed: " ++ install.detail) (by simp; rfl)
    · split
      · exact raiseError_onNode (swixName swixPath ++ text " not reported as installed:\n" ++
          strip install.stdout) (by simp)
      · exact enableDaemon_onNode

theorem installOnNode_onNode [WordClass] (swixPath : Text) :
    OnNode clabName node (installOnNode clabName swixPath node) := by
  refine Within.bind (Within.bind (subprocessRun_onNode rfl) fun _ => trivial) fun up => ?_
  split
  · exact Or.inl rfl
  · refine Within.bind (subprocessRun_onNode rfl) fun shown => ?_
    split
    · exact raiseError_onNode (text "show extensions failed: " ++ shown.detail) (by simp; rfl)
    · split
      · exact enableDaemon_onNode
      · exact copyAndInstall_onNode swixPath

end Within

theorem nodeDone [WordClass] {clabName swixPath node : Text} {transcript : List (Command × Outcome)}
    (ends : (installOnNode clabName swixPath node).Ends transcript (.ok ())) :
    NodeDone clabName swixPath node transcript := by
  have own := ((installOnNode_onNode swixPath).ends ends).1
  have apart := showExtensions_ne_install (swixName swixPath)
  have elsewhere : showExtensions ≠ showDaemon ∧ showExtensions ≠ startDaemon := by decide
  have showApart := showDaemon_ne_install (swixName swixPath)
  have startApart := startDaemon_ne_install (swixName swixPath)
  obtain ⟨inspected, shown, rest, exit, rfl, present⟩ := installOnNode_ok ends
  rcases present with ⟨listed, daemon⟩ |
    ⟨cp, install, others, installExit, absent, listed, rfl, daemon⟩
  · obtain ⟨silent, untouched⟩ := daemonPart_extension (swixName swixPath) daemon
    obtain ⟨running, starts⟩ := daemonPart_daemon daemon
    refine ⟨own, ?_, ?_, ?_, ?_⟩
    · simp [extensionReport, exit, listed, silent]
    · simp [daemonReport, elsewhere, running]
    · simpa [extensionReport, exit, listed, apart] using fun outcome member => untouched _ member rfl
    · simp [daemonReport, elsewhere, starts]
  · obtain ⟨silent, untouched⟩ := daemonPart_extension (swixName swixPath) daemon
    obtain ⟨running, starts⟩ := daemonPart_daemon daemon
    refine ⟨own, ?_, ?_, ?_, ?_⟩
    · simp [extensionReport, exit, installExit, listed, silent]
    · simp [daemonReport, elsewhere, running, showApart.symm, startApart.symm]
    · simp [extensionReport, exit, absent]
    · simp [daemonReport, elsewhere, starts, showApart.symm, startApart.symm]

/-- Whatever the switches answer: the nodes are dealt with one after another. A run that
ends normally has dealt with all of them; any other run has dealt with the first ones, sends
the rest of its commands to the next one and raises an exception that names it. -/
theorem installQuadra_transcript [WordClass] {clabName notFound swixPath : Text}
    {transcript : List (Command × Outcome)} {result : Except Failure Unit}
    (ends : (installQuadra clabName notFound (some swixPath)).Ends transcript result) :
    ∃ parts, (result = .ok () ∧ transcript = parts.flatten ∧
        List.Forall₂ (NodeDone clabName swixPath) quadraNodes parts) ∨
      ∃ complete node later part failure, quadraNodes = complete ++ node :: later ∧
        result = .error failure ∧ failure.Names clabName node ∧ transcript = parts.flatten ++ part ∧
        List.Forall₂ (NodeDone clabName swixPath) complete parts ∧
        ∀ exchange ∈ part, exchange.1.container = containerOf clabName node := by
  cases result with
  | ok value =>
      obtain ⟨parts, rfl, all⟩ := forEach_ok ends
      exact ⟨parts, Or.inl ⟨rfl, rfl, all.imp fun node part => nodeDone⟩⟩
  | error failure =>
      obtain ⟨complete, node, later, parts, part, nodes, rfl, all, fails⟩ := forEach_error ends
      obtain ⟨own, named⟩ := (installOnNode_onNode swixPath).ends fails
      exact ⟨parts, Or.inr ⟨complete, node, later, part, failure, nodes, rfl, named failure rfl, rfl,
        all.imp fun node part => nodeDone, own⟩⟩

/- Switches that answer truthfully -/

/-- Whether a switch has the extension installed and its daemon running. -/
structure Switch where
  installed : Bool
  running : Bool
deriving DecidableEq

/-- What a command may do to the switches, and what its answer may say: only the addressed
switch changes, looking changes nothing, a report is true afterwards, and what is installed
or running stays so. -/
structure Truthful [WordClass] (swix : Text) (world : Text → Switch) (command : Command) (answer : Outcome)
    (next : Text → Switch) : Prop where
  others : ∀ container, container ≠ command.container → next container = world container
  looks : command.Looks → next = world
  listed : ∀ told, extensionReport swix (command, answer) = some told →
    (next command.container).installed = told
  up : ∀ told, daemonReport (command, answer) = some told → (next command.container).running = told
  keeps : (world command.container).installed = true → (next command.container).installed = true
  stays : (world command.container).running = true → (next command.container).running = true

theorem Truthful.installed_stays [WordClass] {swix : Text} {world next : Text → Switch} {command : Command}
    {answer : Outcome} (meets : Truthful swix world command answer next) (container : Text)
    (before : (world container).installed = true) : (next container).installed = true := by
  by_cases same : container = command.container
  · subst same
    exact meets.keeps before
  · rw [meets.others container same]
    exact before

theorem Truthful.running_stays [WordClass] {swix : Text} {world next : Text → Switch} {command : Command}
    {answer : Outcome} (meets : Truthful swix world command answer next) (container : Text)
    (before : (world container).running = true) : (next container).running = true := by
  by_cases same : container = command.container
  · subst same
    exact meets.stays before
  · rw [meets.others container same]
    exact before

theorem mem_reports_of_getLast? {report : Command × Outcome → Option Bool}
    {transcript : List (Command × Outcome)} {told : Bool}
    (last : (reports report transcript).getLast? = some told) :
    ∃ exchange ∈ transcript, report exchange = some told :=
  List.mem_filterMap.mp (List.mem_of_getLast? last)

/-- A switch that was dealt with has the extension and runs the daemon, also at the end. -/
theorem NodeDone.deployed [WordClass] {clabName swixPath node : Text} {part : List (Command × Outcome)}
    (dealt : NodeDone clabName swixPath node part) {transcript : List (Command × Outcome)}
    (within : part ⊆ transcript) {world final : Text → Switch}
    (met : Through (Truthful (swixName swixPath)) world transcript final) :
    final (containerOf clabName node) = ⟨true, true⟩ := by
  let container := containerOf clabName node
  have about (report : Command × Outcome → Option Bool) (exchange : Command × Outcome)
      (member : exchange ∈ part) (told : report exchange = some true) :
      ∃ exchange ∈ transcript,
        (if exchange.1.container = container then report exchange else none) = some true :=
    ⟨exchange, within member, by rw [if_pos (dealt.own exchange member), told]⟩
  have installed : (final container).installed = true := by
    obtain ⟨exchange, member, told⟩ := mem_reports_of_getLast? dealt.installed
    refine through_reported (fun world => (world container).installed) ?_ ?_ met (Or.inr (about _ exchange member told))
    · intro world command answer next meets told
      split at told
      · rename_i own
        rw [← own]
        exact meets.listed true told
      · cases told
    · exact fun world command answer next meets => meets.installed_stays container
  have running : (final container).running = true := by
    obtain ⟨exchange, member, told⟩ := mem_reports_of_getLast? dealt.running
    refine through_reported (fun world => (world container).running) ?_ ?_ met (Or.inr (about _ exchange member told))
    · intro world command answer next meets told
      split at told
      · rename_i own
        rw [← own]
        exact meets.up true told
      · cases told
    · exact fun world command answer next meets => meets.running_stays container
  exact (Switch.mk.injEq ..).mpr ⟨installed, running⟩

/-- A command that succeeds: the container is up, or the process ends with status 0. -/
def Succeeds : Command × Outcome → Prop
  | (.inspect _, .completed process) => process.returncode = 0 ∧ strip process.stdout = text "true"
  | (_, .completed process) => process.returncode = 0
  | (_, .timeoutExpired) => False

theorem subprocessRun_bind {Value : Type} {command : Command}
    {next : CompletedProcess → Session Value} {transcript : List (Command × Outcome)}
    {result : Except Failure Value} (ends : ((subprocessRun command).bind next).Ends transcript result) :
    (transcript = [(command, .timeoutExpired)] ∧ result = .error .timeoutExpired) ∨
      ∃ process rest, transcript = (command, .completed process) :: rest ∧
        (next process).Ends rest result := by
  obtain ⟨answer, rest, rfl, goes⟩ := ends
  cases answer with
  | completed process => exact Or.inr ⟨process, rest, rfl, goes⟩
  | timeoutExpired =>
      obtain ⟨rfl, same⟩ := goes
      exact Or.inl ⟨rfl, same⟩

/-- What an exchange that looks leaves. -/
theorem Truthful.looked [WordClass] {swix : Text} {world final : Text → Switch} {command : Command}
    {answer : Outcome} {rest : List (Command × Outcome)} (looks : command.Looks)
    (met : Through (Truthful swix) world ((command, answer) :: rest) final) :
    Truthful swix world command answer world ∧ Through (Truthful swix) world rest final := by
  obtain ⟨next, meets, others⟩ := met
  obtain rfl := meets.looks looks
  exact ⟨meets, others⟩

/-- What a run does that finds everything in place: it looks, changes nothing, and it ends
normally when its commands succeed. -/
structure Untouched (world final : Text → Switch) (transcript : List (Command × Outcome))
    (result : Except Failure Unit) : Prop where
  same : final = world
  looks : ∀ exchange ∈ transcript, exchange.1.Looks
  ends : (∀ exchange ∈ transcript, Succeeds exchange) → result = .ok ()

theorem Untouched.nothing (world : Text → Switch) : Untouched world world [] (.ok ()) :=
  ⟨rfl, List.forall_mem_nil _, fun _ => rfl⟩

theorem Untouched.stops {world : Text → Switch} {exchange : Command × Outcome} {failure : Failure}
    (looks : exchange.1.Looks) (fails : ¬ Succeeds exchange) :
    Untouched world world [exchange] (.error failure) :=
  ⟨rfl, by simpa using looks, fun all => (fails (all exchange List.mem_cons_self)).elim⟩

theorem Untouched.cons {world final : Text → Switch} {exchange : Command × Outcome}
    {rest : List (Command × Outcome)} {result : Except Failure Unit} (looks : exchange.1.Looks)
    (later : Untouched world final rest result) : Untouched world final (exchange :: rest) result :=
  ⟨later.same, List.forall_mem_cons.mpr ⟨looks, later.looks⟩,
    fun all => later.ends fun other member => all other (List.mem_cons_of_mem _ member)⟩

theorem Untouched.append {world between final : Text → Switch} {front back : List (Command × Outcome)}
    {result : Except Failure Unit} (first : Untouched world between front (.ok ()))
    (later : Untouched between final back result) : Untouched world final (front ++ back) result :=
  ⟨later.same.trans first.same, List.forall_mem_append.mpr ⟨first.looks, later.looks⟩,
    fun all => later.ends fun other member => all other (List.mem_append_right _ member)⟩

theorem enableDaemon_untouched [WordClass] {container node swix : Text} {world final : Text → Switch}
    {transcript : List (Command × Outcome)} {result : Except Failure Unit}
    (running : (world container).running = true)
    (ends : (enableDaemon container node).Ends transcript result)
    (met : Through (Truthful swix) world transcript final) :
    Untouched world final transcript result := by
  have looks : (Command.cli container showDaemon).Looks := Or.inr rfl
  rcases subprocessRun_bind ends with ⟨rfl, rfl⟩ | ⟨shown, rest, rfl, goes⟩
  · obtain ⟨-, rfl⟩ := Truthful.looked looks met
    exact .stops looks id
  · obtain ⟨meets, others⟩ := Truthful.looked looks met
    split at goes
    · rename_i failed
      obtain ⟨rfl, rfl⟩ := goes
      obtain rfl := others
      exact .stops looks failed
    · rename_i exit
      have told := meets.up (daemonRunning shown.stdout) (by simp [daemonReport, not_not.mp exit])
      rw [if_pos (told.symm.trans running)] at goes
      obtain ⟨rfl, rfl⟩ := goes
      obtain rfl := others
      exact .cons looks (.nothing _)

theorem installOnNode_untouched [WordClass] {clabName swixPath node : Text} {world final : Text → Switch}
    {transcript : List (Command × Outcome)} {result : Except Failure Unit}
    (deployed : world (containerOf clabName node) = ⟨true, true⟩)
    (ends : (installOnNode clabName swixPath node).Ends transcript result)
    (met : Through (Truthful (swixName swixPath)) world transcript final) :
    Untouched world final transcript result := by
  have inspects : (Command.inspect (containerOf clabName node)).Looks := trivial
  have looks : (Command.cli (containerOf clabName node) showExtensions).Looks := Or.inl rfl
  obtain ⟨answer, rest, rfl, goes⟩ := ends
  obtain ⟨-, others⟩ := Truthful.looked inspects met
  cases answer with
  | timeoutExpired =>
      obtain ⟨rfl, rfl⟩ := goes
      obtain rfl := others
      exact .stops inspects id
  | completed inspected =>
      change (if _ then _ else _ : Session Unit).Ends rest result at goes
      split at goes
      · rename_i down
        obtain ⟨rfl, rfl⟩ := goes
        obtain rfl := others
        refine .stops inspects fun up => ?_
        simp [up.1, up.2] at down
      · refine .cons inspects ?_
        rcases subprocessRun_bind goes with ⟨rfl, rfl⟩ | ⟨shown, rest, rfl, checks⟩
        · obtain ⟨-, rfl⟩ := Truthful.looked looks others
          exact .stops looks id
        · obtain ⟨meets, later⟩ := Truthful.looked looks others
          split at checks
          · rename_i failed
            obtain ⟨rfl, rfl⟩ := checks
            obtain rfl := later
            exact .stops looks failed
          · rename_i exit
            have told := meets.listed (extensionInstalled shown.stdout (swixName swixPath))
              (by simp [extensionReport, not_not.mp exit])
            have present : extensionInstalled shown.stdout (swixName swixPath) = true := by
              rw [← told]
              exact congrArg Switch.installed deployed
            rw [if_pos present] at checks
            exact .cons looks (enableDaemon_untouched (congrArg Switch.running deployed) checks later)

theorem nodes_untouched [WordClass] {clabName swixPath : Text} {nodes : List Text} {world final : Text → Switch}
    {transcript : List (Command × Outcome)} {result : Except Failure Unit}
    (deployed : ∀ node ∈ nodes, world (containerOf clabName node) = ⟨true, true⟩)
    (ends : (forEach nodes (installOnNode clabName swixPath)).Ends transcript result)
    (met : Through (Truthful (swixName swixPath)) world transcript final) :
    Untouched world final transcript result := by
  induction nodes generalizing world transcript with
  | nil =>
      obtain ⟨rfl, rfl⟩ := ends
      obtain rfl := met
      exact .nothing _
  | cons node rest ih =>
      have here := deployed node List.mem_cons_self
      rcases ends_bind_iff.mp ends with ⟨value, front, back, rfl, first, later⟩ | ⟨failure, rfl, fails⟩
      · obtain ⟨between, reached, others⟩ := through_append.mp met
        have start := installOnNode_untouched here first reached
        obtain rfl := start.same
        exact start.append (ih (fun other member => deployed other (List.mem_cons_of_mem _ member))
          later others)
      · exact installOnNode_untouched here fails met

/-- Installing is idempotent. On switches that answer truthfully, a run that ends normally
leaves the extension installed and the daemon running on every node that uses it, whatever was
there before; a second run then only looks, changes nothing, and ends normally too when its
commands succeed. -/
theorem installQuadra_twice [WordClass] {clabName notFound swixPath : Text}
    {first second : List (Command × Outcome)} {result : Except Failure Unit}
    {world between final : Text → Switch}
    (installs : (installQuadra clabName notFound (some swixPath)).Ends first (.ok ()))
    (met : Through (Truthful (swixName swixPath)) world first between)
    (again : (installQuadra clabName notFound (some swixPath)).Ends second result)
    (metAgain : Through (Truthful (swixName swixPath)) between second final) :
    (∀ node ∈ quadraNodes, between (containerOf clabName node) = ⟨true, true⟩) ∧
      Untouched between final second result := by
  have deployed : ∀ node ∈ quadraNodes, between (containerOf clabName node) = ⟨true, true⟩ := by
    obtain ⟨parts, rfl, all⟩ := forEach_ok installs
    intro node member
    obtain ⟨index, inside, rfl⟩ := List.mem_iff_getElem.mp member
    have short : index < parts.length := by rw [← all.length_eq]; exact inside
    have dealt := nodeDone ((List.forall₂_iff_get.mp all).2 index inside short)
    exact dealt.deployed (fun _ among => List.mem_flatten.mpr ⟨_, List.getElem_mem short, among⟩) met
  exact ⟨deployed, nodes_untouched deployed again metAgain⟩

/- A run on switches that have nothing yet, and a second one -/

attribute [local instance] PyRegex.asciiWords

/-- What a switch prints about its extension and its daemon. -/
def Switch.prints (switch : Switch) : Text :=
  (if switch.installed then text "QuaDRA-1.swix   1.0   A, I, B\n" else []) ++
    (if switch.running then text "Agent: quadra (running with PID 77)\n" else [])

/-- What a session of the CLI leaves. -/
def Switch.after (switch : Switch) (commands : Text) : Switch where
  installed := switch.installed || commands == installCommands (text "QuaDRA-1.swix")
  running := switch.running || commands == startDaemon

/-- Switches that are up and do what they are asked. -/
def switchReply (world : Text → Switch) : Command → Outcome × (Text → Switch)
  | .inspect _ => (.completed ⟨0, text "true\n", []⟩, world)
  | .copy _ _ _ => (.completed ⟨0, [], []⟩, world)
  | .cli container commands =>
      let next := (world container).after commands
      (.completed ⟨0, next.prints, []⟩, Function.update world container next)

theorem Switch.prints_extension (switch : Switch) :
    extensionInstalled switch.prints (text "QuaDRA-1.swix") = switch.installed := by
  obtain ⟨installed, running⟩ := switch
  cases installed <;> cases running <;> decide +kernel

theorem Switch.prints_daemon (switch : Switch) : daemonRunning switch.prints = switch.running := by
  obtain ⟨installed, running⟩ := switch
  cases installed <;> cases running <;> decide +kernel

theorem Switch.after_looks (switch : Switch) {container commands : Text}
    (looks : (Command.cli container commands).Looks) : switch.after commands = switch := by
  have other : showDaemon ≠ startDaemon ∧ showExtensions ≠ startDaemon := by decide
  rcases looks with rfl | rfl
  · rw [Switch.after, beq_false_of_ne (showExtensions_ne_install _), beq_false_of_ne other.2,
      Bool.or_false, Bool.or_false]
  · rw [Switch.after, beq_false_of_ne (showDaemon_ne_install _), beq_false_of_ne other.1,
      Bool.or_false, Bool.or_false]

theorem switchReply_truthful (world : Text → Switch) (command : Command) :
    Truthful (text "QuaDRA-1.swix") world command (switchReply world command).1
      (switchReply world command).2 := by
  cases command with
  | inspect _ | copy _ _ _ =>
      exact ⟨fun _ _ => rfl, fun _ => rfl, (fun _ told => by cases told), (fun _ told => by cases told),
        id, id⟩
  | cli container commands =>
      have here : (switchReply world (.cli container commands)).2 container =
          (world container).after commands := Function.update_self ..
      refine ⟨fun other differs => Function.update_of_ne differs _ _, fun looks => ?_,
        fun told same => ?_, fun told same => ?_, fun before => ?_, fun before => ?_⟩
      · exact (congrArg (Function.update world container) (Switch.after_looks _ looks)).trans
          (Function.update_eq_self container world)
      · simp only [extensionReport, switchReply, Switch.prints_extension] at same
        split at same
        · exact (congrArg Switch.installed here).trans (Option.some.inj same)
        · cases same
      · simp only [daemonReport, switchReply, Switch.prints_daemon] at same
        split at same
        · exact (congrArg Switch.running here).trans (Option.some.inj same)
        · cases same
      · exact (congrArg Switch.installed here).trans (Bool.or_eq_true_iff.mpr (Or.inl before))
      · exact (congrArg Switch.running here).trans (Bool.or_eq_true_iff.mpr (Or.inl before))

/-- An installation of `QuaDRA-1.swix`. -/
def exampleInstall : Session Unit := installQuadra [] [] (some (text "/tmp/QuaDRA-1.swix"))

/-- The run on switches that have nothing yet. -/
def firstRun : Except Failure Unit × List (Command × Outcome) × (Text → Switch) :=
  exampleInstall.live switchReply fun _ => ⟨false, false⟩

theorem firstRun_ok : firstRun.1 = .ok () := by decide +kernel

theorem firstRun_ends : exampleInstall.Ends firstRun.2.1 (.ok ()) := by
  rw [← firstRun_ok]
  exact ends_live _ _ _

theorem installQuadra_transcript_bare :
    ∃ parts, firstRun.2.1 = parts.flatten ∧
      List.Forall₂ (NodeDone [] (text "/tmp/QuaDRA-1.swix")) quadraNodes parts ∧
      reports (extensionReport (text "QuaDRA-1.swix")) firstRun.2.1 = [false, true, false, true] ∧
      reports daemonReport firstRun.2.1 = [false, true, false, true] := by
  obtain ⟨parts, ⟨-, shape, all⟩ | ⟨_, _, _, _, _, _, same, _⟩⟩ := installQuadra_transcript firstRun_ends
  · exact ⟨parts, shape, all, by decide +kernel⟩
  · cases same

theorem installQuadra_twice_bare :
    (∀ node ∈ quadraNodes, firstRun.2.2 (containerOf [] node) = ⟨true, true⟩) ∧
      Untouched firstRun.2.2 (exampleInstall.live switchReply firstRun.2.2).2.2
        (exampleInstall.live switchReply firstRun.2.2).2.1
        (exampleInstall.live switchReply firstRun.2.2).1 :=
  installQuadra_twice firstRun_ends (through_live switchReply_truthful _ _) (ends_live _ _ _)
    (through_live switchReply_truthful _ _)

end QuantumSafe.InstallQuadra
