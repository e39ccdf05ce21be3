import QuantumSafe.CeosJson
import QuantumSafe.KmePool
import QuantumSafe.LabSession
import QuantumSafe.ProbeTargets

set_option autoImplicit false

/- What the live checks of the switches share (`lab/test_pqc_connections.py`): the targets of
a run, and the commands in a container or in the command line of a switch. -/
namespace QuantumSafe.CeosSession

open PyText PyJson PyIpAddress Interaction Interaction.Program DockerCalls LabSession
open CeosJson (CeosJsonError)
open KmePool (LoadsError)
open RenderTopo (IpFamily LabTargets)
open TlsWire (CheckStatus)

/-- What the checks raise, with the message. -/
inductive Raised where
  | pqcConnectionError (message : Text)
  | syslogCheckError (message : Text)
  | macsecCheckError (message : Text)
  | qkdCheckError (message : Text)
  | qkdSkip (message : Text)
  | ceosJsonError (message : Text)
  | calledProcessError (returncode : Int) (argv : List Text)
  | loads (error : LoadsError)
  | valueError
  | address (error : AddressError)
  | timeoutExpired
deriving DecidableEq

abbrev Check (Value : Type) := Session Raised Value

/-- `radius_container`, `syslog_container` and `ceos_container` -/
def containerAt (targets : LabTargets) (node : LabNode) : Text := containerOf targets.clabName node.name

def ipFamilies : List IpFamily := [.ipv4, .ipv6]

def familyLabel : IpFamily → Text
  | .ipv4 => text "IPv4"
  | .ipv6 => text "IPv6"

def reportConfig (detail : Text) : Check Unit := reportOk (text "[config]") detail

/-- `report_live` without a probe client. -/
def reportLive (detail : Text) (status : CheckStatus := .ok) : Check Unit :=
  reportCheck status (text "[live]  ") detail

/-- A process that is not given a time. -/
def runProcess (argv : List Text) (input : Option Text) : Check CompletedProcess :=
  (subprocessRun argv input none).bind fun
    | .completed result => .done result
    | .timeoutExpired => .fail .timeoutExpired

/-- `result.stderr.strip() or result.stdout.strip() or f"exit {result.returncode}"` -/
def exitDetail (result : CompletedProcess) : Text :=
  if result.detail = [] then text "exit " ++ intText result.returncode else result.detail

/-- A command in a container, with an interactive standard input or without. -/
def dockerShell (container command : Text) : List Text :=
  [text "docker", text "exec", text "-i", container, text "sh", text "-c", command]

def dockerSh (container command : Text) : List Text :=
  [text "docker", text "exec", container, text "sh", text "-c", command]

def dockerExec (container command : Text) (check : Bool := true) : Check CompletedProcess :=
  (runProcess (dockerShell container command) (some [])).bind fun result =>
    if check = true ∧ result.returncode ≠ 0 then
      .fail (.pqcConnectionError (container ++ text ": " ++ exitDetail result))
    else .done result

def cliArgv (container : Text) : List Text :=
  [text "docker", text "exec", text "-i", container, text "Cli"]

def ceosCli (container commands : Text) : Check Text :=
  (runProcess (cliArgv container) (some commands)).bind fun result =>
    if result.returncode ≠ 0 then
      .fail (.pqcConnectionError (container ++ text ": " ++ exitDetail result))
    else .done result.stdout

/-- `json.loads` with the texts of its `JSONDecodeError`s. -/
structure Loader where
  loads : Text → Except LoadsError Json
  shown : Text → Text

/-- What `parse_eos_json` raises: a `CeosJsonError`, or another exception of `json.loads`. -/
inductive ParseError where
  | ceosJson (message : Text)
  | other (error : LoadsError)

def parseEosJson (loader : Loader) (raw : Text) : Except ParseError Json :=
  if strip raw = [] then .error (.ceosJson (text "empty EOS JSON output"))
  else
    match loader.loads (strip raw) with
    | .ok tree => .ok tree
    | .error .jsonDecodeError =>
        .error (.ceosJson (text "invalid EOS JSON output: " ++ loader.shown (strip raw)))
    | .error other => .error (.other other)

/-- The command that `ceos_show_json` sends. -/
def jsonCommand (showCommand : Text) : Text :=
  if (text "| json").isSuffixOf (strip showCommand) then strip showCommand
  else strip showCommand ++ text " | json"

def showCommands (showCommand : Text) : Text := text "enable\n" ++ jsonCommand showCommand ++ text "\n"

def ceosShowJson (loader : Loader) (container showCommand : Text) : Check Json :=
  (ceosCli container (showCommands showCommand)).bind fun shown =>
    match parseEosJson loader shown with
    | .ok tree => .done tree
    | .error (.ceosJson message) => .fail (.pqcConnectionError (container ++ text ": " ++ message))
    | .error (.other error) => .fail (.loads error)

/-- A process that ended with 0. -/
def Succeeded (exchange : Exchange) : Prop :=
  ∃ result, exchange.2.outcome = .completed result ∧ result.returncode = 0

theorem runProcess_ends {argv : List Text} {input : Option Text} {transcript : List Exchange}
    {result : Except Raised CompletedProcess} (ends : (runProcess argv input).Ends transcript result) :
    ∃ answer, transcript = [(.run argv input none, answer)] ∧
      ((∃ process, answer.outcome = .completed process ∧ result = .ok process) ∨
        answer.outcome = .timeoutExpired ∧ result = .error .timeoutExpired) := by
  obtain ⟨answer, rest, rfl, goes⟩ := ends
  simp only [done_bind] at goes
  split at goes
  · rename_i process ended
    obtain ⟨rfl, rfl⟩ := goes
    exact ⟨answer, rfl, Or.inl ⟨process, ended, rfl⟩⟩
  · rename_i ended
    obtain ⟨rfl, rfl⟩ := goes
    exact ⟨answer, rfl, Or.inr ⟨ended, rfl⟩⟩

/-- A session on a switch is one process. It gives what that printed, or it failed. -/
theorem ceosCli_ends {container commands : Text} {transcript : List Exchange}
    {result : Except Raised Text} (ends : (ceosCli container commands).Ends transcript result) :
    ∃ answer, transcript = [(.run (cliArgv container) (some commands) none, answer)] ∧
      ((∃ process, answer.outcome = .completed process ∧ process.returncode = 0 ∧
          result = .ok process.stdout) ∨
        ¬ Succeeded (.run (cliArgv container) (some commands) none, answer) ∧
          ∃ error, result = .error error) := by
  rcases ends_bind_iff.mp ends with ⟨process, before, after, rfl, runs, goes⟩ | ⟨error, rfl, fails⟩
  · obtain ⟨answer, rfl, ⟨same, ended, given⟩ | ⟨-, given⟩⟩ := runProcess_ends runs
    · obtain rfl := Except.ok.inj given
      split at goes
      · rename_i failed
        obtain ⟨rfl, rfl⟩ := goes
        refine ⟨answer, rfl, Or.inr ⟨?_, _, rfl⟩⟩
        rintro ⟨other, completed, zero⟩
        cases ended.symm.trans completed
        exact failed zero
      · rename_i fine
        obtain ⟨rfl, rfl⟩ := goes
        exact ⟨answer, rfl, Or.inl ⟨process, ended, not_not.mp fine, rfl⟩⟩
    · cases given
  · obtain ⟨answer, rfl, ⟨process, -, given⟩ | ⟨ended, -⟩⟩ := runProcess_ends fails
    · cases given
    · refine ⟨answer, rfl, Or.inr ⟨?_, error, rfl⟩⟩
      rintro ⟨other, completed, -⟩
      cases ended.symm.trans completed

/- What a run has seen -/

/-- A session on a switch ended with 0 and printed this. -/
def Printed (container commands out : Text) (part : List Exchange) : Prop :=
  ∃ answer process, (Command.run (cliArgv container) (some commands) none, answer) ∈ part ∧
    answer.outcome = .completed process ∧ process.returncode = 0 ∧ process.stdout = out

/-- A switch has shown this tree. -/
def Shown (loader : Loader) (container showCommand : Text) (tree : Json) (part : List Exchange) : Prop :=
  ∃ out, Printed container (showCommands showCommand) out part ∧ parseEosJson loader out = .ok tree

theorem Printed.mono {container commands out : Text} {part whole : List Exchange}
    (printed : Printed container commands out part) (inside : part ⊆ whole) :
    Printed container commands out whole := by
  obtain ⟨answer, process, member, rest⟩ := printed
  exact ⟨answer, process, inside member, rest⟩

theorem Shown.mono {loader : Loader} {container showCommand : Text} {tree : Json}
    {part whole : List Exchange} (shown : Shown loader container showCommand tree part)
    (inside : part ⊆ whole) : Shown loader container showCommand tree whole := by
  obtain ⟨out, printed, reads⟩ := shown
  exact ⟨out, printed.mono inside, reads⟩

theorem ceosCli_ok {container commands out : Text} {transcript : List Exchange}
    (ends : (ceosCli container commands).Ends transcript (.ok out)) :
    Printed container commands out transcript := by
  obtain ⟨answer, rfl, ⟨process, ended, zero, same⟩ | ⟨-, error, same⟩⟩ := ceosCli_ends ends
  · exact ⟨answer, process, List.mem_cons_self, ended, zero, (Except.ok.inj same).symm⟩
  · cases same

theorem ceosShowJson_ok {loader : Loader} {container showCommand : Text} {tree : Json}
    {transcript : List Exchange} (ends : (ceosShowJson loader container showCommand).Ends transcript (.ok tree)) :
    Shown loader container showCommand tree transcript := by
  obtain ⟨out, before, after, rfl, prints, goes⟩ := ends_bind_ok ends
  refine ⟨out, (ceosCli_ok prints).mono (List.subset_append_left _ _), ?_⟩
  split at goes
  · rename_i read
    rw [read, Except.ok.inj goes.2]
  · cases goes.2
  · cases goes.2

section Tells

variable {allowed : CheckStatus → Prop}

theorem tells_runProcess (argv : List Text) (input : Option Text) : Tells allowed 0 (runProcess argv input) := by
  refine (tells_subprocessRun argv input none).after fun ended => ?_
  split
  · exact Tells.done _
  · exact Tells.fail 0 _

theorem tells_ceosCli (container commands : Text) : Tells allowed 0 (ceosCli container commands) := by
  refine (tells_runProcess _ _).after fun result => ?_
  split
  · exact Tells.fail 0 _
  · exact Tells.done _

theorem tells_dockerExec (container command : Text) (check : Bool) :
    Tells allowed 0 (dockerExec container command check) := by
  refine (tells_runProcess _ _).after fun result => ?_
  split
  · exact Tells.fail 0 _
  · exact Tells.done _

theorem tells_ceosShowJson (loader : Loader) (container showCommand : Text) :
    Tells allowed 0 (ceosShowJson loader container showCommand) := by
  refine (tells_ceosCli _ _).after fun shown => ?_
  split
  · exact Tells.done _
  · exact Tells.fail 0 _
  · exact Tells.fail 0 _

end Tells

end QuantumSafe.CeosSession
