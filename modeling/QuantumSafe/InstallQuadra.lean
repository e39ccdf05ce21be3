import QuantumSafe.DockerCalls
import QuantumSafe.LabConstants
import QuantumSafe.PyRegex
import QuantumSafe.RepositoryChecks

set_option autoImplicit false

/- `lab/install_quadra.py`: the extension is copied to the switches that use it, and its
daemon is started. What the switches answer is open. -/
namespace QuantumSafe.InstallQuadra

open PyText Interaction Interaction.Program DockerCalls LabContract CeosContract
open PyRegex (WordClass)

/-- `docker inspect`, `docker exec -i ... Cli` with its input, and `docker cp`. -/
inductive Command where
  | inspect (container : Text)
  | cli (container commands : Text)
  | copy (source container target : Text)

def Command.container : Command → Text
  | .inspect container => container
  | .cli container _ => container
  | .copy _ container _ => container

/-- `InstallQuadraError` with its message, and `subprocess.TimeoutExpired`. -/
inductive Failure where
  | installQuadraError (message : Text)
  | timeoutExpired
deriving DecidableEq

abbrev Session (Value : Type) := Program Command Outcome Failure Value

def subprocessRun (command : Command) : Session CompletedProcess :=
  .ask command fun
    | .completed process => .done process
    | .timeoutExpired => .fail .timeoutExpired

def containerRunning (name : Text) : Session Bool := do
  let result ← subprocessRun (.inspect name)
  return result.returncode == 0 && strip result.stdout == text "true"

def runCli (container commands : Text) : Session CompletedProcess :=
  subprocessRun (.cli container commands)

/-- `INSTALLED_RE` -/
def installedRe [WordClass] : PyRegex.Regex := .seq .wordEdge (.seq (.char (· == 'I')) .wordEdge)

def extensionInstalled [WordClass] (stdout swix : Text) : Bool :=
  (splitlines stdout).any fun line => contains swix line && installedRe.found line

def showExtensions : Text := text "enable\nshow extensions\n"

def installCommands (swix : Text) : Text :=
  join (text "\n") [text "enable", text "copy flash:" ++ swix ++ text " extension:",
    text "extension " ++ swix, text "copy installed-extensions boot-extensions",
    text "show extensions", []]

def showDaemon : Text := text "enable\nshow daemon quadra\n"

def startDaemon : Text :=
  join (text "\n") [text "enable", text "configure", text "daemon quadra", text "no shutdown",
    text "end", text "show daemon quadra", []]

def daemonRunning (stdout : Text) : Bool := contains (text "running with PID") stdout

def raiseError (message : Text) : Session Unit := .fail (.installQuadraError message)

def enableDaemon (container node : Text) : Session Unit := do
  let shown ← runCli container showDaemon
  if shown.returncode ≠ 0 then
    raiseError (node ++ text ": show daemon quadra failed: " ++ shown.detail)
  else if daemonRunning shown.stdout then return ()
  else
    let start ← runCli container startDaemon
    if start.returncode ≠ 0 then
      raiseError (node ++ text ": daemon quadra start failed: " ++ start.detail)
    else if !daemonRunning start.stdout then
      raiseError (node ++ text ": daemon quadra not running after no shutdown:\n" ++ strip start.stdout)
    else return ()

/-- `swix_path.rsplit("/", 1)[-1]` -/
def swixName (swixPath : Text) : Text := lastPart (text "/") swixPath

/-- The part of `install_on_node` for a switch that does not list the extension. -/
def copyAndInstall [WordClass] (container node swixPath : Text) : Session Unit := do
  let swix := swixName swixPath
  let cp ← subprocessRun (.copy swixPath container (text "/mnt/flash/" ++ swix))
  if cp.returncode ≠ 0 then raiseError (node ++ text ": docker cp failed: " ++ cp.detail)
  else
    let install ← runCli container (installCommands swix)
    if install.returncode ≠ 0 then
      raiseError (node ++ text ": extension install failed: " ++ install.detail)
    else if !extensionInstalled install.stdout swix then
      raiseError (node ++ text ": " ++ swix ++ text " not reported as installed:\n" ++
        strip install.stdout)
    else enableDaemon container node

def installOnNode [WordClass] (clabName swixPath node : Text) : Session Unit := do
  let container := containerOf clabName node
  let swix := swixName swixPath
  if !(← containerRunning container) then
    raiseError (text "container not running: " ++ container)
  else
    let shown ← runCli container showExtensions
    if shown.returncode ≠ 0 then
      raiseError (node ++ text ": show extensions failed: " ++ shown.detail)
    else if extensionInstalled shown.stdout swix then enableDaemon container node
    else copyAndInstall container node swixPath

/-- `sorted(CEOS_QUADRA_NODES)` -/
def quadraNodes : List Text := ceosQuadraNodes.map Ceos.name

/-- `install_quadra` with what `resolve_quadra_swix` finds, and the message for nothing. -/
def installQuadra [WordClass] (clabName notFound : Text) : Option Text → Session Unit
  | none => raiseError notFound
  | some swixPath => forEach quadraNodes (installOnNode clabName swixPath)

end QuantumSafe.InstallQuadra
