import QuantumSafe.Interaction
import QuantumSafe.TopologyContract

set_option autoImplicit false

/- What the scripts of the lab have in common when they run `docker`: a process that ends
or times out, and the names of the containers. -/
namespace QuantumSafe.DockerCalls

open PyText Interaction

/-- The result of `subprocess.run`. -/
structure CompletedProcess where
  returncode : Int
  stdout : Text
  stderr : Text

inductive Outcome where
  | completed (process : CompletedProcess)
  | timeoutExpired

/-- `result.stderr.strip() or result.stdout.strip()` -/
def CompletedProcess.detail (process : CompletedProcess) : Text :=
  if strip process.stderr = [] then strip process.stdout else strip process.stderr

/-- `container_name` with a `lab_name`. -/
def containerOf (clabName node : Text) : Text :=
  clabPrefix ++ text "-" ++ (if clabName = [] then labName else clabName) ++ text "-" ++ node

end QuantumSafe.DockerCalls
