import NetworkPlan.Environment.Assignments
import NetworkPlan.Output.Terminal
import NetworkPlan.Workspace.Input
import NetworkPlan.Workspace.Output

/-!
# The program

A run takes its variables from the environment and from a file of assignments, reads the input
documents, makes the plan, writes the parameter documents and prints the summary. It is said for
any workspace; what a run prints is its value.
-/

namespace NetworkPlan

/-- What a run prints, and its exit status. -/
structure Outcome where
  status : Nat
  output : String
  errorOutput : String
deriving DecidableEq

/-- The outcome of a run that made a plan or failed. -/
def Outcome.of (colour : Bool) : Except PlanError Plan → Outcome
  | .ok plan => ⟨0, plan.report colour, ""⟩
  | .error e => ⟨e.exitStatus, "", e.message ++ "\n"⟩

namespace Workspace

variable {m : Type → Type} [Monad m]

/-- Makes a plan and writes its documents. -/
def realise (w : Workspace m) (inputs : Inputs) (dirs : OutputDirectories) :
    ExceptT PlanError m Plan := do
  let plan ← ExceptT.mk (pure (compile inputs))
  w.writeFiles (plan.files dirs)
  return plan

/-- Reads the input documents, makes the plan and writes its documents. The directories for the
output are looked at only when the documents have been read. -/
def execute (w : Workspace m) (env : Environment) : ExceptT PlanError m Plan := do
  let paths ← ExceptT.mk (pure (InputPaths.ofEnvironment env))
  let inputs ← w.readInputs paths
  let dirs ← ExceptT.mk (pure (OutputDirectories.ofEnvironment env))
  w.realise inputs dirs

/-- The environment together with the first file of assignments among some paths. -/
def extendEnvironment (w : Workspace m) (env : Environment) : List String → m Environment
  | [] => pure env
  | path :: rest => do
      match ← w.read path with
      | .bytes b => return env.assign (Assignment.lines b)
      | .unreadable _ => return env
      | .absent | .directory => w.extendEnvironment env rest

/-- A whole run. -/
def session (w : Workspace m) (assignmentFiles : List String) (env : Environment)
    (isTerminal : Bool) : m Outcome := do
  let env ← w.extendEnvironment env assignmentFiles
  let result ← (w.execute env).run
  return .of (Terminal.usesColour env isTerminal) result

end Workspace
end NetworkPlan
