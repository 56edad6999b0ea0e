import NetworkPlan.Environment.Basic
import NetworkPlan.Output.Parameters
import NetworkPlan.Json.Printer
import NetworkPlan.Workspace.Basic

/-!
# Writing the output

Every family of resources gives a parameter file and a metadata file. Files are written one
after the other, and the first that cannot be written ends the run; those before it stay.
-/

namespace NetworkPlan

/-- A file to be written. -/
structure OutputFile where
  directory : String
  name : String
  text : String
deriving DecidableEq

/-- The path of the file. -/
def OutputFile.path (f : OutputFile) : String :=
  Workspace.join f.directory f.name

/-- The files of one family: the metadata tell where the parameters are. -/
def ParameterDocument.files (doc : ParameterDocument) (dirs : OutputDirectories) :
    List OutputFile :=
  let parameters : OutputFile := ⟨dirs.parameters, doc.family ++ ".bicepparam", doc.render⟩
  [ parameters,
    ⟨dirs.metadata, doc.family ++ "-meta.json",
      (doc.metadataFor parameters.path).indented 0 ++ "\n"⟩ ]

/-- All files of a plan, in the order in which they are written. -/
def Plan.files (p : Plan) (dirs : OutputDirectories) : List OutputFile :=
  p.documents.flatMap (·.files dirs)

namespace Workspace

variable {m : Type → Type} [Monad m]

/-- Writes a file and makes its directory if need be. -/
def writeFile (w : Workspace m) (f : OutputFile) : ExceptT PlanError m Unit := do
  match ← ExceptT.lift (w.makeDirectory (directoryText f.directory)) with
  | .error detail => throw (.notWritten (directoryText f.directory) detail)
  | .ok () =>
      match ← ExceptT.lift (w.write f.path f.text) with
      | .error detail => throw (.notWritten f.path detail)
      | .ok () => pure ()

/-- Writes files up to the first that cannot be written. -/
def writeFiles (w : Workspace m) : List OutputFile → ExceptT PlanError m Unit
  | [] => pure ()
  | f :: rest => do
      w.writeFile f
      w.writeFiles rest

end Workspace
end NetworkPlan
