import NetworkPlan.Program

/-!
# Command line

The program on the file system of the machine.
-/

namespace NetworkPlan
namespace CommandLine

/-- The variables that the program looks at. -/
def ownVariables : List String :=
  ["COMMON_FILE", "SUBNETS_CONFIG_FILE", "NSGS_CONFIG_FILE", "ROUTE_TABLES_CONFIG_FILE",
   "FIREWALL_CONFIG_FILE", "PARAMS_DIR", "META_DIR", "CLICOLOR", "CLICOLOR_FORCE", "NO_COLOR"]

/-- Files of assignments are looked for in the working directory and in those above it. -/
def assignmentFiles (workingDirectory : String) : List String :=
  (List.range (Workspace.names workingDirectory).length).map fun depth =>
    String.join (List.replicate depth "../") ++ ".env"

/-- What is at a path: a path that leads nowhere has no real path. -/
def readFile (path : String) : IO FileContent := do
  match ← (IO.FS.realPath path).toBaseIO with
  | .error _ => return .absent
  | .ok place =>
      if ← place.isDir then return .directory
      match ← (IO.FS.readBinFile place).toBaseIO with
      | .ok bytes => return .bytes bytes
      | .error e => return .unreadable (toString e)

def failureText {α : Type} (action : IO α) : IO (Except String Unit) := do
  match ← action.toBaseIO with
  | .ok _ => return .ok ()
  | .error e => return .error (toString e)

/-- The file system of the machine. -/
def workspace : Workspace IO where
  read := readFile
  makeDirectory path :=
    if path = "" then return .ok () else failureText (IO.FS.createDirAll path)
  write path text := failureText (IO.FS.writeFile path text)

/-- The variables that a file of assignments speaks of. -/
def variablesIn (path : String) : IO (List String) := do
  match ← readFile path with
  | .bytes b => return (Assignment.lines b).flatMap Assignment.variablesIn
  | _ => return []

/-- The variables of the process, as far as they matter. -/
def environment (assignmentFiles : List String) : IO Environment := do
  let further ← assignmentFiles.mapM variablesIn
  (ownVariables ++ further.flatten).eraseDups.filterMapM fun name =>
    return (← IO.getEnv name).map (name, ·)

/-- A run of the program; gives its exit status. -/
def run : IO UInt32 := do
  let directory ← IO.currentDir
  let assignmentFiles := assignmentFiles directory.toString
  let env ← environment assignmentFiles
  let isTerminal ← (← IO.getStdout).isTty
  let outcome ← workspace.session assignmentFiles env isTerminal
  IO.print outcome.output
  IO.eprint outcome.errorOutput
  return outcome.status.toUInt32

end CommandLine
end NetworkPlan

def main : IO UInt32 :=
  NetworkPlan.CommandLine.run
