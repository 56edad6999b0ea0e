import NetworkPlan.Error
import NetworkPlan.Text.Blank

/-!
# Environment variables

Variables name the input documents and the directories for the output. A variable that is not
set and one whose value is blank are alike; other values are taken as they are.
-/

namespace NetworkPlan

/-- Environment variables with their values. -/
abbrev Environment := Entries String

namespace Environment

/-- The value of a variable, unless it is blank. -/
def value? (env : Environment) (name : String) : Option String :=
  (env.get? name).filter fun value => (Text.nonBlank? value).isSome

/-- The value of a variable that must be set. -/
def required (env : Environment) (name : String) : Except PlanError String :=
  match env.value? name with
  | some value => .ok value
  | none => .error (.unsetVariable name)

end Environment

/-- Where the input documents are. The firewall document may be left out. -/
structure InputPaths where
  common : String
  subnets : String
  security : String
  routing : String
  firewall : Option String
deriving DecidableEq

/-- Where the output goes. -/
structure OutputDirectories where
  parameters : String
  metadata : String
deriving DecidableEq

/-- The input documents that variables name; the first that is missing is the error. -/
def InputPaths.ofEnvironment (env : Environment) : Except PlanError InputPaths := do
  let common ← env.required "COMMON_FILE"
  let subnets ← env.required "SUBNETS_CONFIG_FILE"
  let security ← env.required "NSGS_CONFIG_FILE"
  let routing ← env.required "ROUTE_TABLES_CONFIG_FILE"
  return ⟨common, subnets, security, routing, env.value? "FIREWALL_CONFIG_FILE"⟩

/-- The directories that variables name; the first that is missing is the error. -/
def OutputDirectories.ofEnvironment (env : Environment) : Except PlanError OutputDirectories := do
  let parameters ← env.required "PARAMS_DIR"
  let metadata ← env.required "META_DIR"
  return ⟨parameters, metadata⟩

end NetworkPlan
