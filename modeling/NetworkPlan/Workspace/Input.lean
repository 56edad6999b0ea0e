import NetworkPlan.Environment.Basic
import NetworkPlan.Plan
import NetworkPlan.Workspace.Basic

/-!
# Reading the input documents

The firewall document is read first, then the common, the subnet, the security and the routing
document. The common and the subnet document are read as they are, since validation has to see
all of them; the others are typed while they are read, and what follows such a document in its
file is not looked at.
-/

namespace NetworkPlan

/-- A typed document off the start of a text. -/
def readDocument {α : Type} (decoder : Decoder α) (path text : String) : Except PlanError α :=
  (decoder .text (Draft.read text).1).mapError fun f => .document (.badShape path f)

/-- A text that is one JSON value and nothing else. -/
def readJson (path text : String) : Except PlanError Json :=
  (Json.parse text).mapError fun e => .document (.notJson path e)

/-- The text of a file. -/
def FileContent.text (path : String) : FileContent → Except PlanError String
  | absent => .error (.document (.noFile path))
  | directory => .error (.document (.unreadable path isDirectoryText))
  | unreadable detail => .error (.document (.unreadable path detail))
  | bytes b =>
      match String.fromUTF8? b with
      | some text => .ok text
      | none => .error (.document (.unreadable path notUtf8Text))

namespace Workspace

variable {m : Type → Type} [Monad m]

/-- Reads a file's text and makes something of it. -/
def readWith {α : Type} (w : Workspace m) (use : String → String → Except PlanError α)
    (path : String) : ExceptT PlanError m α := do
  let content ← ExceptT.lift (w.read path)
  ExceptT.mk (pure (content.text path >>= use path))

/-- Reads the input documents; the first that cannot be read is the error. -/
def readInputs (w : Workspace m) (paths : InputPaths) : ExceptT PlanError m Inputs := do
  let firewall ←
    match paths.firewall with
    | some path => w.readWith (readDocument FirewallDocument.record.decode) path
    | none => pure FirewallDocument.default
  let common ← w.readWith readJson paths.common
  let subnets ← w.readWith readJson paths.subnets
  let security ← w.readWith (readDocument SecurityDocument.record.decode) paths.security
  let routing ← w.readWith (readDocument RoutingDocument.record.decode) paths.routing
  return ⟨common, subnets, security, routing, firewall⟩

end Workspace
end NetworkPlan
