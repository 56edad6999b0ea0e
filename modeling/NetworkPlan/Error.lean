import NetworkPlan.Document.Security
import NetworkPlan.Subnet.Basic

/-!
# Errors

Why no plan comes out. Every error ends the run; its wording is fixed here.
-/

namespace NetworkPlan

/-- What is wrong with an input document as such. -/
inductive DocumentError where
  /-- The text of a block cannot be read. -/
  | badBlock (e : NotationError)
  | noFile (path : String)
  | unreadable (path : String) (detail : String)
  | notJson (path : String) (e : SyntaxError)
  | badShape (what : String) (failure : Failure)
  | badTarget (e : TargetError)

/-- What cannot be resolved. -/
inductive ResolutionError where
  | unknownSelector (name : String)
  | idleSelector (name fallback : String)
  | unknownTarget (aliasName : String)
  /-- A rule names no address on one of its sides. -/
  | emptySide (rule : Option String) (owner side : String)
  | unresolved (rule : Option String) (owner side token : String)
  | noFirewall (aliasName : String)
  | noFirewallHost (block : Block)
  | noIngress (aliasName : String)
  | badNextHop (text : String)
  | noInboundTarget
  | noInboundBlock (aliasName : String)
deriving DecidableEq

/-- Why no plan comes out. -/
inductive PlanError where
  | document (e : DocumentError)
  /-- The documents do not pass validation; one line for each finding. -/
  | invalid (lines : List String)
  /-- A subnet does not fit into what is left of the address ranges. -/
  | noSpace (request : SubnetRequest)
  | resolution (e : ResolutionError)
  | unsetVariable (name : String)
  | notWritten (path : String) (detail : String)

namespace DocumentError

def message : DocumentError → String
  | badBlock e => e.message
  | noFile path => s!"file does not exist: {path}"
  | unreadable path detail => s!"Error reading {path}: {detail}"
  | notJson path e => s!"Error parsing JSON {path}: {e.message}"
  | badShape what failure => s!"Error parsing {what}: {failure.message}"
  | badTarget e => e.message

end DocumentError

namespace ResolutionError

/-- How a message names a rule: by its name, if it has one. -/
def ruleText : Option String → String
  | some name => s!"'{name}' "
  | none => ""

def message : ResolutionError → String
  | unknownSelector name => s!"unknown selector '{name}'"
  | idleSelector name fallback =>
      s!"selector '{name}' needs an override address or an allocated '{fallback}' subnet"
  | unknownTarget aliasName => s!"rule template targets unknown subnet '{aliasName}'"
  | emptySide rule owner side =>
      "rule " ++ ruleText rule ++ s!"on subnet '{owner}': {side} is an empty list"
  | unresolved rule owner side token =>
      "rule " ++ ruleText rule
        ++ s!"on subnet '{owner}': {side} '{token}' is not an address, service tag or subnet"
  | noFirewall aliasName => s!"firewall subnet '{aliasName}' is not allocated"
  | noFirewallHost block => s!"no usable address in firewall subnet {block}"
  | noIngress aliasName => s!"ingress subnet '{aliasName}' is not allocated"
  | badNextHop text => s!"egressNextHopIp '{text}' is not a valid IP address"
  | noInboundTarget => "inboundTargetSubnetAliases has no allocated subnet"
  | noInboundBlock aliasName => s!"no prefix for inbound target '{aliasName}'"

end ResolutionError

namespace PlanError

/-- The wording of an error. -/
def message : PlanError → String
  | document e => "configuration error: " ++ e.message
  | invalid lines =>
      s!"{lines.length} validation error(s):\n  - " ++ "\n  - ".intercalate lines
  | noSpace r =>
      s!"subnet '{r.name}' (alias '{r.aliasName}', /{r.prefixLength}) does not fit in "
        ++ "vnetAddressPrefixes"
  | resolution e => "resolution error: " ++ e.message
  | unsetVariable name => s!"usage error: environment variable {name} is not set"
  | notWritten path detail => s!"failed to write {path}: {detail}"

/-- The exit status of a run that ends with the error. -/
def exitStatus : PlanError → Nat
  | unsetVariable _ => 2
  | _ => 1

end PlanError
end NetworkPlan
