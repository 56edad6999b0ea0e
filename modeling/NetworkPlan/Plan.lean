import NetworkPlan.Output.Attachment
import NetworkPlan.Subnet.Allocation
import NetworkPlan.Subnet.FreeSpace
import NetworkPlan.Validation.Documents

/-!
# The network plan

A plan is made from the input documents in fixed steps: validation, typed reading, allocation,
security groups, routes, attachments and free space. The first step that fails is the error.
-/

namespace NetworkPlan

/-- The input documents. The common and the subnet document are kept as they were read, since
validation looks at members that the plan does not use. -/
structure Inputs where
  common : Json
  subnets : Json
  security : SecurityDocument
  routing : RoutingDocument
  firewall : FirewallDocument

/-- Everything that is known once the plan is made. -/
structure Plan where
  settings : Settings
  subnetDocument : SubnetDocument
  security : SecurityDocument
  routing : RoutingDocument
  firewall : FirewallDocument
  /-- The requests that were served, in document order. -/
  requests : List SubnetRequest
  /-- The subnets, in the order in which they were given their blocks. -/
  subnets : List Subnet
  groups : List SecurityGroup
  routes : RoutePlan
  attachments : List Attachment
  freeBlocks : List FreeBlock

/-- Reads a typed document off a value; `what` names it in the error. -/
def readValue {α : Type} (decoder : Decoder α) (what : String) (value : Json) :
    Except PlanError α :=
  (decoder .value (Draft.ofJson value)).mapError fun f => .document (.badShape what f)

/-- Refuses documents that do not pass validation. -/
def ensureValid (common subnets : Json) : Except PlanError Unit :=
  match validationLines common subnets with
  | [] => .ok ()
  | lines => .error (.invalid lines)

/-- Makes the plan. -/
def compile (inputs : Inputs) : Except PlanError Plan := do
  ensureValid inputs.common inputs.subnets
  let settings ← readValue Settings.record.decode "common parameters" inputs.common
  let document ← readValue SubnetDocument.record.decode "subnets config" inputs.subnets
  let requests := document.requests settings
  let ranges := settings.network.addressPrefixes
  let subnets ← (allocate ranges requests).mapError .noSpace
  let directory := Directory.build settings inputs.security requests subnets
  let groups ← directory.securityGroups inputs.security subnets
  let routes ← (directory.routePlan inputs.routing settings.egressNextHopIp?).mapError .resolution
  return {
    settings := settings
    subnetDocument := document
    security := inputs.security
    routing := inputs.routing
    firewall := inputs.firewall
    requests := requests
    subnets := subnets
    groups := groups
    routes := routes
    attachments := attachments settings subnets groups routes inputs.routing.firewallAlias
    freeBlocks := freeBlocks ranges (subnets.map (·.block)) }

end NetworkPlan
