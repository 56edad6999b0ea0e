import NetworkPlan.Subnet.Directory
import NetworkPlan.Document.Routing

/-!
# The route plan

Traffic into protected subnets goes through the firewall: the table of the outward subnet has
one route for each of them. Traffic out of the configured subnets goes to one next hop, which is
the firewall unless another address is set.
-/

namespace NetworkPlan

/-- A route to a network by way of an appliance. -/
structure Route where
  name : String
  addressPrefix : String
  nextHopType : String
  nextHop : Address
deriving DecidableEq

/-- Routes and the subnets they apply to. -/
structure RouteTable where
  name : String
  routes : List Route
  members : List String
deriving DecidableEq

/-- The route tables and the address of the firewall. -/
structure RoutePlan where
  firewallAddress : Address
  tables : List RouteTable
deriving DecidableEq

/-- The kind of next hop that an appliance is. -/
def applianceHop : String := "VirtualAppliance"

/-- The table of the outward subnet. -/
def ingressTable : String := "firewall"

/-- The table of subnets whose outbound traffic is routed. -/
def egressTable : String := "outbound"

/-- The name of the table that applies to a subnet. -/
def RoutePlan.tableFor (p : RoutePlan) (aliasName : String) : Option String :=
  (p.tables.find? (·.members.contains aliasName)).map (·.name)

namespace Directory

/-- The first usable address of the firewall subnet. -/
def firewallAddress (d : Directory) (aliasName : String) : Except ResolutionError Address :=
  match d.blockOf aliasName with
  | none => .error (.noFirewall aliasName)
  | some block =>
      match block.host? 0 with
      | some address => .ok address
      | none => .error (.noFirewallHost block)

/-- Where outbound traffic goes. -/
def egressHop (egress : Option String) (firewall : Address) : Except ResolutionError Address :=
  match egress.bind Text.nonBlank? with
  | none => .ok firewall
  | some text =>
      match Address.parse text with
      | .ok address => .ok address
      | .error _ => .error (.badNextHop text)

/-- The route to a protected subnet. -/
def inboundRoute (d : Directory) (firewall : Address) (aliasName : String) :
    Except ResolutionError Route :=
  match d.blockOf aliasName with
  | none => .error (.noInboundBlock aliasName)
  | some block => .ok ⟨s!"udr-{aliasName}-inbound", block.toText, applianceHop, firewall⟩

/-- The routes to protected subnets. -/
def inboundRoutes (d : Directory) (firewall : Address) :
    List String → Except ResolutionError (List Route)
  | [] => .ok []
  | aliasName :: rest => do
      let route ← d.inboundRoute firewall aliasName
      let routes ← d.inboundRoutes firewall rest
      return route :: routes

/-- The route plan. Listed subnets that have no block are left out. -/
def routePlan (d : Directory) (doc : RoutingDocument) (egress : Option String) :
    Except ResolutionError RoutePlan := do
  let firewall ← d.firewallAddress doc.firewallAlias
  if !d.isAllocated doc.ingressAlias then
    throw (.noIngress doc.ingressAlias)
  let nextHop ← egressHop egress firewall
  let targets := doc.inboundTargets.filter d.isAllocated
  if targets.isEmpty then
    throw .noInboundTarget
  let routes ← d.inboundRoutes firewall targets
  let outbound : Route :=
    ⟨doc.outboundRouteName, doc.outboundPrefix.toText, applianceHop, nextHop⟩
  return {
    firewallAddress := firewall
    tables := [
      ⟨ingressTable, routes, [doc.ingressAlias]⟩,
      ⟨egressTable, [outbound], doc.outboundAliases.filter d.isAllocated⟩] }

end Directory
end NetworkPlan
