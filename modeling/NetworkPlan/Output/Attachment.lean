import NetworkPlan.Security.Group
import NetworkPlan.Routing.Plan

/-!
# Attachments

Which security group and which route table a subnet is attached to. The firewall subnet is left
out; it is managed by the cloud provider.
-/

namespace NetworkPlan

/-- A subnet with its security group and route table; a name is empty where there is none. -/
structure Attachment where
  name : String
  aliasName : String
  block : Block
  securityGroup : String
  routeTable : String
deriving DecidableEq

/-- The attachment of one subnet. -/
def attachment (settings : Settings) (groups : List SecurityGroup) (routes : RoutePlan)
    (s : Subnet) : Attachment where
  name := s.name
  aliasName := s.aliasName
  block := s.block
  securityGroup :=
    if groups.any (·.aliasName == s.aliasName) then
      settings.resourceName "nsg" ++ "-" ++ s.aliasName
    else ""
  routeTable :=
    match routes.tableFor s.aliasName with
    | some table => settings.resourceName "rt" ++ "-" ++ table
    | none => ""

/-- The attachments of all subnets but the firewall's, in their order. -/
def attachments (settings : Settings) (subnets : List Subnet) (groups : List SecurityGroup)
    (routes : RoutePlan) (firewallAlias : String) : List Attachment :=
  (subnets.filter fun s => !(s.aliasName == firewallAlias)).map (attachment settings groups routes)

end NetworkPlan
