import NetworkPlan.Document.Subnets

/-!
# The routing and firewall documents

Every member of both has a default, so an empty object is a complete document.
-/

namespace NetworkPlan

/-- The routing document. -/
structure RoutingDocument where
  modulesName : String
  lockKind : String
  /-- The subnet that faces outward. -/
  ingressAlias : String
  /-- The subnet of the firewall appliance. -/
  firewallAlias : String
  /-- Subnets that inbound traffic reaches through the firewall. -/
  inboundTargets : List String
  /-- Subnets whose outbound traffic is routed. -/
  outboundAliases : List String
  outboundRouteName : String
  outboundPrefix : Block

/-- The firewall document. -/
structure FirewallDocument where
  modulesName : String
  lockKind : String
  publicIpSku : String
  publicIpAllocationMethod : String
  publicIpAddressVersion : String
  threatIntelMode : String
  intrusionDetectionMode : String

namespace RoutingDocument

/-- A document that says nothing. -/
def default : RoutingDocument where
  modulesName := defaultModulesName
  lockKind := defaultLockKind
  ingressAlias := "agic"
  firewallAlias := "firewall"
  inboundTargets := ["usernode", "agentnode"]
  outboundAliases := []
  outboundRouteName := "udr-internet-outbound"
  outboundPrefix := Block.ofNetwork 0 0

def record : Record RoutingDocument where
  name := "RouteTablesConfig"
  initial := default
  members := [
    .defaulted "modulesName" .string fun v s => { s with modulesName := v },
    .defaulted "lockKind" .string fun v s => { s with lockKind := v },
    .defaulted "ingressSubnetAlias" .string fun v s => { s with ingressAlias := v },
    .defaulted "firewallSubnetAlias" .string fun v s => { s with firewallAlias := v },
    .defaulted "inboundTargetSubnetAliases" (.list .string)
      fun v s => { s with inboundTargets := v },
    .defaulted "outboundSubnetAliases" (.list .string) fun v s => { s with outboundAliases := v },
    .defaulted "outboundRouteName" .string fun v s => { s with outboundRouteName := v },
    .defaulted "outboundAddressPrefix" .block fun v s => { s with outboundPrefix := v }]
  others := .skipped

end RoutingDocument

namespace FirewallDocument

/-- A document that says nothing. -/
def default : FirewallDocument where
  modulesName := defaultModulesName
  lockKind := defaultLockKind
  publicIpSku := "Standard"
  publicIpAllocationMethod := "Static"
  publicIpAddressVersion := "IPv4"
  threatIntelMode := "Deny"
  intrusionDetectionMode := "Alert"

def record : Record FirewallDocument where
  name := "FirewallConfig"
  initial := default
  members := [
    .defaulted "modulesName" .string fun v s => { s with modulesName := v },
    .defaulted "lockKind" .string fun v s => { s with lockKind := v },
    .defaulted "publicIPSku" .string fun v s => { s with publicIpSku := v },
    .defaulted "publicIPAllocationMethod" .string
      fun v s => { s with publicIpAllocationMethod := v },
    .defaulted "publicIPAddressVersion" .string fun v s => { s with publicIpAddressVersion := v },
    .defaulted "threatIntelMode" .string fun v s => { s with threatIntelMode := v },
    .defaulted "intrusionDetectionMode" .string
      fun v s => { s with intrusionDetectionMode := v }]
  others := .skipped

end FirewallDocument
end NetworkPlan
