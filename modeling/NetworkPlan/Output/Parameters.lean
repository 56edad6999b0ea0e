import NetworkPlan.Plan
import NetworkPlan.Output.Bicep

/-!
# Parameter documents

One document for each family of resources: the parameters of its deployment and the metadata
that the deployment step needs. Documents come in deployment order.
-/

namespace NetworkPlan

/-- The parameters and the metadata of one family of resources. -/
structure ParameterDocument where
  family : String
  parameters : List (String × Json)
  /-- Metadata before the path of the parameter file. -/
  metadata : List (String × Json)
  /-- Metadata after that path. -/
  derived : List (String × Json)

namespace ParameterDocument

/-- The text of the parameter file. -/
def render (doc : ParameterDocument) : String :=
  let header := "using " ++ Bicep.quote s!"../bicep/main.{doc.family}.bicep"
  let lines := header :: doc.parameters.map fun (name, value) => Bicep.parameter name value
  "\n".intercalate (lines ++ [""])

/-- The metadata for a parameter file at a given path. -/
def metadataFor (doc : ParameterDocument) (path : String) : Json :=
  .object ((Entries.put "paramsFile" (.string path) doc.metadata).putAll doc.derived)

end ParameterDocument

/-- A rule as the provider expects it: each side and the ports in the form for one or for many. -/
def Rule.toJson (r : Rule) : Json :=
  let field (name : String) : OneOrMany → String × Json
    | .one value => (name, .string value)
    | .many values => (name ++ "es", .strings values)
  let ports : String × Json :=
    match r.destinationPorts with
    | .one value => ("destinationPortRange", .string value)
    | .many values => ("destinationPortRanges", .strings values)
  .object [
    ("name", .string r.name),
    ("properties", .object [
      field "sourceAddressPrefix" r.source,
      ("sourcePortRange", .string r.sourcePortRange),
      field "destinationAddressPrefix" r.destination,
      ports,
      ("protocol", .string r.protocol),
      ("access", .string r.access),
      ("priority", .ofNat r.priority),
      ("direction", .string r.direction.toText)])]

def SecurityGroup.toJson (g : SecurityGroup) : Json :=
  .object [
    ("subnetName", .string g.aliasName),
    ("securityRules", .array (g.rules.map Rule.toJson))]

def Route.toJson (r : Route) : Json :=
  .object [
    ("name", .string r.name),
    ("properties", .object [
      ("addressPrefix", .string r.addressPrefix),
      ("nextHopType", .string r.nextHopType),
      ("nextHopIpAddress", .string r.nextHop.toText)])]

def RouteTable.toJson (t : RouteTable) : Json :=
  .object [
    ("name", .string t.name),
    ("routes", .array (t.routes.map Route.toJson)),
    ("subnetNames", .strings t.members)]

def Attachment.toJson (a : Attachment) : Json :=
  .object [
    ("name", .string a.name),
    ("alias", .string a.aliasName),
    ("addressPrefix", .string a.block.toText),
    ("networkSecurityGroupName", .string a.securityGroup),
    ("routeTableName", .string a.routeTable)]

namespace Plan

/-- The parameters that say where and under which names resources are deployed. -/
def identityParameters (p : Plan) (modulesName lockKind : String) : List (String × Json) :=
  let d := p.settings.deployment
  [("environmentName", .string d.environmentName),
   ("systemName", .string d.systemName),
   ("location", .string d.location),
   ("modulesName", .string modulesName),
   ("lockKind", .string (p.settings.effectiveLockKind lockKind))]

def logParameters (p : Plan) : List (String × Json) :=
  [("logAnalyticsName", .string p.settings.logAnalyticsName),
   ("logAnalyticsResourceGroupName", .string p.settings.logAnalyticsResourceGroupName)]

/-- The resource group, and whether the family is deployed. -/
def groupMetadata (p : Plan) (modulesName toggle : String) : List (String × Json) :=
  [("resourceGroupName", .string (p.settings.resourceGroupName modulesName)),
   ("deploy", .bool (p.settings.toggle toggle))]

def virtualNetwork (p : Plan) : ParameterDocument :=
  let s := p.settings
  let n := s.network
  let doc := p.subnetDocument
  { family := "virtual-network"
    parameters := p.identityParameters doc.modulesName doc.lockKind ++ p.logParameters ++ [
      ("vnetName", .string s.vnetName),
      ("vnetAddressPrefixes", .strings (n.addressPrefixes.map Block.toText)),
      ("vnetDnsServers", .strings n.dnsServers),
      ("enableDdosProtection", .bool n.enableDdosProtection),
      ("ddosProtectionPlanId", .string n.ddosProtectionPlanId),
      ("ddosProtectionPlanName", .string (s.resourceName "ddos"))]
    metadata := ("location", .string s.deployment.location)
      :: p.groupMetadata doc.modulesName "virtualNetwork"
    derived := [] }

/-- A subnet with what its description passes on, which may replace what comes before it; the
block comes last and is never replaced. -/
def subnetJson (p : Plan) (s : Subnet) : Json :=
  let named : List (String × Json) := [("name", .string s.name), ("alias", .string s.aliasName)]
  let sized :=
    match p.requests.find? (·.aliasName == s.aliasName) with
    | some r => Entries.put "prefixLength" (.ofNat r.prefixLength) named
    | none => named
  let passed := Entries.putAll sized ((p.subnetDocument.propertiesFor s.aliasName).getD [])
  .object (Entries.put "addressPrefix" (.string s.block.toText) passed)

def subnetParameters (p : Plan) : ParameterDocument :=
  let s := p.settings
  { family := "subnets"
    parameters := [
      ("vnetName", .string s.vnetName),
      ("subnets", .array (p.subnets.map p.subnetJson))]
    metadata := [
      ("resourceGroupName", .string (s.resourceGroupName p.subnetDocument.modulesName)),
      ("vnetName", .string s.vnetName),
      ("deploy", .bool (s.toggle "subnets"))]
    derived := [] }

def groupParameters (p : Plan) : ParameterDocument :=
  let doc := p.security
  { family := "nsgs"
    parameters := p.identityParameters doc.modulesName doc.lockKind ++ p.logParameters ++ [
      ("nsgs", .array (p.groups.map SecurityGroup.toJson))]
    metadata := p.groupMetadata doc.modulesName "subnets"
    derived := [] }

def routeParameters (p : Plan) : ParameterDocument :=
  let doc := p.routing
  { family := "route-tables"
    parameters := p.identityParameters doc.modulesName doc.lockKind ++ [
      ("routeTables", .array (p.routes.tables.map RouteTable.toJson))]
    metadata := p.groupMetadata doc.modulesName "subnets"
    derived := [] }

def attachmentParameters (p : Plan) : ParameterDocument :=
  { family := "subnet-attachments"
    parameters := [
      ("vnetName", .string p.settings.vnetName),
      ("subnets", .array (p.attachments.map Attachment.toJson))]
    metadata := p.groupMetadata p.subnetDocument.modulesName "subnets"
    derived := [] }

def firewallParameters (p : Plan) : ParameterDocument :=
  let s := p.settings
  let doc := p.firewall
  { family := "firewall"
    parameters := p.identityParameters doc.modulesName doc.lockKind ++ p.logParameters ++ [
      ("vnetName", .string s.vnetName),
      ("enableFirewallIdps", .bool s.network.enableFirewallIdps),
      ("publicIPName", .string (s.resourceName "pip-afw")),
      ("firewallPolicyName", .string (s.resourceName "afwp")),
      ("firewallName", .string (s.resourceName "afw")),
      ("ipConfigurationName", .string (s.resourceName "ipconf-afw")),
      ("publicIPSku", .string doc.publicIpSku),
      ("publicIPAllocationMethod", .string doc.publicIpAllocationMethod),
      ("publicIPAddressVersion", .string doc.publicIpAddressVersion),
      ("protectionMode",
        .string (if s.network.enableDdosProtection then "Enabled" else "Disabled")),
      ("threatIntelMode", .string doc.threatIntelMode),
      ("intrusionDetectionMode", .string doc.intrusionDetectionMode)]
    metadata := p.groupMetadata doc.modulesName "firewall"
    derived := [("firewallPrivateIp", .string p.routes.firewallAddress.toText)] }

/-- The documents of all families, in deployment order. -/
def documents (p : Plan) : List ParameterDocument := [
  p.virtualNetwork, p.subnetParameters, p.groupParameters, p.routeParameters,
  p.attachmentParameters, p.firewallParameters]

end Plan
end NetworkPlan
