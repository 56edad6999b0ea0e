import NetworkPlan.Validation.Checks

/-!
# Identity, network and toggles

The sections of the common document that the network plan itself is made from.
-/

namespace NetworkPlan
namespace Validation

/-- The resource families that need a toggle. -/
def toggleKeys : List String := [
  "logAnalytics", "applicationInsights", "virtualNetwork", "subnets", "firewall",
  "applicationGateway", "acr", "storage", "redis", "cosmosDatabase", "postgresDatabase",
  "keyVault", "aks", "maintenanceVm"]

def checkIdentity (identity : Section) : Checked Unit := do
  let _ ← identity.nonBlank "location"
  let _ ← identity.nonBlank "environmentName"
  let _ ← identity.nonBlank "systemName"
  let _ ← identity.bool "enableResourceLock"

/-- The protection plan is a text; if protection is on and the text is not empty, it must be the
path of a resource. -/
def checkProtectionPlan (network : Section) (protection : Option Bool) : Checked Unit :=
  let path := network.pathTo "ddosProtectionPlanId"
  match network.get? "ddosProtectionPlanId" with
  | some (.string plan) =>
      if protection = some true ∧ plan ≠ "" ∧ ¬ "/subscriptions/".toList.isPrefixOf plan.toList then
        Checked.report path "must be an Azure resource id (/subscriptions/...) when set"
      else pure ()
  | _ => Checked.report path "must be a string (empty when unset)"

/-- Reads blocks counted from `index` and gives those that could be read. -/
def checkBlocks (path : String) (index : Nat) : List Json → Checked (List Block)
  | [] => pure []
  | value :: rest => do
      let block? ← Section.blockValue (some value) s!"{path}[{index}]"
      let blocks ← checkBlocks path (index + 1) rest
      return block?.toList ++ blocks

/-- The address ranges: at least one, each a block without host bits, no two with a common
address. Gives those that could be read. -/
def checkRanges (network : Section) : Checked (List Block) :=
  let path := network.pathTo "vnetAddressPrefixes"
  let failure := do
    Checked.report path "must be an array of one or more CIDRs"
    return []
  match network.get? "vnetAddressPrefixes" with
  | some (.array []) => failure
  | some (.array items) => do
      let blocks ← checkBlocks path 0 items
      Checked.each (fun (a, b) => Checked.report path s!"ranges overlap ({a} and {b})")
        (Block.conflicts blocks)
      return blocks
  | _ => failure

def checkNameServers (network : Section) : Checked Unit :=
  let path := network.pathTo "vnetDnsServers"
  match network.get? "vnetDnsServers" with
  | some (.array items) => Checked.eachItem Section.optionalAddressValue path 0 items
  | _ => Checked.report path "must be an array of IPv4 addresses (empty when unset)"

/-- The virtual network; gives the address ranges that could be read. -/
def checkNetwork (network : Section) : Checked (List Block) := do
  let _ ← network.bool "enableFirewallIdps"
  let protection ← network.bool "enableDdosProtection"
  let _ ← network.bool "enableGatewayRoutePropagation"
  let _ ← network.bool "enableCentralizedPrivateDns"
  checkProtectionPlan network protection
  let ranges ← checkRanges network
  network.optionalAddress "egressNextHopIp"
  network.optionalAddressOrBlock "sharedBastionIp"
  checkNameServers network
  return ranges

/-- The toggle of one resource family. -/
def checkToggle (toggles : Section) (family : String) : Checked Unit :=
  match toggles.get? family with
  | none => Checked.report (toggles.pathTo family) "is not set; use true or false"
  | some (.bool _) => pure ()
  | some _ => Checked.report (toggles.pathTo family) "must be true or false"

/-- Every resource family needs a toggle. -/
def checkToggles (root : Section) : Checked Unit := do
  let toggles ← root.subsection "resourceToggles"
  if toggles.isObject then Checked.each (checkToggle toggles) toggleKeys

end Validation
end NetworkPlan
