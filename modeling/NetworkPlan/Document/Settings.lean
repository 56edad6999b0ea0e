import NetworkPlan.Decoder.Record

/-!
# Common settings

The part of the common document that the network plan needs: where and under which names things
are deployed, the virtual network, and which resource families are switched on. Other sections
of the document are checked elsewhere and have no place here.
-/

namespace NetworkPlan

/-- Where and under which names resources are deployed. -/
structure Deployment where
  location : String
  environmentName : String
  systemName : String
  enableResourceLock : Bool

/-- The virtual network. -/
structure VirtualNetwork where
  addressPrefixes : List Block
  dnsServers : List String
  /-- Address of a bastion outside this network; blank if there is none. -/
  sharedBastionIp : String
  /-- Address that outbound traffic is sent to; blank for the firewall's own. -/
  egressNextHopIp : String
  enableFirewallIdps : Bool
  enableDdosProtection : Bool
  ddosProtectionPlanId : String

/-- The common settings. -/
structure Settings where
  deployment : Deployment
  network : VirtualNetwork
  resourceToggles : Entries Bool

namespace Deployment

def record : Record Deployment where
  name := "Identity"
  initial := ⟨"", "", "", true⟩
  members := [
    .required "location" .string fun v s => { s with location := v },
    .required "environmentName" .string fun v s => { s with environmentName := v },
    .required "systemName" .string fun v s => { s with systemName := v },
    .defaulted "enableResourceLock" .bool fun v s => { s with enableResourceLock := v }]
  others := .skipped

end Deployment

namespace VirtualNetwork

def record : Record VirtualNetwork where
  name := "NetworkSettings"
  initial := ⟨[], [], "", "", false, true, ""⟩
  members := [
    .required "vnetAddressPrefixes" (.list .block) fun v s => { s with addressPrefixes := v },
    .defaulted "vnetDnsServers" (.list .string) fun v s => { s with dnsServers := v },
    .defaulted "sharedBastionIp" .string fun v s => { s with sharedBastionIp := v },
    .defaulted "egressNextHopIp" .string fun v s => { s with egressNextHopIp := v },
    .defaulted "enableFirewallIdps" .bool fun v s => { s with enableFirewallIdps := v },
    .defaulted "enableDdosProtection" .bool fun v s => { s with enableDdosProtection := v },
    .defaulted "ddosProtectionPlanId" .string fun v s => { s with ddosProtectionPlanId := v }]
  others := .skipped

end VirtualNetwork

namespace Settings

def record : Record Settings where
  name := "Settings"
  initial := ⟨Deployment.record.initial, VirtualNetwork.record.initial, []⟩
  members := [
    .required "common" Deployment.record.decode fun v s => { s with deployment := v },
    .required "network" VirtualNetwork.record.decode fun v s => { s with network := v },
    .defaulted "resourceToggles" (.entries .bool) fun v s => { s with resourceToggles := v }]
  others := .skipped

/-- Whether a resource family is deployed; families without a toggle are. -/
def toggle (s : Settings) (family : String) : Bool :=
  (s.resourceToggles.get? family).getD true

/-- The address of a bastion outside this network, if one is given. -/
def sharedBastionIp? (s : Settings) : Option String :=
  Text.nonBlank? s.network.sharedBastionIp

/-- The address that outbound traffic is sent to, if one is given. -/
def egressNextHopIp? (s : Settings) : Option String :=
  Text.nonBlank? s.network.egressNextHopIp

/-- The name of a resource of a given kind. -/
def resourceName (s : Settings) (kind : String) : String :=
  s!"{kind}-{s.deployment.environmentName}-{s.deployment.systemName}"

/-- The resource group of a module. -/
def resourceGroupName (s : Settings) (modulesName : String) : String :=
  s.resourceName "rg" ++ "-" ++ modulesName

def vnetName (s : Settings) : String :=
  s.resourceName "vnet"

def logAnalyticsName (s : Settings) : String :=
  s.resourceName "log"

def logAnalyticsResourceGroupName (s : Settings) : String :=
  s.resourceGroupName "monitor"

/-- The kind of lock to put on resources; none if locks are switched off. -/
def effectiveLockKind (s : Settings) (lockKind : String) : String :=
  if s.deployment.enableResourceLock then lockKind else ""

end Settings
end NetworkPlan
