import Mathlib
import NetworkPlan.Plan
import NetworkPlan.Proofs.Decoder.Value
import NetworkPlan.Proofs.Subnet.Cursor

/-!
# The stages of a plan

What is known about the inputs when a plan comes out, and at which stage each error arises.  Facts
about plans are derived from these two descriptions, so that none of them takes the stages apart
again.
-/

namespace NetworkPlan

theorem readValue_eq_ok {α : Type} {decoder : Decoder α} {what : String} {value : Json} {a : α} :
    readValue decoder what value = .ok a ↔ decoder.Reads value a :=
  mapError_eq_ok

theorem ensureValid_eq_ok {common subnets : Json} {u : Unit} :
    ensureValid common subnets = .ok u ↔ validationLines common subnets = [] := by
  unfold ensureValid
  split
  next h => simp [h]
  next hne => simpa using hne

/-- The parts of a plan are what the stages make of the inputs. -/
structure Plan.MadeFrom (plan : Plan) (inputs : Inputs) : Prop where
  valid : validationLines inputs.common inputs.subnets = []
  settings : Settings.record.decode.Reads inputs.common plan.settings
  subnetDocument : SubnetDocument.record.decode.Reads inputs.subnets plan.subnetDocument
  security : plan.security = inputs.security
  routing : plan.routing = inputs.routing
  firewall : plan.firewall = inputs.firewall
  requests : plan.requests = plan.subnetDocument.requests plan.settings
  subnets : allocate plan.settings.network.addressPrefixes plan.requests = .ok plan.subnets
  groups : (Directory.build plan.settings plan.security plan.requests plan.subnets).securityGroups
    plan.security plan.subnets = .ok plan.groups
  routes : (Directory.build plan.settings plan.security plan.requests plan.subnets).routePlan
    plan.routing plan.settings.egressNextHopIp? = .ok plan.routes
  attachments : plan.attachments =
    NetworkPlan.attachments plan.settings plan.subnets plan.groups plan.routes
      plan.routing.firewallAlias
  freeBlocks : plan.freeBlocks =
    NetworkPlan.freeBlocks plan.settings.network.addressPrefixes (plan.subnets.map (·.block))

theorem compile_eq_ok_iff {inputs : Inputs} {plan : Plan} :
    compile inputs = .ok plan ↔ plan.MadeFrom inputs := by
  simp only [compile, bind_eq_ok, mapError_eq_ok, readValue_eq_ok, ensureValid_eq_ok, pure_eq_ok]
  constructor
  · intro h
    rcases h with ⟨_, hvalid, settings, hsettings, document, hdocument, subnets, hsubnets,
      groups, hgroups, routes, hroutes, rfl⟩
    exact ⟨hvalid, hsettings, hdocument, rfl, rfl, rfl, rfl, hsubnets, hgroups, hroutes, rfl, rfl⟩
  · intro h
    have hsubnets := h.subnets
    have hgroups := h.groups
    have hroutes := h.routes
    have hattachments := h.attachments
    have hfree := h.freeBlocks
    rw [h.requests] at hsubnets hgroups hroutes
    rw [h.security] at hgroups hroutes
    rw [h.routing] at hroutes hattachments
    refine ⟨(), h.valid, plan.settings, h.settings, plan.subnetDocument, h.subnetDocument,
      plan.subnets, hsubnets, plan.groups, hgroups, plan.routes, hroutes, ?_⟩
    rw [← hattachments, ← hfree, ← h.requests, ← h.security, ← h.routing, ← h.firewall]

/-!
# A plan for three subnets
-/

namespace Inputs

/-- A common document with every section that validation asks for. -/
def sampleCommon : Json :=
  .object [
    ("common", .object [("location", .string "japaneast"), ("environmentName", .string "dev"),
      ("systemName", .string "shop"), ("enableResourceLock", .bool true)]),
    ("network", .object [("vnetAddressPrefixes", .strings ["10.0.0.0/16"]),
      ("vnetDnsServers", .array []), ("sharedBastionIp", .string " 10.9.0.4 "),
      ("egressNextHopIp", .string "10.9.0.5"), ("enableFirewallIdps", .bool false),
      ("enableDdosProtection", .bool false), ("ddosProtectionPlanId", .string ""),
      ("enableGatewayRoutePropagation", .bool false),
      ("enableCentralizedPrivateDns", .bool false)]),
    ("aks", .object [("userPoolVmSize", .string "D4"), ("userPoolCount", .ofNat 1),
      ("userPoolMinCount", .ofNat 1), ("userPoolMaxCount", .ofNat 1),
      ("userPoolLabel", .string "user"), ("podCidr", .string "172.16.0.0/16"),
      ("serviceCidr", .string "172.17.0.0/16")]),
    ("postgres", .object [("skuTier", .string "Burstable"), ("skuName", .string "B1"),
      ("storageSizeGB", .ofNat 32), ("enableStorageAutoGrow", .bool false),
      ("enableZoneRedundantHa", .bool false), ("enableGeoRedundantBackup", .bool false),
      ("backupRetentionDays", .ofNat 7), ("enableCustomMaintenanceWindow", .bool false)]),
    ("redis", .object [("skuName", .string "Basic"), ("capacity", .ofNat 0),
      ("shardCount", .ofNat 1), ("scaleStrategy", .string "vertical"),
      ("zonalAllocationPolicy", .string "NoZones"), ("zones", .array []),
      ("replicasPerMaster", .ofNat 0), ("enableGeoReplication", .bool false),
      ("enableMicrosoftEntraAuthentication", .bool false),
      ("disableAccessKeyAuthentication", .bool false),
      ("enableCustomMaintenanceWindow", .bool false), ("enableRdbBackup", .bool false),
      ("rdbBackupFrequencyInMinutes", .ofNat 60), ("rdbBackupMaxSnapshotCount", .ofNat 1),
      ("rdbStorageConnectionString", .string "")]),
    ("cosno", .object [("throughputMode", .string "Manual"), ("manualThroughputRu", .ofNat 400),
      ("autoscaleMaxThroughputRu", .ofNat 1000), ("backupPolicyType", .string "Continuous"),
      ("periodicBackupIntervalInMinutes", .ofNat 60),
      ("periodicBackupRetentionIntervalInHours", .ofNat 8),
      ("periodicBackupStorageRedundancy", .string "Local"),
      ("continuousBackupTier", .string "Continuous7Days"), ("failoverRegions", .array []),
      ("enableAutomaticFailover", .bool false), ("enableMultipleWriteLocations", .bool false),
      ("disableLocalAuth", .bool false), ("disableKeyBasedMetadataWriteAccess", .bool false),
      ("consistencyLevel", .string "Session")]),
    ("resourceToggles", .object (Validation.toggleKeys.map fun family => (family, .bool true)))]

/-- One definition in each format. -/
def sampleSubnets : Json :=
  .object [("subnetDefinitions", .array [
    .object [("name", .string "snet-user"), ("alias", .string "usernode"),
      ("prefixLength", .ofNat 24)],
    .object [("name", .string "snet-agic"), ("nsg-rule", .string "agic"),
      ("prefixLength", .ofNat 24)],
    .object [("name", .string "firewall"), ("prefixLength", .ofNat 26)]])]

/-- Documents for three subnets; the others say nothing. -/
def sample : Inputs :=
  ⟨sampleCommon, sampleSubnets, .default, .default, .default⟩

/-- Nothing is wrong with the common document, so only the subnets are left to be checked. -/
theorem validationLines_sampleCommon {subnets : Json}
    (h : (Validation.checkSubnets subnets).findings = []) :
    validationLines sampleCommon subnets = [] := by
  have hcommon : (Validation.checkCommon sampleCommon).findings = [] := rfl
  rw [validationLines, validate, Checked.findings_bind, hcommon, h]
  rfl

end Inputs

namespace Plan

def sampleSettings : Settings :=
  ⟨⟨"japaneast", "dev", "shop", true⟩,
    ⟨[Block.ofNetwork 0x0A000000 16], [], " 10.9.0.4 ", "10.9.0.5", false, false, ""⟩,
    Validation.toggleKeys.map fun family => (family, true)⟩

def sampleDocument : SubnetDocument :=
  ⟨defaultModulesName, defaultLockKind, [
    ⟨"snet-user", some "usernode", none, 24, []⟩,
    ⟨"snet-agic", none, some "agic", 24, []⟩,
    ⟨"firewall", none, none, 26, []⟩]⟩

def sampleRequests : List SubnetRequest := [
  ⟨"snet-user", "usernode", 24, none⟩,
  ⟨"snet-agic", "agic", 24, some "agic"⟩,
  ⟨"firewall", "firewall", 26, none⟩]

def sampleSubnets : List Subnet := [
  ⟨"snet-user", "usernode", Block.ofNetwork 0x0A000000 24⟩,
  ⟨"snet-agic", "agic", Block.ofNetwork 0x0A000100 24⟩,
  ⟨"firewall", "firewall", Block.ofNetwork 0x0A000200 26⟩]

def sampleRoutes : RoutePlan :=
  ⟨.ofNat 0x0A000201, [
    ⟨ingressTable,
      [⟨"udr-usernode-inbound", "10.0.0.0/24", applianceHop, .ofNat 0x0A000201⟩], ["agic"]⟩,
    ⟨egressTable,
      [⟨"udr-internet-outbound", "0.0.0.0/0", applianceHop, .ofNat 0x0A090005⟩], []⟩]⟩

/-- The plan for the sample documents. -/
def sample : Plan where
  settings := sampleSettings
  subnetDocument := sampleDocument
  security := .default
  routing := .default
  firewall := .default
  requests := sampleRequests
  subnets := sampleSubnets
  groups := [⟨"usernode", []⟩]
  routes := sampleRoutes
  attachments := NetworkPlan.attachments sampleSettings sampleSubnets [⟨"usernode", []⟩]
    sampleRoutes RoutingDocument.default.firewallAlias
  freeBlocks := NetworkPlan.freeBlocks sampleSettings.network.addressPrefixes
    (sampleSubnets.map (·.block))

theorem sample_madeFrom : sample.MadeFrom Inputs.sample where
  valid := Inputs.validationLines_sampleCommon rfl
  settings := by
    unfold Decoder.Reads
    rfl
  subnetDocument := by
    unfold Decoder.Reads
    rfl
  security := rfl
  routing := rfl
  firewall := rfl
  requests := rfl
  subnets := by
    -- Sorting does not reduce by itself.
    have horder : bySize sampleRequests = sampleRequests := by
      cbv
    show allocate sampleSettings.network.addressPrefixes sampleRequests = .ok sampleSubnets
    rw [allocate, horder]
    rfl
  groups := rfl
  routes := rfl
  attachments := rfl
  freeBlocks := rfl

end Plan

/-!
# Errors
-/

/-- The stage at which an error arises. -/
inductive FailsWith (inputs : Inputs) : PlanError -> Prop
  | validation {lines : List String}
      (hlines : validationLines inputs.common inputs.subnets = lines) (hne : lines ≠ []) :
      FailsWith inputs (.invalid lines)
  | settings {f : Failure}
      (hfailure : Settings.record.decode .value (Draft.ofJson inputs.common) = .error f) :
      FailsWith inputs (.document (.badShape "common parameters" f))
  | subnetDocument {f : Failure}
      (hfailure : SubnetDocument.record.decode .value (Draft.ofJson inputs.subnets) = .error f) :
      FailsWith inputs (.document (.badShape "subnets config" f))
  | allocation {settings : Settings} {document : SubnetDocument} {request : SubnetRequest}
      (hvalid : validationLines inputs.common inputs.subnets = [])
      (hsettings : Settings.record.decode.Reads inputs.common settings)
      (hdocument : SubnetDocument.record.decode.Reads inputs.subnets document)
      (hfailure : allocate settings.network.addressPrefixes (document.requests settings) =
        .error request) :
      FailsWith inputs (.noSpace request)
  | groups {settings : Settings} {document : SubnetDocument} {subnets : List Subnet}
      {e : PlanError} (hvalid : validationLines inputs.common inputs.subnets = [])
      (hsettings : Settings.record.decode.Reads inputs.common settings)
      (hdocument : SubnetDocument.record.decode.Reads inputs.subnets document)
      (hsubnets : allocate settings.network.addressPrefixes (document.requests settings) =
        .ok subnets)
      (hfailure : (Directory.build settings inputs.security (document.requests settings)
        subnets).securityGroups inputs.security subnets = .error e) :
      FailsWith inputs e
  | routes {settings : Settings} {document : SubnetDocument} {subnets : List Subnet}
      {e : ResolutionError} (hvalid : validationLines inputs.common inputs.subnets = [])
      (hsettings : Settings.record.decode.Reads inputs.common settings)
      (hdocument : SubnetDocument.record.decode.Reads inputs.subnets document)
      (hsubnets : allocate settings.network.addressPrefixes (document.requests settings) =
        .ok subnets)
      (hfailure : (Directory.build settings inputs.security (document.requests settings)
        subnets).routePlan inputs.routing settings.egressNextHopIp? = .error e) :
      FailsWith inputs (.resolution e)

theorem failsWith_of_compile {inputs : Inputs} {e : PlanError}
    (h : compile inputs = .error e) : FailsWith inputs e := by
  unfold compile at h
  rcases bind_eq_error.mp h with hinvalid | ⟨_, hvalid, h⟩
  · unfold ensureValid at hinvalid
    split at hinvalid
    next => cases hinvalid
    next lines hne =>
      cases hinvalid
      exact FailsWith.validation rfl hne
  rw [ensureValid_eq_ok] at hvalid
  rcases bind_eq_error.mp h with hunread | ⟨settings, hsettings, h⟩
  · rcases mapError_eq_error.mp hunread with ⟨f, hf, rfl⟩
    exact FailsWith.settings hf
  rw [readValue_eq_ok] at hsettings
  rcases bind_eq_error.mp h with hunread | ⟨document, hdocument, h⟩
  · rcases mapError_eq_error.mp hunread with ⟨f, hf, rfl⟩
    exact FailsWith.subnetDocument hf
  rw [readValue_eq_ok] at hdocument
  rcases bind_eq_error.mp h with hfull | ⟨subnets, hsubnets, h⟩
  · rcases mapError_eq_error.mp hfull with ⟨request, hrequest, rfl⟩
    exact FailsWith.allocation hvalid hsettings hdocument hrequest
  rw [mapError_eq_ok] at hsubnets
  rcases bind_eq_error.mp h with hgroups | ⟨groups, _, h⟩
  · exact FailsWith.groups hvalid hsettings hdocument hsubnets hgroups
  rcases bind_eq_error.mp h with hroutes | ⟨routes, _, hpure⟩
  · rcases mapError_eq_error.mp hroutes with ⟨e', he', rfl⟩
    exact FailsWith.routes hvalid hsettings hdocument hsubnets he'
  · exact absurd hpure pure_ne_error

end NetworkPlan
