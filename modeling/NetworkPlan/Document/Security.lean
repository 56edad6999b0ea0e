import NetworkPlan.Document.Subnets

/-!
# The security document

Rule templates, each aimed at one subnet, with the names that may stand in a rule: service tags
and selectors.
-/

namespace NetworkPlan

/-- The direction of traffic a rule is about. -/
inductive Direction where
  | inbound
  | outbound
deriving DecidableEq

def Direction.toText : Direction → String
  | inbound => "Inbound"
  | outbound => "Outbound"

/-- One value, or a list of them. -/
inductive OneOrMany where
  | one (value : String)
  | many (values : List String)
deriving DecidableEq

/-- The values in order. -/
def OneOrMany.toList : OneOrMany → List String
  | one value => [value]
  | many values => values

/-- A rule as described in a template; what is left out has a default. -/
structure RuleDescription where
  name : Option String
  direction : Option Direction
  source : Option OneOrMany
  destination : Option OneOrMany
  sourceSelector : Option String
  protocol : Option String
  sourcePortRange : Option String
  destinationPortRange : Option String
  destinationPortRanges : Option (List String)
  access : Option String
  priority : Option Nat
deriving DecidableEq

/-- A named address: an outside one, or else the block of a subnet. -/
structure Selector where
  overrideIp : Option String
  fallbackSubnet : String
deriving DecidableEq

/-- Rules for one subnet, which is given by alias or, in the older format, by token. -/
structure RuleTemplate where
  targetSubnet : Option String
  legacyTarget : Option String
  rules : List RuleDescription

/-- The subnet a template is aimed at. -/
inductive TemplateTarget where
  | aliasName (aliasName : String)
  | token (token : String)
deriving DecidableEq

/-- Why a template has no target. -/
inductive TargetError where
  | both (aliasName token : String)
  | neither
deriving DecidableEq

def TargetError.message : TargetError → String
  | both aliasName token =>
      s!"rule template sets both targetSubnet '{aliasName}' and legacyTarget '{token}'"
  | neither => "rule template needs targetSubnet or legacyTarget"

/-- The security document. -/
structure SecurityDocument where
  modulesName : String
  lockKind : String
  /-- Subnets that never get a security group. -/
  excludedAliases : List String
  /-- Names that stand for themselves in a rule. -/
  serviceTags : List String
  selectors : Entries Selector
  templates : List RuleTemplate

namespace OneOrMany

/-- The texts of a list of values, if all of them are texts. -/
def texts? : List Json → Option (List String)
  | [] => some []
  | .string s :: rest => (texts? rest).map (s :: ·)
  | _ :: _ => none

/-- A text or a list of texts. -/
def decode : Decoder OneOrMany :=
  fun origin d => do
    let value ← Decoder.json origin d
    let failure := Failure.here (.noAlternative "Peer")
    match value with
    | .string s => .ok (one s)
    | .array items =>
        match texts? items with
        | some texts => .ok (many texts)
        | none => .error failure
    | _ => .error failure

end OneOrMany

def Direction.decode : Decoder Direction :=
  .choice [("Inbound", inbound), ("Outbound", outbound)]

namespace RuleDescription

def empty : RuleDescription :=
  ⟨none, none, none, none, none, none, none, none, none, none, none⟩

def record : Record RuleDescription where
  name := "RuleSpec"
  initial := empty
  members := [
    .nullable "name" .string fun v s => { s with name := v },
    .nullable "direction" Direction.decode fun v s => { s with direction := v },
    .nullable "source" OneOrMany.decode fun v s => { s with source := v },
    .nullable "destination" OneOrMany.decode fun v s => { s with destination := v },
    .nullable "sourceSelector" .string fun v s => { s with sourceSelector := v },
    .nullable "protocol" .string fun v s => { s with protocol := v },
    .nullable "sourcePortRange" .string fun v s => { s with sourcePortRange := v },
    .nullable "destinationPortRange" .string fun v s => { s with destinationPortRange := v },
    .nullable "destinationPortRanges" (.list .string)
      fun v s => { s with destinationPortRanges := v },
    .nullable "access" .string fun v s => { s with access := v },
    .nullable "priority" .word fun v s => { s with priority := v }]
  others := .refused

end RuleDescription

namespace Selector

def record : Record Selector where
  name := "SelectorConfig"
  initial := ⟨none, ""⟩
  members := [
    .defaulted "overrideIp" (.option .string) fun v s => { s with overrideIp := v },
    .required "fallbackSubnet" .string fun v s => { s with fallbackSubnet := v }]
  others := .skipped

end Selector

namespace RuleTemplate

def record : Record RuleTemplate where
  name := "RuleTemplate"
  initial := ⟨none, none, []⟩
  members := [
    .nullable "targetSubnet" .string fun v s => { s with targetSubnet := v },
    .nullable "legacyTarget" .string (fun v s => { s with legacyTarget := v }) ["targetNsgRule"],
    .defaulted "rules" (.list RuleDescription.record.decode) fun v s => { s with rules := v }]
  others := .skipped

/-- The one target a template must have. -/
def target (t : RuleTemplate) : Except TargetError TemplateTarget :=
  match t.targetSubnet, t.legacyTarget with
  | some aliasName, none => .ok (.aliasName aliasName)
  | none, some token => .ok (.token token)
  | some aliasName, some token => .error (.both aliasName token)
  | none, none => .error .neither

end RuleTemplate

namespace SecurityDocument

/-- A document that says nothing. -/
def default : SecurityDocument where
  modulesName := defaultModulesName
  lockKind := defaultLockKind
  excludedAliases := ["agic", "firewall", "bastion"]
  serviceTags := [
    "Internet", "VirtualNetwork", "AzureLoadBalancer", "GatewayManager", "AzureCloud",
    "AzureMonitor", "Storage", "Sql", "AzureKeyVault", "AzureContainerRegistry",
    "AzureActiveDirectory", "AzureFrontDoor.Backend"]
  selectors := []
  templates := []

def record : Record SecurityDocument where
  name := "NsgConfig"
  initial := default
  members := [
    .defaulted "modulesName" .string fun v s => { s with modulesName := v },
    .defaulted "lockKind" .string fun v s => { s with lockKind := v },
    .defaulted "excludedSubnetAliases" (.list .string) fun v s => { s with excludedAliases := v },
    .defaulted "serviceTags" (.list .string) fun v s => { s with serviceTags := v },
    .defaulted "selectors" (.entries Selector.record.decode) fun v s => { s with selectors := v },
    .defaulted "templates" (.list RuleTemplate.record.decode) fun v s => { s with templates := v }]
  others := .skipped

/-- Whether a subnet never gets a security group. -/
def isExcluded (doc : SecurityDocument) (aliasName : String) : Bool :=
  doc.excludedAliases.contains aliasName

end SecurityDocument
end NetworkPlan
