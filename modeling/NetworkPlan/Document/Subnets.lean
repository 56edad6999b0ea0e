import NetworkPlan.Document.Settings
import NetworkPlan.Subnet.Basic

/-!
# The subnet document

Subnets are described by name and alias, or, in the older format, by name and token. Both forms
give one kind of request: the alias of a subnet is its alias, else its token, else its name.
-/

namespace NetworkPlan

/-- A subnet as described in the document. -/
structure SubnetDescription where
  name : String
  aliasName : Option String
  legacyToken : Option String
  prefixLength : Nat
  /-- Members that have no meaning here and are passed on. -/
  properties : List (String × Json)

/-- The document formats a description can be in. -/
inductive Generation where
  | aliased
  | legacy
  | nameOnly
deriving DecidableEq

/-- The subnet document. -/
structure SubnetDocument where
  modulesName : String
  lockKind : String
  descriptions : List SubnetDescription

/-- The modules that documents belong to unless they say otherwise. -/
def defaultModulesName : String := "nw"

/-- The kind of lock that documents ask for unless they say otherwise. -/
def defaultLockKind : String := "CanNotDelete"

/-- The alias of the subnet that an outside bastion replaces. -/
def bastionAlias : String := "bastion"

namespace SubnetDescription

def record : Record SubnetDescription where
  name := "SubnetEntry"
  initial := ⟨"", none, none, 0, []⟩
  members := [
    .required "name" .string fun v s => { s with name := v },
    .nullable "alias" .string fun v s => { s with aliasName := v },
    .nullable "nsg-rule" .string (fun v s => { s with legacyToken := v }) ["legacyToken"],
    .required "prefixLength" .byte fun v s => { s with prefixLength := v }]
  others := .kept fun key value s => { s with properties := Entries.put key value s.properties }

/-- The format the description is in. -/
def generation (d : SubnetDescription) : Generation :=
  match d.aliasName, d.legacyToken with
  | some _, _ => .aliased
  | none, some _ => .legacy
  | none, none => .nameOnly

/-- The identifier that rules and routes use. -/
def effectiveAlias (d : SubnetDescription) : String :=
  match d.aliasName, d.legacyToken with
  | some aliasName, _ => aliasName
  | none, some token => token
  | none, none => d.name

/-- The request the description stands for. -/
def request (d : SubnetDescription) : SubnetRequest :=
  ⟨d.name, d.effectiveAlias, d.prefixLength, d.legacyToken⟩

end SubnetDescription

namespace SubnetDocument

def record : Record SubnetDocument where
  name := "SubnetsConfig"
  initial := ⟨defaultModulesName, defaultLockKind, []⟩
  members := [
    .defaulted "modulesName" .string fun v s => { s with modulesName := v },
    .defaulted "lockKind" .string fun v s => { s with lockKind := v },
    .required "subnetDefinitions" (.list SubnetDescription.record.decode)
      fun v s => { s with descriptions := v }]
  others := .skipped

/-- The requests in document order; with a bastion outside, the local one is not asked for. -/
def requests (doc : SubnetDocument) (settings : Settings) : List SubnetRequest :=
  (doc.descriptions.map SubnetDescription.request).filter fun r =>
    !(settings.sharedBastionIp?.isSome && r.aliasName == bastionAlias)

/-- What the first description with an alias passes on. -/
def propertiesFor (doc : SubnetDocument) (aliasName : String) : Option (List (String × Json)) :=
  (doc.descriptions.find? fun d => d.effectiveAlias == aliasName).map (·.properties)

end SubnetDocument
end NetworkPlan
