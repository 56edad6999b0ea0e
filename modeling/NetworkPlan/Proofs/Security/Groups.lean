import NetworkPlan.Proofs.Plan.Directory
import NetworkPlan.Proofs.Security.Expansion
import NetworkPlan.Proofs.Security.Sides

/-!
# The security groups of a plan

What ends up in the groups of a plan: the templates that were written for a subnet, its block where
a description leaves a side out, and addresses that the documents admit.  Each of these has one way
around it, which is shown on documents whose names clash: a full name that is also an excluded
alias, an alias that is also a service tag, and a selector whose outside address is no address.
-/

namespace NetworkPlan

namespace Plan

variable {inputs : Inputs} {plan : Plan}

theorem MadeFrom.groups_expand (h : plan.MadeFrom inputs) :
    List.Forall₂ (SecurityGroup.Expands plan.directory plan.security)
      (plan.subnets.filter fun s => s.aliasName ∉ plan.security.excludedAliases) plan.groups :=
  (Directory.securityGroups_eq_ok_iff.mp h.groups).right

theorem MadeFrom.exists_group (h : plan.MadeFrom inputs) {s : Subnet} (hs : s ∈ plan.subnets)
    (hincluded : s.aliasName ∉ plan.security.excludedAliases) :
    exists g, g ∈ plan.groups ∧ g.aliasName = s.aliasName := by
  have hmem : s ∈ plan.subnets.filter fun s => s.aliasName ∉ plan.security.excludedAliases :=
    List.mem_filter.mpr ⟨hs, decide_eq_true hincluded⟩
  rcases exists_right_of_forall₂ h.groups_expand hmem with ⟨g, hg, hexpands⟩
  exact ⟨g, hg, hexpands.alias_eq⟩

/-- A group holds the rules that were described for the subnet it is named after. -/
theorem MadeFrom.group_rules (h : plan.MadeFrom inputs) {g : SecurityGroup}
    (hg : g ∈ plan.groups) :
    List.Forall₂ (fun r rule => plan.directory.expandRule r g.aliasName = .ok rule)
      (plan.directory.meantRules plan.security g.aliasName) g.rules := by
  rcases exists_left_of_forall₂ h.groups_expand hg with ⟨s, _, hexpands⟩
  rw [hexpands.alias_eq]
  exact hexpands.rules

end Plan

/-!
## Documents whose names clash
-/

namespace Inputs

/-- One alias is a service tag, and one full name is an alias that is excluded by default. -/
def clashingSubnets : Json :=
  .object [("subnetDefinitions", .array [
    .object [("name", .string "snet-data"), ("alias", .string "Storage"),
      ("prefixLength", .ofNat 24)],
    .object [("name", .string "bastion"), ("alias", .string "jump"), ("prefixLength", .ofNat 24)],
    .object [("name", .string "snet-agic"), ("nsg-rule", .string "agic"),
      ("prefixLength", .ofNat 24)],
    .object [("name", .string "firewall"), ("prefixLength", .ofNat 26)]])]

def clashingRouting : RoutingDocument :=
  { RoutingDocument.default with inboundTargets := ["jump"] }

def clashing (security : SecurityDocument) : Inputs :=
  ⟨sampleCommon, clashingSubnets, security, clashingRouting, .default⟩

end Inputs

namespace Plan

def clashingDocument : SubnetDocument :=
  ⟨defaultModulesName, defaultLockKind, [
    ⟨"snet-data", some "Storage", none, 24, []⟩,
    ⟨"bastion", some "jump", none, 24, []⟩,
    ⟨"snet-agic", none, some "agic", 24, []⟩,
    ⟨"firewall", none, none, 26, []⟩]⟩

def clashingRequests : List SubnetRequest := [
  ⟨"snet-data", "Storage", 24, none⟩,
  ⟨"bastion", "jump", 24, none⟩,
  ⟨"snet-agic", "agic", 24, some "agic"⟩,
  ⟨"firewall", "firewall", 26, none⟩]

def clashingSubnets : List Subnet := [
  ⟨"snet-data", "Storage", Block.ofNetwork 0x0A000000 24⟩,
  ⟨"bastion", "jump", Block.ofNetwork 0x0A000100 24⟩,
  ⟨"snet-agic", "agic", Block.ofNetwork 0x0A000200 24⟩,
  ⟨"firewall", "firewall", Block.ofNetwork 0x0A000300 26⟩]

def clashingRoutes : RoutePlan :=
  ⟨.ofNat 0x0A000301, [
    ⟨ingressTable,
      [⟨"udr-jump-inbound", "10.0.1.0/24", applianceHop, .ofNat 0x0A000301⟩], ["agic"]⟩,
    ⟨egressTable,
      [⟨"udr-internet-outbound", "0.0.0.0/0", applianceHop, .ofNat 0x0A090005⟩], []⟩]⟩

/-- The plan for these documents, whatever groups the security document gives. -/
def clashing (security : SecurityDocument) (groups : List SecurityGroup) : Plan where
  settings := sampleSettings
  subnetDocument := clashingDocument
  security := security
  routing := Inputs.clashingRouting
  firewall := .default
  requests := clashingRequests
  subnets := clashingSubnets
  groups := groups
  routes := clashingRoutes
  attachments := NetworkPlan.attachments sampleSettings clashingSubnets groups clashingRoutes
    Inputs.clashingRouting.firewallAlias
  freeBlocks := NetworkPlan.freeBlocks sampleSettings.network.addressPrefixes
    (clashingSubnets.map (·.block))

theorem clashing_madeFrom {security : SecurityDocument} {groups : List SecurityGroup}
    (hgroups : (clashing security groups).directory.securityGroups security clashingSubnets =
      .ok groups)
    (hroutes : (clashing security groups).directory.routePlan Inputs.clashingRouting
      sampleSettings.egressNextHopIp? = .ok clashingRoutes) :
    (clashing security groups).MadeFrom (Inputs.clashing security) where
  valid := Inputs.validationLines_sampleCommon rfl
  settings := sample_madeFrom.settings
  subnetDocument := by
    unfold Decoder.Reads
    rfl
  security := rfl
  routing := rfl
  firewall := rfl
  requests := by
    show clashingRequests = clashingDocument.requests sampleSettings
    rfl
  subnets := by
    -- Sorting does not reduce by itself.
    have horder : bySize clashingRequests = clashingRequests := by
      cbv
    show allocate sampleSettings.network.addressPrefixes clashingRequests = .ok clashingSubnets
    rw [allocate, horder]
    rfl
  groups := hgroups
  routes := hroutes
  attachments := rfl
  freeBlocks := rfl

end Plan

/-!
## Templates
-/

/-- The subnet has its group, which holds what each rule of the template stands for there. -/
structure Plan.Covers (plan : Plan) (t : RuleTemplate) (s : Subnet) : Prop where
  group : exists g, g ∈ plan.groups ∧ g.aliasName = s.aliasName
  rules : forall g, g ∈ plan.groups -> g.aliasName = s.aliasName -> forall r, r ∈ t.rules ->
    exists rule, rule ∈ g.rules ∧ plan.directory.expandRule r s.aliasName = .ok rule

/-- A template that finds a subnet with a group is expanded there in full, unless it is written
with the subnet's full name and that name is listed as an excluded alias. -/
theorem template_expanded_or_name_excluded {inputs : Inputs} {plan : Plan}
    (h : compile inputs = .ok plan) {t : RuleTemplate} {text : String} {s : Subnet}
    (ht : t ∈ plan.security.templates) (htext : plan.directory.denotedText? t = some text)
    (hs : s ∈ plan.subnets) (hlookup : plan.directory.lookup text = some s.aliasName)
    (hincluded : s.aliasName ∉ plan.security.excludedAliases) :
    (text ≠ s.aliasName ∧ text ∈ plan.security.excludedAliases) ∨ plan.Covers t s := by
  have hmade := compile_eq_ok_iff.mp h
  by_cases hwritten : text ∈ plan.security.excludedAliases
  · have hne : text ≠ s.aliasName := by
      intro heq
      rw [heq] at hwritten
      exact hincluded hwritten
    exact Or.inl ⟨hne, hwritten⟩
  · refine Or.inr ⟨hmade.exists_group hs hincluded, ?_⟩
    intro g hg halias r hr
    have hmeant : r ∈ plan.directory.meantRules plan.security g.aliasName := by
      rw [Directory.mem_meantRules_iff, halias]
      exact ⟨t, ht, Directory.isMeantFor_iff.mpr ⟨text, htext, hwritten, hlookup⟩, hr⟩
    rcases exists_right_of_forall₂ (hmade.group_rules hg) hmeant with ⟨rule, hrule, hexpand⟩
    rw [halias] at hexpand
    exact ⟨rule, hrule, hexpand⟩

namespace SecurityDocument

def denyInternet : RuleDescription :=
  { RuleDescription.empty with access := some "Deny", source := some (.one "Internet") }

/-- Two templates for one subnet: the first uses its full name, the second its alias. -/
def byName : SecurityDocument :=
  { SecurityDocument.default with
    templates := [⟨some "bastion", none, [denyInternet]⟩,
      ⟨some "jump", none, [RuleDescription.empty]⟩] }

end SecurityDocument

namespace Plan

def byName : Plan :=
  clashing .byName [⟨"Storage", []⟩,
    ⟨"jump", [⟨"AllowFromAny", .one "*", "*", .one "10.0.1.0/24", .one "*", "*", "Allow", 100,
      .inbound⟩]⟩]

theorem compile_byName : compile (Inputs.clashing .byName) = .ok byName :=
  compile_eq_ok_iff.mpr (clashing_madeFrom rfl rfl)

end Plan

/-- The template that uses the alias is expanded. -/
theorem template_expanded_by_alias :
    let t : RuleTemplate := ⟨some "jump", none, [RuleDescription.empty]⟩
    let s : Subnet := ⟨"bastion", "jump", Block.ofNetwork 0x0A000100 24⟩
    compile (Inputs.clashing .byName) = .ok Plan.byName ∧
    t ∈ Plan.byName.security.templates ∧ Plan.byName.directory.denotedText? t = some "jump" ∧
    s ∈ Plan.byName.subnets ∧ Plan.byName.directory.lookup "jump" = some s.aliasName ∧
    s.aliasName ∉ Plan.byName.security.excludedAliases ∧ Plan.byName.Covers t s := by
  intro t s
  have ht : t ∈ Plan.byName.security.templates := List.mem_cons_of_mem _ List.mem_cons_self
  have htext : Plan.byName.directory.denotedText? t = some "jump" := rfl
  have hs : s ∈ Plan.byName.subnets := List.mem_cons_of_mem _ List.mem_cons_self
  have hlookup : Plan.byName.directory.lookup "jump" = some s.aliasName := by
    rfl
  have hincluded : s.aliasName ∉ Plan.byName.security.excludedAliases := by
    decide
  refine ⟨Plan.compile_byName, ht, htext, hs, hlookup, hincluded, ?_⟩
  rcases template_expanded_or_name_excluded Plan.compile_byName ht htext hs hlookup hincluded with
    hname | hcovers
  · exact absurd rfl hname.left
  · exact hcovers

/-- The template that uses the full name is dropped, although it finds the same subnet: no rule
of the plan denies anything. -/
theorem template_by_full_name_dropped :
    let t : RuleTemplate := ⟨some "bastion", none, [SecurityDocument.denyInternet]⟩
    let s : Subnet := ⟨"bastion", "jump", Block.ofNetwork 0x0A000100 24⟩
    compile (Inputs.clashing .byName) = .ok Plan.byName ∧
    t ∈ Plan.byName.security.templates ∧ Plan.byName.directory.denotedText? t = some s.name ∧
    s ∈ Plan.byName.subnets ∧ Plan.byName.directory.lookup s.name = some s.aliasName ∧
    s.aliasName ∉ Plan.byName.security.excludedAliases ∧ ¬ Plan.byName.Covers t s := by
  intro t s
  have hs : s ∈ Plan.byName.subnets := List.mem_cons_of_mem _ List.mem_cons_self
  have hlookup : Plan.byName.directory.lookup s.name = some s.aliasName := by
    rfl
  have hincluded : s.aliasName ∉ Plan.byName.security.excludedAliases := by
    decide
  refine ⟨Plan.compile_byName, List.mem_cons_self, rfl, hs, hlookup, hincluded, ?_⟩
  intro hcovers
  have hdeny : Plan.byName.directory.expandRule SecurityDocument.denyInternet s.aliasName =
      .ok ⟨"DenyFromInternet", .one "Internet", "*", .one "10.0.1.0/24", .one "*", "*", "Deny",
        100, .inbound⟩ := by
    decide
  have hnone : forall g, g ∈ Plan.byName.groups -> forall rule, rule ∈ g.rules ->
      rule.access ≠ "Deny" := by
    decide
  rcases hcovers.group with ⟨g, hg, halias⟩
  rcases hcovers.rules g hg halias _ List.mem_cons_self with ⟨rule, hrule, hexpand⟩
  rw [hdeny, Except.ok.injEq] at hexpand
  exact hnone g hg rule hrule (congrArg Rule.access hexpand.symm)

/-!
## Sides that are left out
-/

/-- In the group of a subnet with a plain alias, a side that a description leaves out is the
subnet's block. -/
theorem defaulted_side_is_owner_block {inputs : Inputs} {plan : Plan}
    (h : compile inputs = .ok plan) {s : Subnet} {g : SecurityGroup} (hs : s ∈ plan.subnets)
    (hg : g ∈ plan.groups) (halias : g.aliasName = s.aliasName)
    (hplain : plan.directory.Plain s.aliasName) :
    List.Forall₂ (plan.directory.DefaultsToOwner s)
      (plan.directory.meantRules plan.security s.aliasName) g.rules := by
  have hmade := compile_eq_ok_iff.mp h
  have hrules := hmade.group_rules hg
  rw [halias] at hrules
  apply hrules.imp
  intro r rule hexpand
  exact Directory.defaultsToOwner_of_plain hplain (hmade.blockOf_alias hs) hexpand

namespace SecurityDocument

def allowOut : RuleDescription :=
  { RuleDescription.empty with direction := some .outbound }

/-- Rules without sides, for a subnet with the alias of a service tag and for another. -/
def sideless : SecurityDocument :=
  { SecurityDocument.default with
    templates := [⟨some "Storage", none, [RuleDescription.empty, allowOut]⟩,
      ⟨some "jump", none, [RuleDescription.empty, allowOut]⟩] }

end SecurityDocument

namespace Plan

def sidelessRules (owner : String) : List Rule := [
  ⟨"AllowFromAny", .one "*", "*", .one owner, .one "*", "*", "Allow", 100, .inbound⟩,
  ⟨"AllowToAny", .one owner, "*", .one "*", .one "*", "*", "Allow", 100, .outbound⟩]

def sideless : Plan :=
  clashing .sideless [⟨"Storage", sidelessRules "Storage"⟩, ⟨"jump", sidelessRules "10.0.1.0/24"⟩]

theorem compile_sideless : compile (Inputs.clashing .sideless) = .ok sideless :=
  compile_eq_ok_iff.mpr (clashing_madeFrom rfl rfl)

end Plan

/-- The other alias is plain, so its rules are about its block. -/
theorem defaulted_side_of_plain_alias :
    let s : Subnet := ⟨"bastion", "jump", Block.ofNetwork 0x0A000100 24⟩
    let g : SecurityGroup := ⟨"jump", Plan.sidelessRules "10.0.1.0/24"⟩
    compile (Inputs.clashing .sideless) = .ok Plan.sideless ∧ s ∈ Plan.sideless.subnets ∧
    g ∈ Plan.sideless.groups ∧ g.aliasName = s.aliasName ∧
    Plan.sideless.directory.Plain s.aliasName ∧
    List.Forall₂ (Plan.sideless.directory.DefaultsToOwner s)
      (Plan.sideless.directory.meantRules Plan.sideless.security s.aliasName) g.rules := by
  intro s g
  have hs : s ∈ Plan.sideless.subnets := List.mem_cons_of_mem _ List.mem_cons_self
  have hg : g ∈ Plan.sideless.groups := List.mem_cons_of_mem _ List.mem_cons_self
  have hplain : Plan.sideless.directory.Plain s.aliasName := by
    constructor <;> decide
  exact ⟨Plan.compile_sideless, hs, hg, rfl, hplain,
    defaulted_side_is_owner_block Plan.compile_sideless hs hg rfl hplain⟩

/-- Under the alias of a service tag, the sides that are left out are the tag and not the block. -/
theorem defaulted_side_is_service_tag :
    let s : Subnet := ⟨"snet-data", "Storage", Block.ofNetwork 0x0A000000 24⟩
    let g : SecurityGroup := ⟨"Storage", Plan.sidelessRules "Storage"⟩
    compile (Inputs.clashing .sideless) = .ok Plan.sideless ∧ s ∈ Plan.sideless.subnets ∧
    g ∈ Plan.sideless.groups ∧ g.aliasName = s.aliasName ∧
    ¬ List.Forall₂ (Plan.sideless.directory.DefaultsToOwner s)
      (Plan.sideless.directory.meantRules Plan.sideless.security s.aliasName) g.rules := by
  intro s g
  have hs : s ∈ Plan.sideless.subnets := List.mem_cons_self
  have hg : g ∈ Plan.sideless.groups := List.mem_cons_self
  refine ⟨Plan.compile_sideless, hs, hg, rfl, ?_⟩
  intro h
  have hmeant : Plan.sideless.directory.meantRules Plan.sideless.security s.aliasName =
      [RuleDescription.empty, SecurityDocument.allowOut] := rfl
  rw [hmeant] at h
  cases h with
  | cons hfirst _ =>
      have hdestination := hfirst.destination (by decide) rfl
      revert hdestination
      decide

/-!
## Addresses
-/

/-- What may stand as an address in a rule: every address, an address, a block without host bits,
or a service tag of the document. -/
def SecurityDocument.Admits (doc : SecurityDocument) (address : String) : Prop :=
  address = anyToken ∨ Block.isAddressOrNetwork address = true ∨ address ∈ doc.serviceTags

namespace Plan

variable {inputs : Inputs} {plan : Plan}

theorem MadeFrom.admits_block (h : plan.MadeFrom inputs) {s : Subnet}
    (hs : s ∈ plan.directory.subnets) : plan.security.Admits s.block.toText := by
  rw [subnets_directory] at hs
  exact Or.inr (Or.inl (h.isAddressOrNetwork_block hs))

theorem MadeFrom.admits_of_addresses (h : plan.MadeFrom inputs) {owner token address : String}
    (haddress : plan.directory.Addresses owner token address) : plan.security.Admits address := by
  rcases Directory.address?_resolve haddress with hany | hliteral | htag | ⟨s, hs, rfl⟩
  · exact Or.inl hany
  · exact Or.inr (Or.inl hliteral)
  · rw [serviceTags_directory] at htag
    exact Or.inr (Or.inr htag)
  · exact h.admits_block hs

theorem MadeFrom.admits_of_matches (h : plan.MadeFrom inputs) {owner : String}
    {references side : OneOrMany}
    (hmatches : OneOrMany.Matches (plan.directory.Addresses owner) references side) :
    forall address, address ∈ side.toList -> plan.security.Admits address := by
  intro address haddress
  rcases exists_left_of_forall₂ hmatches.forall₂ haddress with ⟨token, _, htoken⟩
  exact h.admits_of_addresses htoken

/-- Validation has looked at the outside bastion, but not at the selectors that are declared. -/
theorem MadeFrom.admits_of_selector (h : plan.MadeFrom inputs) {name address : String}
    (haddress : plan.directory.resolveSelector name = .ok address) :
    plan.security.Admits address ∨
      exists selector, (name, selector) ∈ plan.security.selectors ∧
        selector.overrideIp.bind Text.nonBlank? = some address := by
  rcases Directory.resolveSelector_eq_ok haddress with ⟨selector, hselector, houtside | hinside⟩
  · rcases Directory.get?_build_selectors hselector with hdeclared | ⟨_, rfl⟩
    · exact Or.inr ⟨selector, hdeclared, houtside⟩
    · dsimp only at houtside
      rcases Option.bind_eq_some_iff.mp houtside with ⟨ip, hip, htext⟩
      have haccepted := h.preconditions.sharedBastionIp ip hip
      rw [← Block.isAddressOrNetwork_trim, (Text.nonBlank?_eq_some_iff.mp htext).left] at haccepted
      exact Or.inl (Or.inr (Or.inl haccepted))
  · rcases hinside with ⟨s, hs, _, rfl⟩
    exact Or.inl (h.admits_block hs)

end Plan

/-- No side of a rule is empty, and the addresses on it are admitted; only the source may instead
be the outside address of a declared selector, as it is written there. -/
theorem rule_addresses_admitted_or_override {inputs : Inputs} {plan : Plan}
    (h : compile inputs = .ok plan) {g : SecurityGroup} {rule : Rule} (hg : g ∈ plan.groups)
    (hrule : rule ∈ g.rules) :
    rule.source.toList ≠ [] ∧ rule.destination.toList ≠ [] ∧
    (forall address, address ∈ rule.destination.toList -> plan.security.Admits address) ∧
    ((forall address, address ∈ rule.source.toList -> plan.security.Admits address) ∨
      exists name selector address, (name, selector) ∈ plan.security.selectors ∧
        selector.overrideIp.bind Text.nonBlank? = some address ∧ rule.source = .one address) := by
  have hmade := compile_eq_ok_iff.mp h
  rcases exists_left_of_forall₂ (hmade.group_rules hg) hrule with ⟨r, _, hexpand⟩
  have hdestination := Directory.matches_destination hexpand
  cases hselector : r.effectiveSelector with
  | none =>
      have hsource := Directory.matches_source hexpand hselector
      exact ⟨hsource.toList_ne_nil, hdestination.toList_ne_nil,
        hmade.admits_of_matches hdestination, Or.inl (hmade.admits_of_matches hsource)⟩
  | some name =>
      rcases Directory.source_of_selector hexpand hselector with ⟨address, haddress, hsource⟩
      refine ⟨?_, hdestination.toList_ne_nil, hmade.admits_of_matches hdestination, ?_⟩
      · rw [hsource]
        exact List.cons_ne_nil _ _
      · rcases hmade.admits_of_selector haddress with hadmits | ⟨selector, hdeclared, houtside⟩
        · rw [hsource]
          exact Or.inl (List.forall_mem_singleton.mpr hadmits)
        · exact Or.inr ⟨name, selector, address, hdeclared, houtside, hsource⟩

namespace SecurityDocument

/-- A selector with an outside address that is no address, and a rule that uses it. -/
def office : SecurityDocument :=
  { SecurityDocument.default with
    selectors := [("office", ⟨some "head-office", "jump"⟩)]
    templates := [
      ⟨some "jump", none, [{ RuleDescription.empty with sourceSelector := some "office" }]⟩] }

end SecurityDocument

namespace Plan

def officeRule : Rule :=
  ⟨"AllowFromOffice", .one "head-office", "*", .one "10.0.1.0/24", .one "*", "*", "Allow", 100,
    .inbound⟩

def office : Plan :=
  clashing .office [⟨"Storage", []⟩, ⟨"jump", [officeRule]⟩]

theorem compile_office : compile (Inputs.clashing .office) = .ok office :=
  compile_eq_ok_iff.mpr (clashing_madeFrom rfl rfl)

end Plan

/-- The destination of the rule is admitted. -/
theorem office_rule_destination_admitted :
    let g : SecurityGroup := ⟨"jump", [Plan.officeRule]⟩
    compile (Inputs.clashing .office) = .ok Plan.office ∧ g ∈ Plan.office.groups ∧
    Plan.officeRule ∈ g.rules ∧ Plan.officeRule.source.toList ≠ [] ∧
    forall address, address ∈ Plan.officeRule.destination.toList ->
      Plan.office.security.Admits address := by
  intro g
  have hg : g ∈ Plan.office.groups := List.mem_cons_of_mem _ List.mem_cons_self
  have hrule : Plan.officeRule ∈ g.rules := List.mem_cons_self
  have hadmitted := rule_addresses_admitted_or_override Plan.compile_office hg hrule
  exact ⟨Plan.compile_office, hg, hrule, hadmitted.left, hadmitted.right.right.left⟩

/-- The source of the rule is not. -/
theorem override_not_admitted :
    let g : SecurityGroup := ⟨"jump", [Plan.officeRule]⟩
    compile (Inputs.clashing .office) = .ok Plan.office ∧ g ∈ Plan.office.groups ∧
    Plan.officeRule ∈ g.rules ∧ "head-office" ∈ Plan.officeRule.source.toList ∧
    ¬ Plan.office.security.Admits "head-office" := by
  intro g
  refine ⟨Plan.compile_office, List.mem_cons_of_mem _ List.mem_cons_self, List.mem_cons_self,
    List.mem_cons_self, ?_⟩
  unfold SecurityDocument.Admits
  decide

end NetworkPlan
