import NetworkPlan.Proofs.Plan.Attachments
import NetworkPlan.Proofs.Security.Selectors

/-!
# The bastion of a plan

Settings may name a bastion outside the network.  Then the local one is not asked for, so nothing in
the plan is called after it, and the selector that is always there means the outside address; else
it means the block of the local one.  A declared selector of that name takes its place in both
cases.  So every selector that applies to a rule of a plan is known and has an address.
-/

namespace NetworkPlan
namespace Plan

variable {inputs : Inputs} {plan : Plan}

/-- Nothing in the plan is called by the alias. -/
structure Without (plan : Plan) (aliasName : String) : Prop where
  requests : forall r, r ∈ plan.requests -> r.aliasName ≠ aliasName
  subnets : forall s, s ∈ plan.subnets -> s.aliasName ≠ aliasName
  attachments : forall x, x ∈ plan.attachments -> x.aliasName ≠ aliasName
  groups : forall g, g ∈ plan.groups -> g.aliasName ≠ aliasName

/-- The address that a selector has in the plan.  The one that is always there counts only where the
document declares none of its name. -/
inductive SelectorAddress (plan : Plan) (doc : SecurityDocument) (name : String) : String -> Prop
  | declared {selector : Selector} {address : String}
      (hdeclared : doc.declared? name = some selector)
      (hyields : selector.Yields plan.subnets address) : SelectorAddress plan doc name address
  | outsideBastion {ip : String} (hname : name = bastionSelector)
      (hfree : doc.declared? name = none)
      (hip : plan.settings.sharedBastionIp? = some ip) : SelectorAddress plan doc name ip
  | localBastion {s : Subnet} (hname : name = bastionSelector)
      (hfree : doc.declared? name = none)
      (hip : plan.settings.sharedBastionIp? = none) (hs : s ∈ plan.subnets)
      (halias : s.aliasName = bastionAlias) : SelectorAddress plan doc name s.block.toText

/-- If a selector applies to the description, then the source of the rule is the one address that it
has in the plan. -/
def SelectsSource (plan : Plan) (doc : SecurityDocument) (r : RuleDescription) (rule : Rule) :
    Prop :=
  forall name, r.Selects name ->
    exists address, plan.SelectorAddress doc name address ∧ rule.source = .one address

/-!
## What is left out
-/

theorem MadeFrom.requests_of_outside (h : plan.MadeFrom inputs)
    (hip : plan.settings.sharedBastionIp?.isSome = true) :
    plan.requests = (plan.subnetDocument.descriptions.map SubnetDescription.request).filter
      (·.aliasName ≠ bastionAlias) := by
  rw [h.requests, SubnetDocument.requests, hip]
  congr 1
  funext r
  simp only [Bool.true_and, ne_eq, decide_not]
  rfl

theorem MadeFrom.requests_of_local (h : plan.MadeFrom inputs)
    (hip : plan.settings.sharedBastionIp? = none) :
    plan.requests = plan.subnetDocument.descriptions.map SubnetDescription.request := by
  rw [h.requests, SubnetDocument.requests, hip]
  simp

/-- What is not asked for is in no part of the plan. -/
theorem MadeFrom.without (h : plan.MadeFrom inputs) {aliasName : String}
    (hrequests : forall r, r ∈ plan.requests -> r.aliasName ≠ aliasName) :
    plan.Without aliasName := by
  have hsubnets : forall s, s ∈ plan.subnets -> s.aliasName ≠ aliasName := by
    intro s hs
    rcases h.exists_request hs with ⟨r, hr, hserved⟩
    rw [hserved.alias_eq]
    exact hrequests r hr
  refine ⟨hrequests, hsubnets, ?_, ?_⟩
  · intro x hx
    rw [h.attachments_eq] at hx
    rcases List.mem_map.mp hx with ⟨s, hs, rfl⟩
    exact hsubnets s (List.mem_of_mem_filter hs)
  · intro g hg
    rcases exists_left_of_forall₂ h.groups_expand hg with ⟨s, hs, hexpands⟩
    rw [hexpands.alias_eq]
    exact hsubnets s (List.mem_of_mem_filter hs)

/-!
## What selectors mean
-/

/-- The selector that is always there means the outside bastion or else the block of the local
one. -/
theorem yields_builtIn_iff {doc : SecurityDocument} {address : String}
    (hfree : doc.declared? bastionSelector = none) :
    Selector.Yields ⟨plan.settings.sharedBastionIp?, bastionAlias⟩ plan.subnets address ↔
      plan.SelectorAddress doc bastionSelector address := by
  cases hip : plan.settings.sharedBastionIp? with
  | some ip =>
      have hgiven : (some ip).bind Text.nonBlank? = some ip := by
        have hblank := Text.nonBlank?_eq_some_iff.mp hip
        rw [Option.bind_some, Text.nonBlank?_eq_some_iff, ← hblank.left, Text.trim_trim,
          hblank.left]
        exact ⟨rfl, hblank.right⟩
      rw [Selector.yields_outside_iff hgiven]
      constructor
      · intro h
        rw [h]
        exact SelectorAddress.outsideBastion rfl hfree hip
      · intro h
        cases h with
        | declared hdeclared _ =>
            rw [hfree] at hdeclared
            cases hdeclared
        | outsideBastion _ _ hsame =>
            exact Option.some.inj (hsame.symm.trans hip)
        | localBastion _ _ hnone _ _ =>
            rw [hip] at hnone
            cases hnone
  | none =>
      rw [Selector.yields_inside_iff rfl]
      constructor
      · intro h
        rcases h with ⟨s, hs, halias, rfl⟩
        exact SelectorAddress.localBastion rfl hfree hip hs halias
      · intro h
        cases h with
        | declared hdeclared _ =>
            rw [hfree] at hdeclared
            cases hdeclared
        | outsideBastion _ _ hsome =>
            rw [hip] at hsome
            cases hsome
        | localBastion _ _ _ hs halias =>
            exact ⟨_, hs, halias, rfl⟩

theorem MadeFrom.directory_aliases_nodup (h : plan.MadeFrom inputs) :
    (plan.directory.subnets.map (·.aliasName)).Nodup := by
  rw [subnets_directory]
  exact h.aliases_nodup

theorem MadeFrom.resolveSelector_eq_ok_iff (h : plan.MadeFrom inputs) {name address : String} :
    plan.directory.resolveSelector name = .ok address ↔
      plan.SelectorAddress inputs.security name address := by
  have hselectors : plan.directory.selectors.get? name =
      (inputs.security.declared? name).or
        (if name = bastionSelector then some ⟨plan.settings.sharedBastionIp?, bastionAlias⟩
          else none) := by
    rw [← h.security]
    exact Directory.get?_selectors_build
  rw [Directory.resolveSelector_eq_ok_iff h.directory_aliases_nodup, subnets_directory,
    hselectors]
  cases hdeclared : inputs.security.declared? name with
  | some selector =>
      simp only [Option.some_or, Option.some.injEq, exists_eq_left']
      constructor
      · exact SelectorAddress.declared hdeclared
      · intro haddress
        cases haddress with
        | declared hsame hyields =>
            rw [Option.some.inj (hdeclared.symm.trans hsame)]
            exact hyields
        | outsideBastion _ hfree _ | localBastion _ hfree _ _ _ =>
            rw [hdeclared] at hfree
            cases hfree
  | none =>
      rw [Option.none_or]
      by_cases hname : name = bastionSelector
      · rw [if_pos hname]
        subst hname
        simp only [Option.some.injEq, exists_eq_left']
        exact yields_builtIn_iff hdeclared
      · rw [if_neg hname]
        simp only [reduceCtorEq, false_and, exists_false, false_iff]
        intro haddress
        cases haddress with
        | declared hsome _ =>
            rw [hdeclared] at hsome
            cases hsome
        | outsideBastion hbuiltIn _ _ | localBastion hbuiltIn _ _ _ _ =>
            exact hname hbuiltIn

theorem MadeFrom.selectsSource (h : plan.MadeFrom inputs) {g : SecurityGroup}
    (hg : g ∈ plan.groups) :
    List.Forall₂ (plan.SelectsSource inputs.security)
      (plan.directory.meantRules inputs.security g.aliasName) g.rules := by
  rw [← h.security]
  apply (h.group_rules hg).imp
  intro r rule hexpand name hselects
  rw [h.security]
  have heffective := RuleDescription.effectiveSelector_eq_some_iff.mpr hselects
  rcases Directory.source_of_selector hexpand heffective with ⟨address, haddress, hsource⟩
  exact ⟨address, h.resolveSelector_eq_ok_iff.mp haddress, hsource⟩

end Plan

/-- With a bastion outside, nothing in the plan is called after the local one and the other requests
keep their order; without, nothing is left out.  In both cases a selector gives a rule the one
address that it has in the plan, and a selector without an address is in no rule. -/
theorem bastion_outside_or_local {inputs : Inputs} {plan : Plan}
    (h : compile inputs = .ok plan) :
    (forall ip, plan.settings.sharedBastionIp? = some ip ->
      plan.requests = (plan.subnetDocument.descriptions.map SubnetDescription.request).filter
        (·.aliasName ≠ bastionAlias) ∧
      plan.Without bastionAlias) ∧
    (plan.settings.sharedBastionIp? = none ->
      plan.requests = plan.subnetDocument.descriptions.map SubnetDescription.request) ∧
    (forall g, g ∈ plan.groups ->
      List.Forall₂ (plan.SelectsSource inputs.security)
        (plan.directory.meantRules inputs.security g.aliasName) g.rules) ∧
    forall name address,
      plan.directory.resolveSelector name = .ok address ↔
        plan.SelectorAddress inputs.security name address := by
  have hmade := compile_eq_ok_iff.mp h
  refine ⟨?_, hmade.requests_of_local, fun g hg => hmade.selectsSource hg,
    fun _ _ => hmade.resolveSelector_eq_ok_iff⟩
  intro ip hip
  have hrequests := hmade.requests_of_outside (Option.isSome_of_eq_some hip)
  refine ⟨hrequests, hmade.without ?_⟩
  intro r hr
  rw [hrequests] at hr
  exact of_decide_eq_true (List.mem_filter.mp hr).right

/-!
## A bastion outside
-/

namespace Inputs

/-- The sample's subnets and a bastion, which the common settings say is outside. -/
def shelteredSubnets : Json :=
  .object [("subnetDefinitions", .array [
    .object [("name", .string "snet-user"), ("alias", .string "usernode"),
      ("prefixLength", .ofNat 24)],
    .object [("name", .string "AzureBastionSubnet"), ("alias", .string "bastion"),
      ("prefixLength", .ofNat 26)],
    .object [("name", .string "snet-agic"), ("nsg-rule", .string "agic"),
      ("prefixLength", .ofNat 24)],
    .object [("name", .string "firewall"), ("prefixLength", .ofNat 26)]])]

end Inputs

namespace SecurityDocument

def fromSelector (name : String) : RuleDescription :=
  { RuleDescription.empty with sourceSelector := some name }

/-- A rule with the selector that is always there and one with a selector that is blank outside. -/
def sheltered : SecurityDocument :=
  { SecurityDocument.default with
    selectors := [("ops", ⟨some " ", "agic"⟩)]
    templates := [⟨some "usernode", none, [fromSelector bastionSelector, fromSelector "ops"]⟩] }

end SecurityDocument

namespace Inputs

def sheltered : Inputs :=
  ⟨sampleCommon, shelteredSubnets, .sheltered, .default, .default⟩

end Inputs

namespace Plan

def shelteredDocument : SubnetDocument :=
  ⟨defaultModulesName, defaultLockKind, [
    ⟨"snet-user", some "usernode", none, 24, []⟩,
    ⟨"AzureBastionSubnet", some "bastion", none, 26, []⟩,
    ⟨"snet-agic", none, some "agic", 24, []⟩,
    ⟨"firewall", none, none, 26, []⟩]⟩

def shelteredGroups : List SecurityGroup :=
  [⟨"usernode", [
    ⟨"AllowFromMaintBastion", .one "10.9.0.4", "*", .one "10.0.0.0/24", .one "*", "*", "Allow", 100,
      .inbound⟩,
    ⟨"AllowFromOps", .one "10.0.1.0/24", "*", .one "10.0.0.0/24", .one "*", "*", "Allow", 100,
      .inbound⟩]⟩]

/-- The plan is the sample's but for the rules. -/
def sheltered : Plan :=
  { sample with
    subnetDocument := shelteredDocument
    security := .sheltered
    groups := shelteredGroups
    attachments := NetworkPlan.attachments sampleSettings sampleSubnets shelteredGroups
      sampleRoutes RoutingDocument.default.firewallAlias }

theorem sheltered_madeFrom : sheltered.MadeFrom Inputs.sheltered where
  valid := Inputs.validationLines_sampleCommon rfl
  settings := sample_madeFrom.settings
  subnetDocument := by
    unfold Decoder.Reads
    rfl
  security := rfl
  routing := rfl
  firewall := rfl
  requests := rfl
  subnets := sample_madeFrom.subnets
  groups := rfl
  routes := rfl
  attachments := rfl
  freeBlocks := rfl

end Plan

/-- The bastion that is asked for is left out, and both selectors have an address. -/
theorem bastion_outside_sheltered :
    compile Inputs.sheltered = .ok Plan.sheltered ∧
    Plan.sheltered.settings.sharedBastionIp? = some "10.9.0.4" ∧
    (Plan.sheltered.subnetDocument.descriptions.map SubnetDescription.request).map (·.aliasName) =
      ["usernode", "bastion", "agic", "firewall"] ∧
    Plan.sheltered.requests.map (·.aliasName) = ["usernode", "agic", "firewall"] ∧
    Plan.sheltered.Without bastionAlias ∧
    Plan.sheltered.SelectorAddress .sheltered bastionSelector "10.9.0.4" ∧
    Plan.sheltered.SelectorAddress .sheltered "ops" "10.0.1.0/24" := by
  have hcompile := compile_eq_ok_iff.mpr Plan.sheltered_madeFrom
  have hip : Plan.sheltered.settings.sharedBastionIp? = some "10.9.0.4" := rfl
  rcases bastion_outside_or_local hcompile with ⟨houtside, _, _, haddress⟩
  rcases houtside _ hip with ⟨hrequests, hwithout⟩
  refine ⟨hcompile, hip, rfl, ?_, hwithout, (haddress _ _).mp rfl, (haddress _ _).mp rfl⟩
  rw [hrequests]
  rfl

end NetworkPlan
