import NetworkPlan.Proofs.Plan.Directory
import NetworkPlan.Proofs.Subnet.References

/-!
# References by alias and by name

A rule refers to a subnet by its alias or by its full name.  Validation keeps aliases apart and
names apart, but it compares them without the blanks around them, and it does not compare names with
aliases.  A reference is looked up without its blanks, as an alias first.  So an alias or a name
with blanks around it is not found, and a name that is also the alias of another subnet means that
one; every other alias and name means its subnet.
-/

namespace NetworkPlan
namespace Plan

variable {inputs : Inputs} {plan : Plan}

theorem MadeFrom.lookup_eq_alias_iff (h : plan.MadeFrom inputs) {s : Subnet}
    (hs : s ∈ plan.subnets) {text : String} :
    plan.directory.lookup text = some s.aliasName ↔
      text = s.aliasName ∨
        text = s.name ∧ forall other, other ∈ plan.subnets -> other.aliasName ≠ text := by
  have hallocated : plan.directory.isAllocated s.aliasName = true :=
    isAllocated_directory_iff.mpr ⟨s, hs, rfl⟩
  have hfree : plan.directory.isAllocated text = false ↔
      forall other, other ∈ plan.subnets -> other.aliasName ≠ text := by
    rw [← Bool.not_eq_true, isAllocated_directory_iff]
    simp only [not_exists, not_and, ne_eq]
  rw [Directory.lookup_eq_some_iff, h.aliasForName_eq_some_iff hs, hfree]
  constructor
  · intro hfound
    exact hfound.right.imp_right And.symm
  · intro hfound
    exact ⟨hallocated, hfound.imp_right And.symm⟩

end Plan

/-- A text that is looked up means a subnet exactly if, without the blanks around it, it is the
alias of the subnet, or the full name of the subnet and the alias of none. -/
theorem reference_means_subnet_iff {inputs : Inputs} {plan : Plan} (h : compile inputs = .ok plan)
    {s : Subnet} (hs : s ∈ plan.subnets) {text : String} (htext : plan.directory.LookedUp text)
    (owner : String) :
    plan.directory.resolve text owner = .subnet s.aliasName s.block ↔
      Text.trim text = s.aliasName ∨ Text.trim text = s.name ∧
        forall other, other ∈ plan.subnets -> other.aliasName ≠ Text.trim text := by
  have hmade := compile_eq_ok_iff.mp h
  rw [htext.resolve_eq, Directory.subnetOr_eq_subnet_iff, hmade.blockOf_alias hs,
    hmade.lookup_eq_alias_iff hs]
  simp only [and_true]

/-!
## Documents with crossed names
-/

namespace Inputs

/-- The full name of one subnet is the alias of another, and one alias has blanks around it. -/
def crossedSubnets : Json :=
  .object [("subnetDefinitions", .array [
    .object [("name", .string "snet-user"), ("alias", .string "usernode"),
      ("prefixLength", .ofNat 24)],
    .object [("name", .string "usernode"), ("alias", .string "jump"), ("prefixLength", .ofNat 24)],
    .object [("name", .string "snet-data"), ("alias", .string " data "),
      ("prefixLength", .ofNat 26)],
    .object [("name", .string "snet-agic"), ("nsg-rule", .string "agic"),
      ("prefixLength", .ofNat 24)],
    .object [("name", .string "firewall"), ("prefixLength", .ofNat 26)]])]

/-- A rule for one of the two subnets, about the text that both are called by. -/
def crossed : Inputs :=
  ⟨sampleCommon, crossedSubnets,
    { SecurityDocument.default with
      templates := [⟨some "jump", none,
        [{ RuleDescription.empty with source := some (.one "usernode") }]⟩] },
    .default, .default⟩

end Inputs

namespace Plan

def crossedDocument : SubnetDocument :=
  ⟨defaultModulesName, defaultLockKind, [
    ⟨"snet-user", some "usernode", none, 24, []⟩,
    ⟨"usernode", some "jump", none, 24, []⟩,
    ⟨"snet-data", some " data ", none, 26, []⟩,
    ⟨"snet-agic", none, some "agic", 24, []⟩,
    ⟨"firewall", none, none, 26, []⟩]⟩

def crossedRequests : List SubnetRequest := [
  ⟨"snet-user", "usernode", 24, none⟩,
  ⟨"usernode", "jump", 24, none⟩,
  ⟨"snet-data", " data ", 26, none⟩,
  ⟨"snet-agic", "agic", 24, some "agic"⟩,
  ⟨"firewall", "firewall", 26, none⟩]

def crossedSubnets : List Subnet := [
  ⟨"snet-user", "usernode", Block.ofNetwork 0x0A000000 24⟩,
  ⟨"usernode", "jump", Block.ofNetwork 0x0A000100 24⟩,
  ⟨"snet-agic", "agic", Block.ofNetwork 0x0A000200 24⟩,
  ⟨"snet-data", " data ", Block.ofNetwork 0x0A000300 26⟩,
  ⟨"firewall", "firewall", Block.ofNetwork 0x0A000340 26⟩]

def crossedGroups : List SecurityGroup := [
  ⟨"usernode", []⟩,
  ⟨"jump", [⟨"AllowFromUsernode", .one "10.0.0.0/24", "*", .one "10.0.1.0/24", .one "*", "*",
    "Allow", 100, .inbound⟩]⟩,
  ⟨" data ", []⟩]

def crossedRoutes : RoutePlan :=
  ⟨.ofNat 0x0A000341, [
    ⟨ingressTable,
      [⟨"udr-usernode-inbound", "10.0.0.0/24", applianceHop, .ofNat 0x0A000341⟩], ["agic"]⟩,
    ⟨egressTable,
      [⟨"udr-internet-outbound", "0.0.0.0/0", applianceHop, .ofNat 0x0A090005⟩], []⟩]⟩

/-- The plan for these documents: the rule is about the block of the other subnet. -/
def crossed : Plan where
  settings := sampleSettings
  subnetDocument := crossedDocument
  security := Inputs.crossed.security
  routing := .default
  firewall := .default
  requests := crossedRequests
  subnets := crossedSubnets
  groups := crossedGroups
  routes := crossedRoutes
  attachments := NetworkPlan.attachments sampleSettings crossedSubnets crossedGroups crossedRoutes
    RoutingDocument.default.firewallAlias
  freeBlocks := NetworkPlan.freeBlocks sampleSettings.network.addressPrefixes
    (crossedSubnets.map (·.block))

theorem crossed_madeFrom : crossed.MadeFrom Inputs.crossed where
  valid := Inputs.validationLines_sampleCommon rfl
  settings := sample_madeFrom.settings
  subnetDocument := by
    unfold Decoder.Reads
    rfl
  security := rfl
  routing := rfl
  firewall := rfl
  requests := by
    show crossedRequests = crossedDocument.requests sampleSettings
    rfl
  subnets := by
    -- Sorting does not reduce by itself.
    have horder : bySize crossedRequests =
        [⟨"snet-user", "usernode", 24, none⟩, ⟨"usernode", "jump", 24, none⟩,
          ⟨"snet-agic", "agic", 24, some "agic"⟩, ⟨"snet-data", " data ", 26, none⟩,
          ⟨"firewall", "firewall", 26, none⟩] := by
      cbv
    show allocate sampleSettings.network.addressPrefixes crossedRequests = .ok crossedSubnets
    rw [allocate, horder]
    rfl
  groups := rfl
  routes := by
    rfl
  attachments := rfl
  freeBlocks := rfl

theorem compile_crossed : compile Inputs.crossed = .ok crossed :=
  compile_eq_ok_iff.mpr crossed_madeFrom

end Plan

/-- Every subnet here is found by its alias, unless that has blanks around it. -/
theorem reference_by_alias_jump :
    let s : Subnet := ⟨"usernode", "jump", Block.ofNetwork 0x0A000100 24⟩
    compile Inputs.crossed = .ok Plan.crossed ∧ s ∈ Plan.crossed.subnets ∧
    Plan.crossed.directory.LookedUp s.aliasName ∧
    Plan.crossed.directory.resolve s.aliasName "usernode" = .subnet s.aliasName s.block := by
  intro s
  have hs : s ∈ Plan.crossed.subnets := List.mem_cons_of_mem _ List.mem_cons_self
  have htext : Plan.crossed.directory.LookedUp s.aliasName := by
    constructor <;> decide
  exact ⟨Plan.compile_crossed, hs, htext,
    (reference_means_subnet_iff Plan.compile_crossed hs htext "usernode").mpr
      (Or.inl (by decide))⟩

/-- The name of one subnet means another, and an alias with blanks around it means none. -/
theorem reference_means_other_subnet :
    let s : Subnet := ⟨"usernode", "jump", Block.ofNetwork 0x0A000100 24⟩
    let other : Subnet := ⟨"snet-user", "usernode", Block.ofNetwork 0x0A000000 24⟩
    let spaced : Subnet := ⟨"snet-data", " data ", Block.ofNetwork 0x0A000300 26⟩
    compile Inputs.crossed = .ok Plan.crossed ∧
    s ∈ Plan.crossed.subnets ∧ Plan.crossed.directory.LookedUp s.name ∧
    Plan.crossed.directory.resolve s.name s.aliasName = .subnet other.aliasName other.block ∧
    other.block ≠ s.block ∧
    spaced ∈ Plan.crossed.subnets ∧ Plan.crossed.directory.LookedUp spaced.aliasName ∧
    Plan.crossed.directory.resolve spaced.aliasName s.aliasName = .unresolved "data" := by
  intro s other spaced
  refine ⟨Plan.compile_crossed, List.mem_cons_of_mem _ List.mem_cons_self, ?_, ?_, ?_, ?_, ?_, ?_⟩
  · constructor <;> decide
  · decide
  · decide
  · simp [Plan.crossed, Plan.crossedSubnets, spaced]
  · constructor <;> decide
  · decide

end NetworkPlan
