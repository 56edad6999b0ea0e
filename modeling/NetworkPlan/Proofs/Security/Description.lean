import NetworkPlan.Proofs.Security.Sides

/-!
# What a description stands for

A description leaves most of a rule out.  Here it is said what stands on each side of the rule once
the defaults are in, when both sides can be resolved, and what the rule is then.
-/

namespace NetworkPlan

/-- What stands on one side of a rule before anything is resolved. -/
inductive DescribedSide where
  | selector (name : String)
  | references (tokens : OneOrMany)

namespace RuleDescription

variable {r : RuleDescription} {owner : String} {side : DescribedSide}

/-- The direction is said to be outbound. -/
def IsOutbound (r : RuleDescription) : Prop :=
  r.direction = some .outbound

/-- The source side: the selector, unless outbound traffic is left without a source, else the
source as described, else the owner for outbound and every address for inbound traffic. -/
inductive SourceSide (r : RuleDescription) (owner : String) : DescribedSide -> Prop
  | selector {name : String} (hselector : r.sourceSelector = some name)
      (happlies : ¬ (r.IsOutbound ∧ r.source = none)) : SourceSide r owner (.selector name)
  | given {tokens : OneOrMany} (hselector : r.sourceSelector = none)
      (hsource : r.source = some tokens) : SourceSide r owner (.references tokens)
  | owner (hdirection : r.IsOutbound) (hsource : r.source = none) :
      SourceSide r owner (.references (.one owner))
  | any (hselector : r.sourceSelector = none) (hdirection : ¬ r.IsOutbound)
      (hsource : r.source = none) : SourceSide r owner (.references (.one anyToken))

/-- The destination side: as described, else the owner for inbound and every address for outbound
traffic. -/
inductive DestinationSide (r : RuleDescription) (owner : String) : DescribedSide -> Prop
  | given {tokens : OneOrMany} (hdestination : r.destination = some tokens) :
      DestinationSide r owner (.references tokens)
  | owner (hdirection : ¬ r.IsOutbound) (hdestination : r.destination = none) :
      DestinationSide r owner (.references (.one owner))
  | any (hdirection : r.IsOutbound) (hdestination : r.destination = none) :
      DestinationSide r owner (.references (.one anyToken))

/-- The source side as it is computed. -/
def sourceSide (r : RuleDescription) (owner : String) : DescribedSide :=
  match r.effectiveSelector with
  | some name => .selector name
  | none => .references (r.effectiveSource owner)

/-- The destination side as it is computed. -/
def destinationSide (r : RuleDescription) (owner : String) : DescribedSide :=
  .references (r.effectiveDestination owner)

instance (r : RuleDescription) : Decidable r.IsOutbound :=
  inferInstanceAs (Decidable (r.direction = some .outbound))

theorem effectiveDirection_eq (r : RuleDescription) :
    r.effectiveDirection = if r.IsOutbound then .outbound else .inbound := by
  unfold effectiveDirection
  by_cases houtbound : r.IsOutbound
  · rw [if_pos houtbound, show r.direction = some .outbound from houtbound, Option.getD_some]
  · rw [if_neg houtbound]
    cases hdirection : r.direction with
    | none => rfl
    | some direction =>
        cases direction with
        | inbound => rfl
        | outbound => exact absurd hdirection houtbound

theorem effectiveSelector_eq (r : RuleDescription) :
    r.effectiveSelector =
      if r.IsOutbound ∧ r.source = none then none else r.sourceSelector := by
  unfold effectiveSelector
  rw [effectiveDirection_eq]
  by_cases hdirection : r.IsOutbound <;> cases r.sourceSelector <;> cases r.source <;>
    simp [hdirection]

theorem effectiveSource_eq (r : RuleDescription) (owner : String) :
    r.effectiveSource owner =
      r.source.getD (.one (if r.IsOutbound then owner else anyToken)) := by
  unfold effectiveSource
  rw [effectiveDirection_eq]
  by_cases hdirection : r.IsOutbound <;> cases r.source <;> simp [hdirection]

theorem effectiveDestination_eq (r : RuleDescription) (owner : String) :
    r.effectiveDestination owner =
      r.destination.getD (.one (if r.IsOutbound then anyToken else owner)) := by
  unfold effectiveDestination
  rw [effectiveDirection_eq]
  by_cases hdirection : r.IsOutbound <;> cases r.destination <;> simp [hdirection]

theorem sourceSide_iff : r.SourceSide owner side ↔ side = r.sourceSide owner := by
  unfold sourceSide
  rw [effectiveSelector_eq, effectiveSource_eq]
  constructor
  · intro h
    cases h with
    | selector hselector happlies => rw [if_neg happlies, hselector]
    | given hselector hsource => simp [hselector, hsource]
    | owner hdirection hsource => simp [hdirection, hsource]
    | any hselector hdirection hsource => simp [hselector, hdirection, hsource]
  · intro h
    rw [h]
    by_cases hleaves : r.IsOutbound ∧ r.source = none
    · rw [if_pos hleaves, hleaves.right, if_pos hleaves.left]
      exact SourceSide.owner hleaves.left hleaves.right
    · rw [if_neg hleaves]
      cases hselector : r.sourceSelector with
      | some name =>
          exact SourceSide.selector hselector hleaves
      | none =>
          cases hsource : r.source with
          | some tokens =>
              exact SourceSide.given hselector hsource
          | none =>
              have hdirection : ¬ r.IsOutbound := fun h => hleaves ⟨h, hsource⟩
              rw [if_neg hdirection]
              exact SourceSide.any hselector hdirection hsource

theorem destinationSide_iff : r.DestinationSide owner side ↔ side = r.destinationSide owner := by
  unfold destinationSide
  rw [effectiveDestination_eq]
  constructor
  · intro h
    cases h with
    | given hdestination => rw [hdestination, Option.getD_some]
    | owner hdirection hdestination => rw [hdestination, Option.getD_none, if_neg hdirection]
    | any hdirection hdestination => rw [hdestination, Option.getD_none, if_pos hdirection]
  · intro h
    rw [h]
    cases hdestination : r.destination with
    | some tokens =>
        exact DestinationSide.given hdestination
    | none =>
        by_cases hdirection : r.IsOutbound
        · rw [Option.getD_none, if_pos hdirection]
          exact DestinationSide.any hdirection hdestination
        · rw [Option.getD_none, if_neg hdirection]
          exact DestinationSide.owner hdirection hdestination

end RuleDescription

namespace Directory

variable {d : Directory} {r : RuleDescription} {owner : String}

/-!
## Sides that resolve
-/

/-- The side comes to an address: the selector resolves, or there are references and all of them
resolve. -/
def CanResolve (d : Directory) (owner : String) : DescribedSide -> Prop
  | .selector name => exists address, d.resolveSelector name = .ok address
  | .references tokens => tokens.toList ≠ [] ∧
      forall token, token ∈ tokens.toList -> forall text, d.resolve token owner ≠ .unresolved text

/-- The addresses of a side: the one of the selector, or one for each reference, in order and in the
same form. -/
inductive Addressed (d : Directory) (owner : String) : DescribedSide -> OneOrMany -> Prop
  | selector {name address : String} (h : d.resolveSelector name = .ok address) :
      Addressed d owner (.selector name) (.one address)
  | references {tokens addresses : OneOrMany}
      (h : OneOrMany.Matches (d.Addresses owner) tokens addresses) :
      Addressed d owner (.references tokens) addresses

/-- How a side is shown in a generated name. -/
def sideShown (d : Directory) (owner : String) : DescribedSide -> String
  | .selector name => displayName name
  | .references tokens => String.join (tokens.toList.map (d.shown owner))

theorem exists_resolveSource_iff :
    (exists source, d.resolveSource r owner = .ok source) ↔
      d.CanResolve owner (r.sourceSide owner) := by
  unfold resolveSource RuleDescription.sourceSide
  cases r.effectiveSelector with
  | some name =>
      simp only [CanResolve, bind_eq_ok, pure_eq_ok]
      constructor
      · intro h
        rcases h with ⟨_, address, haddress, _⟩
        exact ⟨address, haddress⟩
      · intro h
        rcases h with ⟨address, haddress⟩
        exact ⟨_, address, haddress, rfl⟩
  | none =>
      simp only [exists_resolveSide_iff, exists_addresses_iff, CanResolve]

theorem resolveSource_eq_ok {source : RuleSide} (h : d.resolveSource r owner = .ok source) :
    d.Addressed owner (r.sourceSide owner) source.addresses ∧
      source.display = d.sideShown owner (r.sourceSide owner) := by
  unfold resolveSource at h
  unfold RuleDescription.sourceSide
  cases hselector : r.effectiveSelector with
  | some name =>
      rw [hselector] at h
      rcases bind_eq_ok.mp h with ⟨address, haddress, hsource⟩
      cases hsource
      exact ⟨Addressed.selector haddress, rfl⟩
  | none =>
      rw [hselector] at h
      rcases resolveSide_eq_ok h with ⟨hmatches, hdisplay⟩
      exact ⟨Addressed.references hmatches, hdisplay⟩

theorem exists_resolveDestination_iff {rule : Option String} {side : String} :
    (exists destination,
      d.resolveSide rule owner side (r.effectiveDestination owner) = .ok destination) ↔
      d.CanResolve owner (r.destinationSide owner) := by
  simp only [exists_resolveSide_iff, exists_addresses_iff, CanResolve,
    RuleDescription.destinationSide]

theorem resolveDestination_eq_ok {rule : Option String} {side : String} {destination : RuleSide}
    (h : d.resolveSide rule owner side (r.effectiveDestination owner) = .ok destination) :
    d.Addressed owner (r.destinationSide owner) destination.addresses ∧
      destination.display = d.sideShown owner (r.destinationSide owner) := by
  rcases resolveSide_eq_ok h with ⟨hmatches, hdisplay⟩
  exact ⟨Addressed.references hmatches, hdisplay⟩

/-!
## The rule
-/

/-- The rule that a description stands for in a rule of `owner`, given what stands on its sides.
A name is kept unless it is blank; else the name is made of the access and the far side. -/
structure StandsFor (d : Directory) (owner : String) (r : RuleDescription)
    (source destination : DescribedSide) (rule : Rule) : Prop where
  source_addressed : d.Addressed owner source rule.source
  destination_addressed : d.Addressed owner destination rule.destination
  name_kept : forall name, r.name = some name -> Text.trim name ≠ "" -> rule.name = name
  name_generated : (forall name, r.name = some name -> Text.trim name = "") ->
    rule.name = rule.access ++
      if r.IsOutbound then "To" ++ d.sideShown owner destination
      else "From" ++ d.sideShown owner source
  direction : rule.direction = .outbound ↔ r.IsOutbound
  access : rule.access = r.access.getD "Allow"
  priority : rule.priority = r.priority.getD 100
  protocol : rule.protocol = r.protocol.getD "*"
  sourcePortRange : rule.sourcePortRange = r.sourcePortRange.getD "*"
  ports_listed : forall ranges, r.destinationPortRanges = some ranges ->
    rule.destinationPorts = .many ranges
  ports_single : r.destinationPortRanges = none ->
    rule.destinationPorts = .one (r.destinationPortRange.getD "*")

theorem effectiveName_of_nonBlank {name source destination : String} (hname : r.name = some name)
    (hblank : Text.trim name ≠ "") : r.effectiveName source destination = name := by
  simp [RuleDescription.effectiveName, hname, Text.nonBlank?, hblank]

theorem effectiveName_of_blank {source destination : String}
    (hblank : forall name, r.name = some name -> Text.trim name = "") :
    r.effectiveName source destination = r.effectiveAccess ++
      if r.IsOutbound then "To" ++ destination else "From" ++ source := by
  unfold RuleDescription.effectiveName
  rw [RuleDescription.effectiveDirection_eq]
  cases hname : r.name with
  | none =>
      by_cases houtbound : r.IsOutbound <;> simp [houtbound, String.append_assoc]
  | some name =>
      by_cases houtbound : r.IsOutbound <;>
        simp [houtbound, String.append_assoc, Text.nonBlank?, hblank name hname]

theorem exists_expandRule_iff :
    (exists rule, d.expandRule r owner = .ok rule) ↔
      d.CanResolve owner (r.sourceSide owner) ∧ d.CanResolve owner (r.destinationSide owner) := by
  rw [← exists_resolveSource_iff, ← exists_resolveDestination_iff]
  simp only [expandRule, bind_eq_ok, pure_eq_ok]
  constructor
  · intro h
    rcases h with ⟨_, source, hsource, destination, hdestination, _⟩
    exact ⟨⟨source, hsource⟩, ⟨destination, hdestination⟩⟩
  · intro h
    rcases h with ⟨⟨source, hsource⟩, ⟨destination, hdestination⟩⟩
    exact ⟨_, source, hsource, destination, hdestination, rfl⟩

theorem standsFor_of_expandRule {rule : Rule} (h : d.expandRule r owner = .ok rule) :
    d.StandsFor owner r (r.sourceSide owner) (r.destinationSide owner) rule := by
  simp only [expandRule, bind_eq_ok, pure_eq_ok] at h
  rcases h with ⟨source, hsource, destination, hdestination, rfl⟩
  rcases resolveSource_eq_ok hsource with ⟨haddresses, hdisplay⟩
  rcases resolveDestination_eq_ok hdestination with ⟨haddresses', hdisplay'⟩
  constructor
  case source_addressed => exact haddresses
  case destination_addressed => exact haddresses'
  case name_kept => exact fun name => effectiveName_of_nonBlank
  case name_generated =>
    intro hblank
    rw [← hdisplay, ← hdisplay']
    exact effectiveName_of_blank hblank
  case direction =>
    rw [RuleDescription.effectiveDirection_eq]
    split <;> simp [*]
  case access => rfl
  case priority => rfl
  case protocol => rfl
  case sourcePortRange => rfl
  case ports_listed =>
    intro ranges hranges
    simp only [RuleDescription.effectivePorts, hranges]
  case ports_single =>
    intro hranges
    simp only [RuleDescription.effectivePorts, hranges, anyToken]

end Directory
end NetworkPlan
