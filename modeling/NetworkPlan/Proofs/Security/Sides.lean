import NetworkPlan.Proofs.Outcome
import NetworkPlan.Proofs.Subnet.Directory
import NetworkPlan.Security.Rule

/-!
# The sides of a rule

Every address on a side of a rule comes from one reference of its description, or from the
selector.  A side keeps its form: one reference gives one address, and a list gives a list that is
not empty.
-/

namespace NetworkPlan

/-- Two sides of one form whose values match one by one; lists are not empty. -/
inductive OneOrMany.Matches (R : String -> String -> Prop) : OneOrMany -> OneOrMany -> Prop
  | one {a b : String} (h : R a b) : Matches R (one a) (one b)
  | many {a b : String} {as bs : List String} (h : R a b) (hs : List.Forall₂ R as bs) :
      Matches R (many (a :: as)) (many (b :: bs))

namespace OneOrMany

variable {R : String -> String -> Prop} {as bs : OneOrMany}

theorem Matches.forall₂ (h : Matches R as bs) : List.Forall₂ R as.toList bs.toList := by
  cases h with
  | one h =>
      exact List.Forall₂.cons h List.Forall₂.nil
  | many h hs =>
      exact List.Forall₂.cons h hs

theorem Matches.toList_ne_nil (h : Matches R as bs) : bs.toList ≠ [] := by
  cases h with
  | one h =>
      exact List.cons_ne_nil _ _
  | many h hs =>
      exact List.cons_ne_nil _ _

end OneOrMany

namespace Directory

variable {d : Directory} {owner : String}

/-!
## References
-/

/-- The address is what a reference means in a rule of `owner`. -/
def Addresses (d : Directory) (owner token address : String) : Prop :=
  (d.resolve token owner).address? = some address

/-- How a reference is shown in a generated name: by the alias of the subnet it resolves to, or
else by its text. -/
def shown (d : Directory) (owner token : String) : String :=
  match d.resolve token owner with
  | .subnet aliasName _ => displayName aliasName
  | _ => displayName (Text.trim token)

theorem exists_addresses_iff {token : String} :
    (exists address, d.Addresses owner token address) ↔
      forall text, d.resolve token owner ≠ .unresolved text := by
  unfold Addresses
  cases d.resolve token owner <;> simp [Reference.address?]

theorem resolveToken_eq_some_iff {token : String} {resolved : String × String} :
    d.resolveToken owner token = some resolved ↔
      d.Addresses owner token resolved.fst ∧ resolved.snd = d.shown owner token := by
  unfold resolveToken Addresses shown
  cases d.resolve token owner <;> simp [Reference.address?, Prod.ext_iff, eq_comm]

theorem exists_resolveToken_iff {token : String} :
    (exists resolved, d.resolveToken owner token = some resolved) ↔
      exists address, d.Addresses owner token address := by
  simp only [resolveToken_eq_some_iff]
  constructor
  · intro h
    rcases h with ⟨resolved, haddress, _⟩
    exact ⟨resolved.fst, haddress⟩
  · intro h
    rcases h with ⟨address, haddress⟩
    exact ⟨(address, d.shown owner token), haddress, rfl⟩

theorem resolveTokens_eq_ok_iff {tokens : List String} {resolved : List (String × String)} :
    d.resolveTokens owner tokens = .ok resolved ↔
      List.Forall₂ (fun token pair => d.resolveToken owner token = some pair) tokens resolved := by
  induction tokens generalizing resolved with
  | nil =>
      simp [resolveTokens, eq_comm]
  | cons token rest ih =>
      rw [resolveTokens, List.forall₂_cons_left_iff]
      cases d.resolveToken owner token with
      | none =>
          simp
      | some pair =>
          simp only [map_eq_ok, ih, Option.some.injEq, exists_and_left, exists_eq_left']
          simp only [@eq_comm _ resolved]

/-!
## Sides
-/

section Side

variable {rule : Option String} {side : String} {references : OneOrMany} {resolved : RuleSide}

/-- A side that resolves has one address for each reference, in order, and is shown as its
references are, one after the other. -/
theorem resolveSide_eq_ok (h : d.resolveSide rule owner side references = .ok resolved) :
    OneOrMany.Matches (d.Addresses owner) references resolved.addresses ∧
      resolved.display = String.join (references.toList.map (d.shown owner)) := by
  unfold resolveSide at h
  split at h
  next token =>
    split at h
    next => cases h
    next address display htoken =>
      rcases resolveToken_eq_some_iff.mp htoken with ⟨haddress, hdisplay⟩
      cases h
      exact ⟨OneOrMany.Matches.one haddress, by simp [OneOrMany.toList, ← hdisplay]⟩
  next => cases h
  next tokens hne =>
    split at h
    next => cases h
    next pairs hpairs =>
      have hresolved := resolveTokens_eq_ok_iff.mp hpairs
      cases h
      constructor
      · cases hresolved with
        | nil => exact (hne rfl).elim
        | cons hfirst hrest =>
            refine OneOrMany.Matches.many (resolveToken_eq_some_iff.mp hfirst).left ?_
            exact List.forall₂_map_right_iff.mpr
              (hrest.imp fun _ _ h => (resolveToken_eq_some_iff.mp h).left)
      · have hdisplays := map_eq_map_of_forall₂ (f := d.shown owner) (g := Prod.snd) hresolved
          fun _ _ _ h => (resolveToken_eq_some_iff.mp h).right.symm
        rw [OneOrMany.toList, hdisplays]

theorem matches_of_resolveSide (h : d.resolveSide rule owner side references = .ok resolved) :
    OneOrMany.Matches (d.Addresses owner) references resolved.addresses :=
  (resolveSide_eq_ok h).left

theorem exists_resolveSide_iff :
    (exists resolved, d.resolveSide rule owner side references = .ok resolved) ↔
      references.toList ≠ [] ∧
        forall token, token ∈ references.toList -> exists address, d.Addresses owner token address := by
  cases references with
  | one token =>
      rw [OneOrMany.toList, List.forall_mem_singleton, ← exists_resolveToken_iff, resolveSide]
      cases d.resolveToken owner token <;> simp
  | many tokens =>
      cases tokens with
      | nil =>
          simp [resolveSide, OneOrMany.toList]
      | cons token rest =>
          simp only [OneOrMany.toList, ← exists_resolveToken_iff, ← exists_forall₂_iff,
            ← resolveTokens_eq_ok_iff, resolveSide]
          cases d.resolveTokens owner (token :: rest) <;> simp

end Side

/-!
## Rules
-/

variable {r : RuleDescription} {rule : Rule}

theorem expandRule_eq_ok (h : d.expandRule r owner = .ok rule) :
    exists source destination, d.resolveSource r owner = .ok source ∧
      d.resolveSide r.name owner "destination" (r.effectiveDestination owner) = .ok destination ∧
      rule.source = source.addresses ∧ rule.destination = destination.addresses := by
  simp only [expandRule, bind_eq_ok, pure_eq_ok] at h
  rcases h with ⟨source, hsource, destination, hdestination, rfl⟩
  exact ⟨source, destination, hsource, hdestination, rfl, rfl⟩

theorem matches_destination (h : d.expandRule r owner = .ok rule) :
    OneOrMany.Matches (d.Addresses owner) (r.effectiveDestination owner) rule.destination := by
  rcases expandRule_eq_ok h with ⟨_, destination, _, hdestination, _, heq⟩
  rw [heq]
  exact matches_of_resolveSide hdestination

theorem source_of_selector {selector : String} (h : d.expandRule r owner = .ok rule)
    (hselector : r.effectiveSelector = some selector) :
    exists address, d.resolveSelector selector = .ok address ∧ rule.source = .one address := by
  rcases expandRule_eq_ok h with ⟨source, _, hsource, _, heq, _⟩
  simp only [resolveSource, hselector, bind_eq_ok, pure_eq_ok] at hsource
  rcases hsource with ⟨address, haddress, rfl⟩
  exact ⟨address, haddress, heq⟩

theorem matches_source (h : d.expandRule r owner = .ok rule)
    (hselector : r.effectiveSelector = none) :
    OneOrMany.Matches (d.Addresses owner) (r.effectiveSource owner) rule.source := by
  rcases expandRule_eq_ok h with ⟨source, _, hsource, _, heq, _⟩
  simp only [resolveSource, hselector] at hsource
  rw [heq]
  exact matches_of_resolveSide hsource

/-!
## Sides that are left out
-/

theorem effectiveDestination_of_none (hdirection : r.direction ≠ some .outbound)
    (hnone : r.destination = none) : r.effectiveDestination owner = .one owner := by
  unfold RuleDescription.effectiveDestination RuleDescription.effectiveDirection
  cases hr : r.direction with
  | none =>
      simp [hnone]
  | some direction =>
      cases direction with
      | inbound => simp [hnone]
      | outbound => exact absurd hr hdirection

/-- No selector applies to outbound traffic without a source: it leaves the owner. -/
theorem effectiveSource_of_none (hdirection : r.direction = some .outbound)
    (hnone : r.source = none) :
    r.effectiveSelector = none ∧ r.effectiveSource owner = .one owner := by
  unfold RuleDescription.effectiveSelector RuleDescription.effectiveSource
    RuleDescription.effectiveDirection
  cases r.sourceSelector <;> simp [hnone, hdirection]

theorem eq_of_matches_owner {block : Block} {side : OneOrMany} (hplain : d.Plain owner)
    (hblock : d.blockOf owner = some block)
    (h : OneOrMany.Matches (d.Addresses owner) (.one owner) side) : side = .one block.toText := by
  cases h with
  | one haddress =>
      unfold Addresses at haddress
      rw [hplain.resolve_eq hblock] at haddress
      cases haddress
      rfl

/-- The rule that a description stands for in the group of a subnet, with the subnet's block as
the destination of inbound and the source of outbound traffic where these are left out. -/
structure DefaultsToOwner (d : Directory) (s : Subnet) (r : RuleDescription) (rule : Rule) :
    Prop where
  expand : d.expandRule r s.aliasName = .ok rule
  destination : r.direction ≠ some .outbound -> r.destination = none ->
    rule.destination = .one s.block.toText
  source : r.direction = some .outbound -> r.source = none -> rule.source = .one s.block.toText

theorem defaultsToOwner_of_plain {s : Subnet} (hplain : d.Plain s.aliasName)
    (hblock : d.blockOf s.aliasName = some s.block) (h : d.expandRule r s.aliasName = .ok rule) :
    d.DefaultsToOwner s r rule where
  expand := h
  destination := by
    intro hdirection hnone
    have hmatches := matches_destination h
    rw [effectiveDestination_of_none hdirection hnone] at hmatches
    exact eq_of_matches_owner hplain hblock hmatches
  source := by
    intro hdirection hnone
    rcases effectiveSource_of_none hdirection hnone with ⟨hselector, hsource⟩
    have hmatches := matches_source h hselector
    rw [hsource] at hmatches
    exact eq_of_matches_owner hplain hblock hmatches

end Directory
end NetworkPlan
