import NetworkPlan.Proofs.Address.Grammar
import NetworkPlan.Proofs.Plan.Bastion
import NetworkPlan.Proofs.Routing.Plan
import NetworkPlan.Proofs.Security.Description
import NetworkPlan.Proofs.Subnet.Precedence

/-!
# Blocks as they are written

A block leaves the plan as a text only, in the sides of rules and in routes.  The text of a block is
read as that block, so no two blocks share one, and writing what was read once more changes nothing.
Hence what a rule or a route says about a subnet means the subnet's block to every reader.
-/

namespace NetworkPlan

/-!
## Texts
-/

namespace Block

theorem toText_injective : Function.Injective toText := by
  intro a b h
  have hread : parse a.toText = .ok b := by
    rw [h]
    exact parse_toText b
  rw [parse_toText, Except.ok.injEq] at hread
  exact hread

theorem trim_toText (b : Block) : Text.trim b.toText = b.toText := by
  rw [← String.toList_inj, Text.toList_trim]
  exact trimChars_toText b

theorem parseNetwork_toText_of_network {b : Block} (h : ¬ b.HasHostBits) :
    parseNetwork b.toText = .ok b :=
  parseNetwork_eq_ok_iff.mpr ⟨parse_toText b, h⟩

theorem parseNetwork_toText_of_hostBits {b : Block} (h : b.HasHostBits) :
    parseNetwork b.toText = .error (.hostBitsSet b.toText) := by
  apply parseNetwork_eq_error_iff.mpr
  rw [trim_toText]
  exact Or.inr ⟨b, parse_toText b, h, rfl⟩

/-- The text of a block in the one form in which blocks are written. -/
def normalise (text : String) : Except NotationError String :=
  (parse text).map toText

theorem normalise_eq_ok_iff {text normal : String} :
    normalise text = .ok normal ↔ exists b, parse text = .ok b ∧ b.toText = normal :=
  map_eq_ok

theorem normalise_idempotent {text normal : String} (h : normalise text = .ok normal) :
    normalise normal = .ok normal := by
  rcases normalise_eq_ok_iff.mp h with ⟨b, _, rfl⟩
  exact normalise_eq_ok_iff.mpr ⟨b, parse_toText b, rfl⟩

/-- The text is how the block is written, is accepted wherever an address or a block may be given,
and stands for the block there. -/
structure WrittenAs (b : Block) (text : String) : Prop where
  text_eq : text = b.toText
  accepted : isAddressOrNetwork text = true
  read : parse text = .ok b
  read_strictly : parseNetwork text = .ok b

theorem writtenAs_toText {b : Block} (h : b.IsNetwork) : b.WrittenAs b.toText where
  text_eq := rfl
  accepted := isAddressOrNetwork_toText h
  read := parse_toText b
  read_strictly := parseNetwork_toText_of_network (hasHostBits_iff.not.mpr (not_not.mpr h))

end Block

theorem OneOrMany.Matches.imp {R S : String -> String -> Prop} {as bs : OneOrMany}
    (h : Matches R as bs) (himp : forall a b, R a b -> S a b) : Matches S as bs := by
  cases h with
  | one h =>
      exact Matches.one (himp _ _ h)
  | many h hs =>
      exact Matches.many (himp _ _ h) (hs.imp himp)

namespace Plan

variable {inputs : Inputs} {plan : Plan}

/-!
## Subnets
-/

/-- The text is how the block of the subnet with that alias is written. -/
def Writes (plan : Plan) (aliasName text : String) : Prop :=
  exists s, s ∈ plan.subnets ∧ s.aliasName = aliasName ∧ s.block.WrittenAs text

theorem MadeFrom.writtenAs (h : plan.MadeFrom inputs) {s : Subnet} (hs : s ∈ plan.subnets) :
    s.block.WrittenAs s.block.toText :=
  Block.writtenAs_toText (Cursor.isNetwork_of_placeAll h.subnets hs)

theorem MadeFrom.writes_of_blockOf (h : plan.MadeFrom inputs) {aliasName : String} {block : Block}
    (hblock : plan.directory.blockOf aliasName = some block) :
    plan.Writes aliasName block.toText := by
  rcases Directory.blockOf_eq_some hblock with ⟨s, hs, halias, rfl⟩
  rw [subnets_directory] at hs
  exact ⟨s, hs, halias, h.writtenAs hs⟩

/-!
## Rules
-/

/-- What is on a side of a rule: for a reference to a subnet, and for a selector that falls back to
one, its block as it is written. -/
inductive WritesSide (plan : Plan) (owner : String) : DescribedSide -> OneOrMany -> Prop
  | selector {name address : String}
      (h : forall selector, plan.directory.selectors.get? name = some selector ->
        selector.overrideIp.bind Text.nonBlank? = none ->
        plan.Writes selector.fallbackSubnet address) :
      WritesSide plan owner (.selector name) (.one address)
  | references {tokens addresses : OneOrMany}
      (h : OneOrMany.Matches
        (fun token address => forall aliasName block,
          plan.directory.resolve token owner = .subnet aliasName block ->
          plan.Writes aliasName address)
        tokens addresses) :
      WritesSide plan owner (.references tokens) addresses

/-- Both sides of a rule. -/
structure WritesRule (plan : Plan) (owner : String) (r : RuleDescription) (rule : Rule) :
    Prop where
  source : plan.WritesSide owner (r.sourceSide owner) rule.source
  destination : plan.WritesSide owner (r.destinationSide owner) rule.destination

theorem MadeFrom.writes_of_addresses (h : plan.MadeFrom inputs) {owner token address : String}
    (haddress : plan.directory.Addresses owner token address) {aliasName : String} {block : Block}
    (hsubnet : plan.directory.resolve token owner = .subnet aliasName block) :
    plan.Writes aliasName address := by
  unfold Directory.Addresses at haddress
  rw [hsubnet, Reference.address?, Option.some.injEq] at haddress
  rw [← haddress]
  exact h.writes_of_blockOf (Directory.resolve_eq_subnet_iff.mp hsubnet).right.right.right

theorem MadeFrom.writesSide (h : plan.MadeFrom inputs) {owner : String} {side : DescribedSide}
    {addresses : OneOrMany} (haddressed : plan.directory.Addressed owner side addresses) :
    plan.WritesSide owner side addresses := by
  cases haddressed with
  | selector haddress =>
      apply WritesSide.selector
      intro selector hselector hblank
      rcases (Directory.resolveSelector_eq_ok_iff h.directory_aliases_nodup).mp haddress with
        ⟨_, hfound, hyields⟩
      rw [Option.some.inj (hfound.symm.trans hselector), Selector.yields_inside_iff hblank,
        subnets_directory] at hyields
      rcases hyields with ⟨s, hs, halias, rfl⟩
      exact ⟨s, hs, halias, h.writtenAs hs⟩
  | references hmatches =>
      exact WritesSide.references
        (hmatches.imp fun _ _ haddress _ _ hsubnet => h.writes_of_addresses haddress hsubnet)

theorem MadeFrom.writesRule (h : plan.MadeFrom inputs) {g : SecurityGroup}
    (hg : g ∈ plan.groups) :
    List.Forall₂ (plan.WritesRule g.aliasName)
      (plan.directory.meantRules plan.security g.aliasName) g.rules := by
  apply (h.group_rules hg).imp
  intro r rule hexpand
  have hstands := Directory.standsFor_of_expandRule hexpand
  exact ⟨h.writesSide hstands.source_addressed, h.writesSide hstands.destination_addressed⟩

/-!
## Routes
-/

/-- The routes of inbound traffic, one for each target that has a block. -/
theorem MadeFrom.writes_routes (h : plan.MadeFrom inputs) {table : RouteTable}
    (htable : table ∈ plan.routes.tables) (hname : table.name = ingressTable) :
    List.Forall₂ (fun aliasName route => plan.Writes aliasName route.addressPrefix)
      (plan.routing.inboundTargets.filter plan.directory.isAllocated) table.routes := by
  rcases (Directory.routed_of_routePlan h.routes).tables with
    ⟨routes, _, hroutes, _, htables⟩
  rw [htables] at htable
  rcases List.mem_cons.mp htable with rfl | hother
  · apply hroutes.imp
    intro aliasName route hroute
    rcases hroute with ⟨block, hblock, rfl⟩
    exact h.writes_of_blockOf hblock
  · rw [List.mem_singleton.mp hother] at hname
    have hdiffer : egressTable ≠ ingressTable := by
      decide
    exact absurd hname hdiffer

end Plan

/-- Every block is read back from its text, strictly if it has no host bits; different blocks have
different texts; and what a text is normalised to stays as it is.  So wherever a plan writes the
block of a subnet, in a rule or in a route, the text is accepted and stands for that block. -/
theorem blocks_read_back :
    (forall b : Block, Block.parse b.toText = .ok b) ∧
    (forall b : Block, ¬ b.HasHostBits -> Block.parseNetwork b.toText = .ok b) ∧
    (forall b : Block, b.HasHostBits ->
      Block.parseNetwork b.toText = .error (.hostBitsSet b.toText)) ∧
    Function.Injective Block.toText ∧
    (forall text normal, Block.normalise text = .ok normal ->
      Block.normalise normal = .ok normal) ∧
    forall inputs plan, compile inputs = .ok plan ->
      (forall s, s ∈ plan.subnets -> s.block.WrittenAs s.block.toText) ∧
      (forall g, g ∈ plan.groups ->
        List.Forall₂ (plan.WritesRule g.aliasName)
          (plan.directory.meantRules plan.security g.aliasName) g.rules) ∧
      forall table, table ∈ plan.routes.tables -> table.name = ingressTable ->
        List.Forall₂ (fun aliasName route => plan.Writes aliasName route.addressPrefix)
          (plan.routing.inboundTargets.filter plan.directory.isAllocated) table.routes := by
  refine ⟨Block.parse_toText, fun _ => Block.parseNetwork_toText_of_network,
    fun _ => Block.parseNetwork_toText_of_hostBits, Block.toText_injective,
    fun _ _ => Block.normalise_idempotent, ?_⟩
  intro inputs plan h
  have hmade := compile_eq_ok_iff.mp h
  exact ⟨fun s hs => hmade.writtenAs hs, fun g hg => hmade.writesRule hg,
    fun table htable hname => hmade.writes_routes htable hname⟩

/-- A block with host bits is only read leniently, and the plan with the bastion outside writes one
block into the route to its subnet. -/
theorem blocks_read_back_sheltered :
    let b : Block := ⟨.ofNat 0x0A000107, 24, by decide⟩
    b.toText = "10.0.1.7/24" ∧ b.HasHostBits ∧ Block.parse "10.0.1.7/24" = .ok b ∧
    Block.parseNetwork "10.0.1.7/24" = .error (.hostBitsSet "10.0.1.7/24") ∧
    compile Inputs.sheltered = .ok Plan.sheltered ∧
    Plan.sheltered.Writes "usernode" "10.0.0.0/24" := by
  intro b
  have htext : b.toText = "10.0.1.7/24" := by
    decide
  have hbits : b.HasHostBits := ⟨0, by decide, by decide⟩
  have hcompile := compile_eq_ok_iff.mpr Plan.sheltered_madeFrom
  have htargets : Plan.sheltered.routing.inboundTargets.filter
      Plan.sheltered.directory.isAllocated = ["usernode"] := by
    rfl
  rcases blocks_read_back with ⟨hread, _, hstrict, _, _, hplan⟩
  rcases hplan _ _ hcompile with ⟨_, _, hroutes⟩
  have hingress := hroutes _ List.mem_cons_self rfl
  rw [htargets] at hingress
  refine ⟨htext, hbits, ?_, ?_, hcompile, ?_⟩
  · rw [← htext]
    exact hread b
  · rw [← htext]
    exact hstrict b hbits
  · exact (List.forall₂_cons.mp hingress).left

end NetworkPlan
