import NetworkPlan.Proofs.Address.Extent
import NetworkPlan.Proofs.Decoder.Value
import NetworkPlan.Proofs.Validation.Checks
import NetworkPlan.Validation.Documents

/-!
# A common document without findings

What is known about the sections that the plan is made from when validation finds nothing.  The
ranges that the check collects are those that the typed reader gives, since both read the items with
one reader.
-/

namespace NetworkPlan
namespace Validation

open Checked

/-- Blocks that the check accepts are read item by item, like those of a typed list. -/
theorem checkBlocks_eq_pure {path : String} {index : Nat} {items : List Json}
    {blocks : List Block} (h : checkBlocks path index items = pure blocks) :
    List.Forall₂ (Decoder.Reads .block) items blocks := by
  induction items generalizing index blocks with
  | nil =>
      rw [checkBlocks, pure_eq_pure] at h
      rw [← h]
      exact List.Forall₂.nil
  | cons value rest ih =>
      rw [checkBlocks, bind_eq_pure] at h
      rcases h with ⟨block?, hvalue, h⟩
      rw [bind_eq_pure] at h
      rcases h with ⟨tail, htail, h⟩
      rcases Section.blockValue_eq_pure.mp hvalue with ⟨text, block, htext, _, hblock, hsome⟩
      rw [Option.some.injEq] at htext
      rw [pure_eq_pure, ← hsome] at h
      rw [← h]
      exact List.Forall₂.cons (Decoder.reads_block.mpr ⟨text, htext, hblock⟩) (ih htail)

theorem checkRanges_eq_pure {network : Section} {ranges : List Block}
    (h : checkRanges network = pure ranges) :
    exists items, network.get? "vnetAddressPrefixes" = some (.array items) ∧ items ≠ [] ∧
      List.Forall₂ (Decoder.Reads .block) items ranges ∧ ranges.Pairwise Block.Disjoint := by
  unfold checkRanges at h
  split at h
  next => exact absurd h report_bind_ne_pure
  next items hne hget =>
    rw [bind_eq_pure] at h
    rcases h with ⟨blocks, hblocks, h⟩
    rw [bind_eq_pure] at h
    rcases h with ⟨_, hconflicts, h⟩
    rw [pure_eq_pure] at h
    rw [h] at hblocks hconflicts
    refine ⟨items, hget, hne, checkBlocks_eq_pure hblocks, ?_⟩
    -- Every conflict would be a finding.
    rw [← Block.conflicts_eq_nil_iff, List.eq_nil_iff_forall_not_mem]
    intro pair hpair
    exact report_ne_pure (each_eq_pure.mp hconflicts pair hpair)
  next => exact absurd h report_bind_ne_pure

/-- The check accepts at least one range, all of them without host bits and apart. -/
theorem ranges_of_checkRanges {network : Section} {ranges : List Block}
    (h : checkRanges network = pure ranges) :
    ranges ≠ [] ∧ (forall range, range ∈ ranges -> range.IsNetwork) ∧
      ranges.Pairwise Block.Disjoint := by
  rcases checkRanges_eq_pure h with ⟨items, _, hitems, hread, hapart⟩
  refine ⟨?_, ?_, hapart⟩
  · intro hnil
    rw [hnil, List.forall₂_nil_right_iff] at hread
    exact hitems hread
  · intro range hrange
    rcases exists_left_of_forall₂ hread hrange with ⟨item, _, hitem⟩
    rcases Decoder.reads_block.mp hitem with ⟨text, _, hparse⟩
    exact Block.isNetwork_of_parseNetwork hparse

theorem checkProtectionPlan_eq_pure {network : Section} {protection : Option Bool} {u : Unit}
    (h : checkProtectionPlan network protection = pure u) :
    exists plan, network.get? "ddosProtectionPlanId" = some (.string plan) := by
  unfold checkProtectionPlan at h
  split at h
  next plan hget =>
    exact ⟨plan, hget⟩
  next =>
    exact absurd h report_ne_pure

theorem checkNameServers_eq_pure {network : Section} {u : Unit}
    (h : checkNameServers network = pure u) :
    exists items, network.get? "vnetDnsServers" = some (.array items) ∧
      forall item, item ∈ items -> exists text, item = .string text := by
  unfold checkNameServers at h
  split at h
  next items hget =>
    refine ⟨items, hget, ?_⟩
    intro item hitem
    rcases eachItem_eq_pure h hitem with ⟨place, hplace⟩
    rcases Section.optionalAddressValue_eq_pure.mp hplace with hnone | ⟨text, htext, _⟩
    · cases hnone
    · exact ⟨text, Option.some.inj htext⟩
  next =>
    exact absurd h report_ne_pure

/-- The members of a network section that passes its check. -/
structure NetworkPassed (network : Section) (ranges : List Block) : Prop where
  firewallIdps : exists b, network.get? "enableFirewallIdps" = some (.bool b)
  protection : exists b, network.get? "enableDdosProtection" = some (.bool b)
  protectionPlan : exists plan, network.get? "ddosProtectionPlanId" = some (.string plan)
  ranges : checkRanges network = pure ranges
  egressNextHopIp : network.optionalAddress "egressNextHopIp" = pure ()
  sharedBastionIp : network.optionalAddressOrBlock "sharedBastionIp" = pure ()
  nameServers : exists items, network.get? "vnetDnsServers" = some (.array items) ∧
    forall item, item ∈ items -> exists text, item = .string text

theorem checkNetwork_eq_pure {network : Section} {ranges : List Block}
    (h : checkNetwork network = pure ranges) : NetworkPassed network ranges := by
  simp only [checkNetwork, bind_eq_pure, pure_eq_pure, Section.bool_eq_pure] at h
  rcases h with ⟨_, ⟨idps, hidps, _⟩, _, ⟨ddos, hddos, _⟩, _, _, _, _, _, hplan, ranges', hranges, _,
    hegress, _, hbastion, _, hservers, rfl⟩
  exact ⟨⟨idps, hidps⟩, ⟨ddos, hddos⟩, checkProtectionPlan_eq_pure hplan, hranges, hegress,
    hbastion, checkNameServers_eq_pure hservers⟩

/-- The members of an identity section that passes its check. -/
structure IdentityPassed (identity : Section) : Prop where
  texts : forall key, key ∈ ["location", "environmentName", "systemName"] ->
    exists text, identity.get? key = some (.string text)
  resourceLock : exists b, identity.get? "enableResourceLock" = some (.bool b)

theorem checkIdentity_eq_pure {identity : Section} {u : Unit}
    (h : checkIdentity identity = pure u) : IdentityPassed identity := by
  simp only [checkIdentity, bind_eq_pure, Section.bool_eq_pure, Section.nonBlank_eq_pure] at h
  rcases h with ⟨_, ⟨location, _, hlocation, _⟩, _, ⟨environment, _, henvironment, _⟩, _,
    ⟨system, _, hsystem, _⟩, _, ⟨lock, hlock, _⟩, _⟩
  refine ⟨?_, ⟨lock, hlock⟩⟩
  simp only [List.forall_mem_cons, List.not_mem_nil, false_imp_iff, implies_true, and_true]
  exact ⟨⟨location, hlocation⟩, ⟨environment, henvironment⟩, ⟨system, hsystem⟩⟩

/-- The sections of a common document that passes its check, as far as the plan is made from
them. -/
structure CommonPassed (members identity network toggles : List (String × Json))
    (ranges : List Block) : Prop where
  identity_eq : Entries.get? "common" members = some (.object identity)
  identityPassed : IdentityPassed ⟨"common", some identity⟩
  network_eq : Entries.get? "network" members = some (.object network)
  networkPassed : checkNetwork ⟨"network", some network⟩ = pure ranges
  toggles_eq : Entries.get? "resourceToggles" members = some (.object toggles)

theorem checkCommon_eq_pure {doc : Json} (h : checkCommon doc = pure ()) :
    exists members identity network toggles ranges, doc = .object members ∧
      CommonPassed members identity network toggles ranges := by
  cases doc with
  | object members =>
      simp only [checkCommon, Section.root, Section.isObject, Option.isSome_some, if_true,
        checkSections, checkToggles, bind_eq_pure, Section.subsection_eq_pure] at h
      rcases h with ⟨_, ⟨identity, hidentity, rfl⟩, _, ⟨network, hnetwork, rfl⟩, _, _, _, _, _, _,
        _, _, _, hidentityPassed, ranges, hnetworkPassed, _, _, _, _, _, _, _, _, _,
        ⟨toggles, htoggles, rfl⟩, _⟩
      exact ⟨members, identity, network, toggles, ranges, rfl, hidentity,
        checkIdentity_eq_pure hidentityPassed, hnetwork, hnetworkPassed, htoggles⟩
  | _ =>
      exact absurd h report_ne_pure

end Validation
end NetworkPlan
