import NetworkPlan.Proofs.Security.Groups

/-!
# The attachments of a plan

Groups and attachments are made from the same subnets: the groups leave out those with an excluded
alias, the attachments leave out the firewall's.  Since aliases are distinct, a subnet has a group
exactly if its alias is not excluded, and that is what its attachment says.
-/

namespace NetworkPlan
namespace Plan

variable {inputs : Inputs} {plan : Plan}

/-- The groups are named after the subnets that are not excluded, in their order. -/
theorem MadeFrom.groupAliases_eq (h : plan.MadeFrom inputs) :
    plan.groups.map (·.aliasName) =
      (plan.subnets.map (·.aliasName)).filter (· ∉ plan.security.excludedAliases) := by
  rw [List.filter_map]
  exact map_eq_map_of_forall₂ h.groups_expand.flip fun _ _ _ hexpands => hexpands.alias_eq

theorem MadeFrom.any_group_iff (h : plan.MadeFrom inputs) {s : Subnet} (hs : s ∈ plan.subnets) :
    plan.groups.any (·.aliasName == s.aliasName) = true ↔
      s.aliasName ∉ plan.security.excludedAliases := by
  have hgroup : plan.groups.any (·.aliasName == s.aliasName) = true ↔
      s.aliasName ∈ plan.groups.map (·.aliasName) := by
    simp only [List.any_eq_true, beq_iff_eq, List.mem_map]
  rw [hgroup, h.groupAliases_eq, List.mem_filter, decide_eq_true_eq]
  exact and_iff_right (List.mem_map.mpr ⟨s, hs, rfl⟩)

theorem MadeFrom.attachments_eq (h : plan.MadeFrom inputs) :
    plan.attachments =
      (plan.subnets.filter fun s => s.aliasName ≠ plan.routing.firewallAlias).map
        (attachment plan.settings plan.groups plan.routes) := by
  rw [h.attachments, NetworkPlan.attachments]
  congr 2
  funext s
  exact decide_not.symm

/-- An attachment names the group of its subnet, or no group if the subnet has none. -/
theorem MadeFrom.securityGroup_eq (h : plan.MadeFrom inputs) {x : Attachment}
    (hx : x ∈ plan.attachments) :
    x.securityGroup =
      if x.aliasName ∈ plan.security.excludedAliases then ""
      else plan.settings.resourceName "nsg" ++ "-" ++ x.aliasName := by
  rw [h.attachments_eq] at hx
  rcases List.mem_map.mp hx with ⟨s, hs, rfl⟩
  have hgroup := h.any_group_iff (List.mem_of_mem_filter hs)
  unfold attachment
  by_cases hexcluded : s.aliasName ∈ plan.security.excludedAliases
  · rw [if_neg fun hany => hgroup.mp hany hexcluded, if_pos hexcluded]
  · rw [if_pos (hgroup.mpr hexcluded), if_neg hexcluded]

end Plan

/-- There is one attachment for each subnet but the firewall's and one group for each subnet whose
alias is not excluded, both in the order of the subnets and each subnet once, and an attachment
names the group of its subnet exactly if there is one. -/
theorem attachments_and_groups_follow_subnets {inputs : Inputs} {plan : Plan}
    (h : compile inputs = .ok plan) :
    (plan.attachments.map fun x => (x.name, x.aliasName, x.block)) =
      (plan.subnets.filter fun s => s.aliasName ≠ inputs.routing.firewallAlias).map
        (fun s => (s.name, s.aliasName, s.block)) ∧
    (plan.attachments.map (·.aliasName)).Nodup ∧
    plan.groups.map (·.aliasName) =
      (plan.subnets.map (·.aliasName)).filter (· ∉ inputs.security.excludedAliases) ∧
    (plan.groups.map (·.aliasName)).Nodup ∧
    forall x, x ∈ plan.attachments ->
      x.securityGroup =
        if x.aliasName ∈ inputs.security.excludedAliases then ""
        else plan.settings.resourceName "nsg" ++ "-" ++ x.aliasName := by
  have hmade := compile_eq_ok_iff.mp h
  rw [← hmade.security, ← hmade.routing]
  have hgroups := hmade.groupAliases_eq
  refine ⟨?_, ?_, hgroups, ?_, fun x hx => hmade.securityGroup_eq hx⟩
  · rw [hmade.attachments_eq, List.map_map]
    rfl
  · rw [hmade.attachments_eq, List.map_map]
    exact hmade.aliases_nodup.sublist (List.filter_sublist.map _)
  · rw [hgroups]
    exact hmade.aliases_nodup.filter _

/-- Of the subnets with clashing names, two have a group of their own, and the firewall's is not
attached to anything. -/
theorem attachments_and_groups_by_name :
    compile (Inputs.clashing .byName) = .ok Plan.byName ∧
    Plan.byName.attachments.map (·.aliasName) = ["Storage", "jump", "agic"] ∧
    Plan.byName.groups.map (·.aliasName) = ["Storage", "jump"] ∧
    Plan.byName.attachments.map (·.securityGroup) =
      ["nsg-dev-shop-Storage", "nsg-dev-shop-jump", ""] := by
  rcases attachments_and_groups_follow_subnets Plan.compile_byName with
    ⟨hattached, _, hgroups, _, hnames⟩
  have haliases : Plan.byName.attachments.map (·.aliasName) = ["Storage", "jump", "agic"] := by
    have h := congrArg (List.map fun part => part.2.1) hattached
    rw [List.map_map] at h
    exact h.trans rfl
  have hsecurity : Plan.byName.attachments.map (·.securityGroup) =
      (Plan.byName.attachments.map (·.aliasName)).map fun aliasName =>
        if aliasName ∈ SecurityDocument.byName.excludedAliases then ""
        else Plan.sampleSettings.resourceName "nsg" ++ "-" ++ aliasName := by
    rw [List.map_map]
    exact List.map_congr_left hnames
  refine ⟨Plan.compile_byName, haliases, hgroups.trans rfl, ?_⟩
  rw [hsecurity, haliases]
  rfl

end NetworkPlan
