import NetworkPlan.Proofs.Address.Notation
import NetworkPlan.Proofs.Subnet.Directory
import NetworkPlan.Proofs.Validation.Preconditions

/-!
# The directory of a plan

The directory that references are looked up in is built from the requests and from the subnets that
serve them.  Validation has kept names and aliases apart, so every subnet belongs to one request, is
found under its alias, and its block can be written wherever an address may stand.
-/

namespace NetworkPlan
namespace Plan

/-- The directory that the references of the plan were looked up in. -/
def directory (plan : Plan) : Directory :=
  Directory.build plan.settings plan.security plan.requests plan.subnets

variable {inputs : Inputs} {plan : Plan}

@[simp] theorem subnets_directory : plan.directory.subnets = plan.subnets :=
  Directory.build_subnets

@[simp] theorem requests_directory : plan.directory.requests = plan.requests :=
  Directory.build_requests

@[simp] theorem serviceTags_directory : plan.directory.serviceTags = plan.security.serviceTags :=
  Directory.build_serviceTags

theorem MadeFrom.preconditions (h : plan.MadeFrom inputs) :
    Preconditions plan.settings plan.requests := by
  rw [h.requests]
  exact Validation.preconditions_of_valid h.valid h.settings h.subnetDocument

/-!
## Aliases
-/

theorem aliases_of_servedBy {requests : List SubnetRequest} {subnets : List Subnet}
    (h : List.Forall₂ SubnetRequest.ServedBy requests subnets) :
    subnets.map (·.aliasName) = requests.map (·.aliasName) :=
  map_eq_map_of_forall₂ h.flip fun _ _ _ hserved => hserved.alias_eq

/-- Validation keeps the aliases of the subnets apart. -/
theorem MadeFrom.aliases_nodup (h : plan.MadeFrom inputs) :
    (plan.subnets.map (·.aliasName)).Nodup := by
  rw [aliases_of_servedBy (Cursor.placeAll_servedBy h.subnets)]
  exact ((bySize_perm _).map _).nodup_iff.mpr h.preconditions.aliases_nodup

theorem isAllocated_directory_iff {aliasName : String} :
    plan.directory.isAllocated aliasName = true ↔
      exists s, s ∈ plan.subnets ∧ s.aliasName = aliasName := by
  rw [Directory.isAllocated_iff, subnets_directory]

theorem MadeFrom.blockOf_alias (h : plan.MadeFrom inputs) {s : Subnet} (hs : s ∈ plan.subnets) :
    plan.directory.blockOf s.aliasName = some s.block := by
  apply Directory.blockOf_of_nodup
  · rw [subnets_directory]
    exact h.aliases_nodup
  · rw [subnets_directory]
    exact hs

/-- The text of a subnet's block is accepted wherever an address or a block may be given. -/
theorem MadeFrom.isAddressOrNetwork_block (h : plan.MadeFrom inputs) {s : Subnet}
    (hs : s ∈ plan.subnets) : Block.isAddressOrNetwork s.block.toText = true :=
  Block.isAddressOrNetwork_toText (Cursor.isNetwork_of_placeAll h.subnets hs)

/-!
## Names
-/

theorem MadeFrom.exists_request (h : plan.MadeFrom inputs) {s : Subnet} (hs : s ∈ plan.subnets) :
    exists r, r ∈ plan.requests ∧ r.ServedBy s := by
  rcases exists_left_of_forall₂ (Cursor.placeAll_servedBy h.subnets) hs with ⟨r, hr, hserved⟩
  exact ⟨r, (bySize_perm _).mem_iff.mp hr, hserved⟩

/-- A text is the name behind an alias exactly if it is the name of the subnet. -/
theorem MadeFrom.aliasForName_eq_some_iff (h : plan.MadeFrom inputs) {s : Subnet}
    (hs : s ∈ plan.subnets) {name : String} :
    plan.directory.aliasForName name = some s.aliasName ↔ name = s.name := by
  rcases h.exists_request hs with ⟨r, hr, hserved⟩
  have hpre := h.preconditions
  rw [Directory.aliasForName_eq_some_iff (by rw [requests_directory]; exact hpre.names_nodup),
    requests_directory]
  constructor
  · intro hfound
    rcases hfound with ⟨other, hother, rfl, halias⟩
    have hsame : other = r :=
      List.inj_on_of_nodup_map hpre.aliases_nodup hother hr (halias.trans hserved.alias_eq)
    rw [hsame, hserved.name_eq]
  · intro hname
    exact ⟨r, hr, hserved.name_eq.symm.trans hname.symm, hserved.alias_eq.symm⟩

end Plan
end NetworkPlan
