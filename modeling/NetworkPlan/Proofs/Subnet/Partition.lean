import NetworkPlan.Proofs.Subnet.FreeSpace
import NetworkPlan.Proofs.Subnet.Soundness

/-!
# The partition of the address space

The subnets of an allocation and the free blocks that are reported for it cut the ranges into
blocks: every address of a range lies in exactly one of them, and nothing else does.
-/

namespace NetworkPlan

/-- The blocks of an allocation, followed by the free blocks reported for it. -/
def parts (ranges : List Block) (subnets : List Subnet) : List Block :=
  let used := subnets.map (·.block)
  used ++ (freeBlocks ranges used).map (·.block)

/-- Of blocks that keep apart, one holds an address, or none. -/
theorem countP_mem_of_apart {blocks : List Block} (hapart : blocks.Pairwise Block.Disjoint)
    (x : Address) :
    blocks.countP (fun block => x ∈ block) =
      if forall block, block ∈ blocks -> ¬ x ∈ block then 0 else 1 := by
  induction blocks with
  | nil =>
      simp
  | cons block rest ih =>
      rcases List.pairwise_cons.mp hapart with ⟨hhead, htail⟩
      rw [List.countP_cons, ih htail]
      by_cases hx : x ∈ block
      · have hrest : forall other, other ∈ rest -> ¬ x ∈ other := by
          intro other hother
          exact hhead other hother x hx
        have hsome : ¬ forall other, other ∈ block :: rest -> ¬ x ∈ other :=
          fun h => h block List.mem_cons_self hx
        rw [if_pos hrest, if_neg hsome, if_pos (decide_eq_true hx)]
      · simp [hx]

theorem countP_mem_parts (ranges : List Block) (subnets : List Subnet) (x : Address) :
    (parts ranges subnets).countP (fun block => x ∈ block) =
      (subnets.map (·.block)).countP (fun block => x ∈ block) +
        holding x (freeBlocks ranges (subnets.map (·.block))) := by
  rw [parts, List.countP_append, List.countP_map (f := FreeBlock.block)]
  rfl

/-- No address is lost, reported twice, or reported free although it is allocated. -/
theorem parts_partition_ranges {ranges : List Block} {requests : List SubnetRequest}
    {subnets : List Subnet} (hapart : ranges.Pairwise Block.Disjoint)
    (h : allocate ranges requests = .ok subnets) :
    (forall (range : Block) (x : Address), range ∈ ranges -> x ∈ range ->
      (parts ranges subnets).countP (fun block => x ∈ block) = 1) ∧
    (forall (block : Block) (x : Address), block ∈ parts ranges subnets -> x ∈ block ->
      exists range, range ∈ ranges ∧ x ∈ range) ∧
    (forall f, f ∈ freeBlocks ranges (subnets.map (·.block)) ->
      f.range ∈ ranges ∧ f.block ⊆ f.range) := by
  rcases Cursor.placeAll_inside hapart h with ⟨hsubnets, hpairs⟩
  have hused : (subnets.map (·.block)).Pairwise Block.Disjoint := List.pairwise_map.mpr hpairs
  have hinside : forall block, block ∈ subnets.map (·.block) ->
      exists range, range ∈ ranges ∧ block ⊆ range := by
    intro block hblock
    rcases List.mem_map.mp hblock with ⟨subnet, hsubnet, rfl⟩
    exact hsubnets subnet hsubnet
  have hnetwork : forall block, block ∈ subnets.map (·.block) -> block.IsNetwork := by
    intro block hblock
    rcases List.mem_map.mp hblock with ⟨subnet, hsubnet, rfl⟩
    exact Cursor.isNetwork_of_placeAll h hsubnet
  refine ⟨?_, ?_, ?_⟩
  · intro range x hrange hx
    rw [countP_mem_parts, countP_mem_of_apart hused,
      holding_freeBlocks hapart hnetwork hinside hrange hx]
    split <;> rfl
  · intro block x hblock hx
    rcases List.mem_append.mp hblock with hblock | hblock
    · rcases hinside block hblock with ⟨range, hrange, hin⟩
      exact ⟨range, hrange, hin x hx⟩
    · rcases List.mem_map.mp hblock with ⟨f, hf, rfl⟩
      rcases mem_freeBlocks hf with ⟨hrange, _hnetwork, hin⟩
      exact ⟨f.range, hrange, hin x hx⟩
  · intro f hf
    rcases mem_freeBlocks hf with ⟨hrange, _hnetwork, hin⟩
    exact And.intro hrange hin

/-- In the whole address space, the last address is reported once. -/
theorem parts_partition_whole_space :
    let ranges : List Block := [⟨.ofOctets 0 0 0 0, 0, by decide⟩]
    let requests : List SubnetRequest := [⟨"snet-a", "a", 2, none⟩, ⟨"snet-b", "b", 1, none⟩]
    let subnets : List Subnet := [⟨"snet-b", "b", ⟨.ofOctets 0 0 0 0, 1, by decide⟩⟩,
      ⟨"snet-a", "a", ⟨.ofOctets 128 0 0 0, 2, by decide⟩⟩]
    ranges.Pairwise Block.Disjoint ∧ allocate ranges requests = .ok subnets ∧
      (parts ranges subnets).countP (fun block => Address.ofOctets 255 255 255 255 ∈ block) =
        1 := by
  intro ranges requests subnets
  have hapart : ranges.Pairwise Block.Disjoint := by
    decide
  have horder : bySize requests = [⟨"snet-b", "b", 1, none⟩, ⟨"snet-a", "a", 2, none⟩] := by
    cbv
  have hallocate : allocate ranges requests = .ok subnets := by
    rw [allocate, horder]
    decide
  exact ⟨hapart, hallocate, (parts_partition_ranges hapart hallocate).left
    ⟨.ofOctets 0 0 0 0, 0, by decide⟩ _ List.mem_cons_self (by decide)⟩

end NetworkPlan
