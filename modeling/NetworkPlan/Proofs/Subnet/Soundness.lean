import Mathlib
import NetworkPlan.Proofs.Outcome
import NetworkPlan.Proofs.Subnet.Cursor

/-!
# Soundness of the allocation

The blocks that the allocator hands out are the ones asked for, lie inside the ranges and keep
apart from each other.  The invariant of a run is about the part of the ranges that is still ahead
of the cursor: a step hands out a block that was ahead of the cursor, and nothing that is ahead of
the cursor afterwards meets that block.
-/

namespace NetworkPlan
namespace Cursor

/-- A block that a run from here on may hand out: it lies in the range at the cursor and not
before it, or in a later range. -/
def Ahead (cursor : Cursor) (block : Block) : Prop :=
  match cursor.ranges with
  | [] => False
  | range :: rest =>
      (block ⊆ range ∧ cursor.next ≤ block.low) ∨ exists later, later ∈ rest ∧ block ⊆ later

theorem ahead_start_iff {ranges : List Block} {block : Block} :
    Ahead (start ranges) block ↔ exists range, range ∈ ranges ∧ block ⊆ range := by
  cases ranges with
  | nil =>
      simp [start, Ahead]
  | cons range rest =>
      simp only [start, Ahead, List.mem_cons, exists_eq_or_imp]
      constructor
      · intro h
        rcases h with ⟨hinside, _hlow⟩ | hlater
        · exact Or.inl hinside
        · exact Or.inr hlater
      · intro h
        rcases h with hinside | hlater
        · exact Or.inl ⟨hinside, (Block.subset_iff.mp hinside).left⟩
        · exact Or.inr hlater

/-- Leaving a range gives up what was left of it and nothing else. -/
theorem ahead_of_ahead_start {range block : Block} {rest : List Block} {next : Nat}
    (h : Ahead (start rest) block) : Ahead ⟨range :: rest, next⟩ block :=
  Or.inr (ahead_start_iff.mp h)

theorem Placed.ahead {length tried : Nat} {range block : Block} {rest : List Block}
    {after : Cursor} (h : Placed length range rest tried block after) :
    Ahead ⟨range :: rest, tried⟩ block :=
  Or.inl ⟨h.inside, h.tried_le_low⟩

/-- What is ahead of the cursor after a block was placed was ahead of it before, and lies beyond
the block. -/
theorem Placed.beyond {length tried : Nat} {range block other : Block} {rest : List Block}
    {after : Cursor} (h : Placed length range rest tried block after)
    (hapart : forall later, later ∈ rest -> range.Disjoint later) (hother : Ahead after other) :
    Ahead ⟨range :: rest, tried⟩ other ∧ block.Disjoint other := by
  unfold Ahead at hother
  rw [h.ranges_eq] at hother
  rcases hother with ⟨hinside, hlow⟩ | ⟨later, hlater, hinside⟩
  · rw [h.next_eq_high] at hlow
    have htried := h.tried_le_low
    have hends := block.low_le_high
    exact And.intro (Or.inl ⟨hinside, by simp only; omega⟩)
      (Block.disjoint_iff.mpr (Or.inl (by omega)))
  · exact And.intro (Or.inr ⟨later, hlater, hinside⟩)
      ((hapart later hlater).mono h.inside hinside)

/-- The step lemma of soundness. -/
theorem take_ahead {length : Nat} (hlength : length ≤ 32) {ranges : List Block} {next : Nat}
    {block : Block} {after : Cursor} (hapart : ranges.Pairwise Block.Disjoint)
    (h : take length ranges next = some (block, after)) :
    after.ranges.Pairwise Block.Disjoint ∧ Ahead ⟨ranges, next⟩ block ∧
      forall other, Ahead after other -> Ahead ⟨ranges, next⟩ other ∧ block.Disjoint other := by
  induction ranges generalizing next with
  | nil =>
      simp [take] at h
  | cons range rest ih =>
      rcases List.pairwise_cons.mp hapart with ⟨hhead, htail⟩
      by_cases hfits : Fits length range next
      · rw [take_of_fits hfits] at h
        cases h
        have hplaced := placed_of_fits hlength hfits rest
        exact ⟨hapart, hplaced.ahead, fun other => hplaced.beyond hhead⟩
      · rw [take_of_not_fits hfits] at h
        rcases ih htail h with ⟨hafter, hblock, hothers⟩
        rw [mk_next_start] at hblock hothers
        refine ⟨hafter, ahead_of_ahead_start hblock, ?_⟩
        intro other hother
        exact And.intro (ahead_of_ahead_start (hothers other hother).left)
          (hothers other hother).right

/-- The run lemma of soundness. -/
theorem placeAll_ahead {cursor : Cursor} {requests : List SubnetRequest} {subnets : List Subnet}
    (hapart : cursor.ranges.Pairwise Block.Disjoint)
    (h : cursor.placeAll requests = .ok subnets) :
    (forall subnet, subnet ∈ subnets -> Ahead cursor subnet.block) ∧
      subnets.Pairwise fun a b => a.block.Disjoint b.block := by
  induction requests generalizing cursor subnets with
  | nil =>
      cases h
      exact And.intro (by simp) List.Pairwise.nil
  | cons request rest ih =>
      rcases placeAll_cons_eq_ok_iff.mp h with ⟨subnet, after, others, hplace, hrest, rfl⟩
      rcases place_eq_some_iff.mp hplace with ⟨hlength, _hname, _halias, htake⟩
      rcases take_ahead hlength hapart htake with ⟨hafter, hblock, hbeyond⟩
      rcases ih hafter hrest with ⟨hahead, hpairs⟩
      constructor
      · intro served hserved
        rcases List.mem_cons.mp hserved with rfl | hserved
        · exact hblock
        · exact (hbeyond served.block (hahead served hserved)).left
      · apply List.pairwise_cons.mpr
        constructor
        · intro served hserved
          exact (hbeyond served.block (hahead served hserved)).right
        · exact hpairs

end Cursor

/-!
# What a run hands out
-/

/-- A subnet is what a request asks for: its name, its alias and a block of its size that is
written with its lowest address. -/
structure SubnetRequest.ServedBy (request : SubnetRequest) (subnet : Subnet) : Prop where
  name_eq : subnet.name = request.name
  alias_eq : subnet.aliasName = request.aliasName
  length_eq : subnet.block.length = request.prefixLength
  isNetwork : subnet.block.IsNetwork

theorem Cursor.place_servedBy {cursor after : Cursor} {request : SubnetRequest} {subnet : Subnet}
    (h : cursor.place request = some (subnet, after)) : request.ServedBy subnet := by
  rcases place_eq_some_iff.mp h with ⟨hlength, hname, halias, htake⟩
  rcases take_eq_some hlength htake with ⟨_, _, _, _, _, _, hplaced⟩
  exact ⟨hname, halias, hplaced.length_eq, hplaced.isNetwork⟩

theorem Cursor.placeAll_servedBy {cursor : Cursor} {requests : List SubnetRequest}
    {subnets : List Subnet} (h : cursor.placeAll requests = .ok subnets) :
    List.Forall₂ SubnetRequest.ServedBy requests subnets := by
  induction requests generalizing cursor subnets with
  | nil =>
      cases h
      exact List.Forall₂.nil
  | cons request rest ih =>
      rcases placeAll_cons_eq_ok_iff.mp h with ⟨subnet, after, others, hplace, hrest, rfl⟩
      exact List.Forall₂.cons (place_servedBy hplace) (ih hrest)

theorem Cursor.isNetwork_of_placeAll {cursor : Cursor} {requests : List SubnetRequest}
    {subnets : List Subnet} (h : cursor.placeAll requests = .ok subnets) {subnet : Subnet}
    (hsubnet : subnet ∈ subnets) : subnet.block.IsNetwork := by
  rcases exists_left_of_forall₂ (placeAll_servedBy h) hsubnet with ⟨_, _, hserved⟩
  exact hserved.isNetwork

/-- A run over ranges that keep apart hands out blocks inside the ranges that keep apart. -/
theorem Cursor.placeAll_inside {ranges : List Block} {requests : List SubnetRequest}
    {subnets : List Subnet} (hapart : ranges.Pairwise Block.Disjoint)
    (h : (start ranges).placeAll requests = .ok subnets) :
    (forall subnet, subnet ∈ subnets ->
      exists range, range ∈ ranges ∧ subnet.block ⊆ range) ∧
    subnets.Pairwise fun a b => a.block.Disjoint b.block := by
  rw [← ranges_start ranges] at hapart
  rcases placeAll_ahead hapart h with ⟨hahead, hpairs⟩
  exact And.intro (fun subnet hsubnet => ahead_start_iff.mp (hahead subnet hsubnet)) hpairs

/-- Every request gets a block of its size inside a range, no two blocks meet, and each start is
the number that the search settled on. -/
theorem allocate_sound {ranges : List Block} {requests : List SubnetRequest}
    {subnets : List Subnet} (hapart : ranges.Pairwise Block.Disjoint)
    (h : allocate ranges requests = .ok subnets) :
    (exists order, StablySorted requests order ∧
      List.Forall₂ SubnetRequest.ServedBy order subnets) ∧
    (forall subnet, subnet ∈ subnets ->
      exists range, range ∈ ranges ∧ subnet.block ⊆ range) ∧
    (subnets.Pairwise fun a b => a.block.Disjoint b.block) ∧
    (forall (length : Nat) (ranges : List Block) (next : Nat) (block : Block) (after : Cursor),
      length ≤ 32 -> Cursor.take length ranges next = some (block, after) ->
      exists tried, (tried = next ∨ exists range, range ∈ ranges ∧ tried = range.low) ∧
        block.address.value = alignUp tried (blockSize length) ∧
        after.next = alignUp tried (blockSize length) + blockSize length) := by
  rcases Cursor.placeAll_inside hapart h with ⟨hinside, hpairs⟩
  refine ⟨⟨bySize requests, stablySorted_bySize requests, Cursor.placeAll_servedBy h⟩, hinside,
    hpairs, ?_⟩
  intro length ranges next block after hlength htake
  rcases Cursor.take_eq_some hlength htake with
    ⟨skipped, range, rest, tried, hranges, htried, hplaced⟩
  refine ⟨tried, ?_, hplaced.start, hplaced.next_eq⟩
  rcases htried with ⟨_hskipped, htried⟩ | ⟨_hskipped, htried⟩
  · exact Or.inl htried
  · exact Or.inr ⟨range, by rw [hranges]; simp, htried⟩

/-- Ranges with host bits, in no order of size, the last one at the end of the address space: it is
filled up to its last address. -/
theorem allocate_sound_at_end_of_space :
    let ranges : List Block := [⟨.ofOctets 10 0 0 9, 29, by decide⟩,
      ⟨.ofOctets 255 255 255 255, 28, by decide⟩]
    let requests : List SubnetRequest := [⟨"snet-a", "a", 30, none⟩, ⟨"snet-b", "b", 29, none⟩,
      ⟨"snet-c", "c", 29, none⟩, ⟨"snet-d", "d", 30, none⟩]
    let subnets : List Subnet := [⟨"snet-b", "b", ⟨.ofOctets 10 0 0 8, 29, by decide⟩⟩,
      ⟨"snet-c", "c", ⟨.ofOctets 255 255 255 240, 29, by decide⟩⟩,
      ⟨"snet-a", "a", ⟨.ofOctets 255 255 255 248, 30, by decide⟩⟩,
      ⟨"snet-d", "d", ⟨.ofOctets 255 255 255 252, 30, by decide⟩⟩]
    ranges.Pairwise Block.Disjoint ∧ allocate ranges requests = .ok subnets ∧
      subnets.Pairwise fun a b => a.block.Disjoint b.block := by
  intro ranges requests subnets
  have hapart : ranges.Pairwise Block.Disjoint := by
    decide
  have hallocate : allocate ranges requests = .ok subnets := by
    cbv
  exact ⟨hapart, hallocate, (allocate_sound hapart hallocate).right.right.left⟩

end NetworkPlan
