import NetworkPlan.Proofs.Subnet.Packing
import NetworkPlan.Proofs.Subnet.Soundness

/-!
# Completeness of the allocation

Over ranges that keep apart, the largest ones first, the allocator fails only where no packing
exists.  A run is measured by the room left for blocks of one size: the addresses ahead of the
cursor in ranges of that size or larger.  Blocks are served largest first, so the cursor always
stands on a multiple of the next block's size; a range that is left because a block does not fit
has then been filled to its end, every step takes from the room just the size of its block, and a
step that fails finds no room at all.  With the counting bound this rules out every packing.
-/

namespace NetworkPlan
namespace Cursor

/-- The number of addresses ahead of the cursor in ranges that a block of the given length could
lie in. -/
def room (length : Nat) (cursor : Cursor) : Nat :=
  match cursor.ranges with
  | [] => 0
  | range :: rest =>
      (if range.length ≤ length then range.high + 1 - cursor.next else 0) + capacity length rest

/-- The cursor stands in its range or just after it, on a multiple of the size of every block of
at least the given length that is no larger than the range. -/
def Aligned (length : Nat) (cursor : Cursor) : Prop :=
  match cursor.ranges with
  | [] => True
  | range :: _ =>
      range.low ≤ cursor.next ∧ cursor.next ≤ range.high + 1 ∧
        forall m : Nat, length ≤ m -> range.length ≤ m -> blockSize m ∣ cursor.next

theorem room_cons (length next : Nat) (range : Block) (rest : List Block) :
    room length ⟨range :: rest, next⟩ =
      (if range.length ≤ length then range.high + 1 - next else 0) + capacity length rest :=
  rfl

theorem room_start (length : Nat) (ranges : List Block) :
    room length (start ranges) = capacity length ranges := by
  cases ranges with
  | nil =>
      rfl
  | cons range rest =>
      have hend := range.high_add_one
      have hwhole : range.high + 1 - range.low = range.size := by
        omega
      rw [capacity_cons, start, room_cons, hwhole]

theorem aligned_start (length : Nat) (ranges : List Block) : Aligned length (start ranges) := by
  cases ranges with
  | nil =>
      trivial
  | cons range rest =>
      refine ⟨Nat.le_refl _, Nat.le_succ_of_le range.low_le_high, ?_⟩
      intro m _hm hrange
      exact Nat.dvd_trans (blockSize_dvd hrange) range.size_dvd_low

theorem aligned_start_next (length : Nat) (ranges : List Block) :
    Aligned length ⟨ranges, (start ranges).next⟩ := by
  rw [mk_next_start]
  exact aligned_start length ranges

theorem Aligned.mono {length longer : Nat} {cursor : Cursor} (h : Aligned length cursor)
    (hle : length ≤ longer) : Aligned longer cursor := by
  unfold Aligned at h ⊢
  split
  · trivial
  · next range rest hranges =>
      rw [hranges] at h
      refine ⟨h.left, h.right.left, ?_⟩
      intro m hm hrange
      exact h.right.right m (Nat.le_trans hle hm) hrange

variable {length next : Nat} {range : Block} {rest : List Block}

/-- On an aligned cursor nothing is skipped by rounding up. -/
theorem Aligned.alignUp_eq (h : Aligned length ⟨range :: rest, next⟩)
    (hrange : range.length ≤ length) : alignUp next (blockSize length) = next :=
  alignUp_of_dvd (blockSize_pos length) (h.right.right length (Nat.le_refl _) hrange)

/-- A range that is left although it is large enough has been filled to its end. -/
theorem Aligned.next_eq_of_not_fits (h : Aligned length ⟨range :: rest, next⟩)
    (hrange : range.length ≤ length) (hfits : ¬ Fits length range next) :
    next = range.high + 1 := by
  have hle : range.low ≤ next := h.left
  have hend : next ≤ range.high + 1 := h.right.left
  have hshort : ¬ next + blockSize length ≤ range.high + 1 := by
    intro hroom
    rw [Fits, h.alignUp_eq hrange] at hfits
    exact hfits (And.intro hle hroom)
  -- What is left of the range is a multiple of the block size and smaller than the block.
  have hsize : blockSize length ∣ range.high + 1 := by
    rw [range.high_add_one]
    have hdvd : blockSize length ∣ range.size := blockSize_dvd hrange
    exact Nat.dvd_add (Nat.dvd_trans hdvd range.size_dvd_low) hdvd
  have hleft : blockSize length ∣ range.high + 1 - next :=
    Nat.dvd_sub hsize (h.right.right length (Nat.le_refl _) hrange)
  have hzero : range.high + 1 - next = 0 := Nat.eq_zero_of_dvd_of_lt hleft (by omega)
  omega

/-- A range that is left has no room, whatever its size. -/
theorem Aligned.room_of_not_fits (h : Aligned length ⟨range :: rest, next⟩)
    (hfits : ¬ Fits length range next) :
    room length ⟨range :: rest, next⟩ = room length (start rest) := by
  rw [room_start, room_cons]
  by_cases hrange : range.length ≤ length
  · have hnext := h.next_eq_of_not_fits hrange hfits
    rw [if_pos hrange]
    omega
  · rw [if_neg hrange, Nat.zero_add]

/-!
# One step
-/

/-- The step lemma for failure. -/
theorem room_eq_zero_of_take_eq_none {ranges : List Block}
    (haligned : Aligned length ⟨ranges, next⟩) (h : take length ranges next = none) :
    room length ⟨ranges, next⟩ = 0 := by
  induction ranges generalizing next with
  | nil =>
      rfl
  | cons range rest ih =>
      by_cases hfits : Fits length range next
      · rw [take_of_fits hfits] at h
        cases h
      · rw [take_of_not_fits hfits] at h
        rw [haligned.room_of_not_fits hfits, ← mk_next_start]
        exact ih (aligned_start_next length rest) h

theorem Placed.aligned {tried : Nat} {block : Block} {after : Cursor}
    (h : Placed length range rest tried block after) : Aligned length after := by
  have hends := Block.subset_iff.mp h.inside
  have horder := block.low_le_high
  have hnext := h.next_eq_high
  unfold Aligned
  rw [h.ranges_eq]
  refine ⟨by omega, by omega, ?_⟩
  intro m hm _hrange
  rw [h.next_eq]
  have hsize : blockSize m ∣ blockSize length := blockSize_dvd hm
  exact Nat.dvd_add (Nat.dvd_trans hsize (dvd_alignUp tried _)) hsize

theorem take_length_le (hlength : length ≤ 32) {ranges : List Block} {block : Block}
    {after : Cursor} (h : take length ranges next = some (block, after)) :
    exists range, range ∈ ranges ∧ range.length ≤ length := by
  rcases take_eq_some hlength h with ⟨_, range, _, _, hranges, _htried, hplaced⟩
  have hinside := Block.length_le_of_subset hplaced.inside
  rw [hplaced.length_eq] at hinside
  exact ⟨range, by rw [hranges]; simp, hinside⟩

/-- The step lemma for success: the block is taken from the room for every smaller size. -/
theorem take_room (hlength : length ≤ 32) {ranges : List Block} {block : Block} {after : Cursor}
    (hlargest : ranges.Pairwise fun a b => a.length ≤ b.length)
    (haligned : Aligned length ⟨ranges, next⟩)
    (h : take length ranges next = some (block, after)) :
    Aligned length after ∧ (after.ranges.Pairwise fun a b => a.length ≤ b.length) ∧
      forall longer : Nat, length ≤ longer ->
        room longer ⟨ranges, next⟩ = blockSize length + room longer after := by
  induction ranges generalizing next with
  | nil =>
      simp [take] at h
  | cons range rest ih =>
      rcases List.pairwise_cons.mp hlargest with ⟨hhead, htail⟩
      -- Some range here is large enough, so the first one is.
      have hrange : range.length ≤ length := by
        rcases take_length_le hlength h with ⟨large, hlarge, hle⟩
        rcases List.mem_cons.mp hlarge with rfl | hlarge
        · exact hle
        · exact Nat.le_trans (hhead large hlarge) hle
      by_cases hfits : Fits length range next
      · rw [take_of_fits hfits] at h
        cases h
        refine ⟨(placed_of_fits hlength hfits rest).aligned, hlargest, ?_⟩
        intro longer hlonger
        have hend := hfits.right
        simp only [room_cons, if_pos (Nat.le_trans hrange hlonger)]
        rw [haligned.alignUp_eq hrange] at hend ⊢
        omega
      · have hnext := haligned.next_eq_of_not_fits hrange hfits
        rw [take_of_not_fits hfits] at h
        rcases ih htail (aligned_start_next length rest) h with ⟨hafter, hranges, hroom⟩
        refine ⟨hafter, hranges, ?_⟩
        intro longer hlonger
        rw [← hroom longer hlonger, mk_next_start, room_start, room_cons,
          if_pos (Nat.le_trans hrange hlonger)]
        omega

/-!
# A whole run
-/

/-- The run lemma: when a request fails, what was served before it has used up all the room for
blocks of its size. -/
theorem placeAll_eq_error {cursor : Cursor} {requests : List SubnetRequest}
    {failed : SubnetRequest} {least : Nat}
    (hlargest : cursor.ranges.Pairwise fun a b => a.length ≤ b.length)
    (haligned : Aligned least cursor)
    (hleast : forall request, request ∈ requests -> least ≤ request.prefixLength)
    (hascending : requests.Pairwise fun a b => a.prefixLength ≤ b.prefixLength)
    (h : cursor.placeAll requests = .error failed) :
    exists served rest,
      requests = served ++ failed :: rest ∧
      (exists subnets, cursor.placeAll served = .ok subnets) ∧
      (failed.prefixLength ≤ 32 -> room failed.prefixLength cursor = demand served) := by
  induction requests generalizing cursor least with
  | nil =>
      cases h
  | cons request rest ih =>
      rcases List.pairwise_cons.mp hascending with ⟨hhead, htail⟩
      have hleastHead := hleast request List.mem_cons_self
      rcases placeAll_cons_eq_error_iff.mp h with ⟨hnone, rfl⟩ | ⟨subnet, after, hplace, hrest⟩
      · refine ⟨[], rest, rfl, ⟨[], rfl⟩, ?_⟩
        intro hshort
        rcases place_eq_none_iff.mp hnone with hlong | htake
        · omega
        · exact room_eq_zero_of_take_eq_none (haligned.mono hleastHead) htake
      · rcases place_eq_some_iff.mp hplace with ⟨hlength, _hname, _halias, htake⟩
        rcases take_room hlength hlargest (haligned.mono hleastHead) htake with
          ⟨hafter, hranges, hroom⟩
        rcases ih hranges hafter hhead htail hrest with
          ⟨served, others, hsplit, ⟨subnets, hserved⟩, hused⟩
        refine ⟨request :: served, others, by rw [hsplit, List.cons_append], ?_, ?_⟩
        · exact ⟨subnet :: subnets,
            placeAll_cons_eq_ok_iff.mpr ⟨subnet, after, subnets, hplace, hserved, rfl⟩⟩
        · intro hshort
          have hle : request.prefixLength ≤ failed.prefixLength :=
            hhead failed (by rw [hsplit]; simp)
          rw [hroom failed.prefixLength hle, hused hshort, demand_cons]

end Cursor

/-!
# Allocations and packings
-/

theorem Cursor.packable_of_placeAll {ranges : List Block} {requests : List SubnetRequest}
    {subnets : List Subnet} (hapart : ranges.Pairwise Block.Disjoint)
    (h : (start ranges).placeAll requests = .ok subnets) : Packable ranges requests := by
  rcases placeAll_inside hapart h with ⟨hinside, hpairs⟩
  refine ⟨subnets.map (·.block), ?_, ?_, ?_⟩
  · apply List.forall₂_map_right_iff.mpr
    exact (placeAll_servedBy h).imp fun _ _ hserved => ⟨hserved.length_eq, hserved.isNetwork⟩
  · intro block hblock
    rcases List.mem_map.mp hblock with ⟨subnet, hsubnet, rfl⟩
    exact hinside subnet hsubnet
  · exact List.pairwise_map.mpr hpairs

/-- The first requests of a packable list are packable. -/
theorem Packable.of_append {ranges : List Block} {first second : List SubnetRequest}
    (h : Packable ranges (first ++ second)) : Packable ranges first := by
  rcases h with ⟨blocks, hpacking⟩
  have hsized := List.forall₂_take first.length hpacking.sized
  rw [List.take_left] at hsized
  refine ⟨blocks.take first.length, hsized, ?_, hpacking.apart.sublist (List.take_sublist _ _)⟩
  intro block hblock
  exact hpacking.inside block (List.mem_of_mem_take hblock)

/-- No block has a prefix longer than 32. -/
theorem Packing.prefixLength_le {ranges : List Block} {requests : List SubnetRequest}
    {blocks : List Block} (h : Packing ranges requests blocks) {request : SubnetRequest}
    (hrequest : request ∈ requests) : request.prefixLength ≤ 32 := by
  rcases exists_right_of_forall₂ h.sized hrequest with ⟨block, _, hsized⟩
  rw [← hsized.left]
  exact block.length_le

/-- A failing request is the first one that leaves no packing. -/
theorem not_packable_of_placeAll_eq_error {ranges : List Block} {order : List SubnetRequest}
    {failed : SubnetRequest} (hapart : ranges.Pairwise Block.Disjoint)
    (hlargest : ranges.Pairwise fun a b => a.length ≤ b.length)
    (hascending : order.Pairwise fun a b => a.prefixLength ≤ b.prefixLength)
    (h : (Cursor.start ranges).placeAll order = .error failed) :
    exists served rest,
      order = served ++ failed :: rest ∧ Packable ranges served ∧
      ¬ Packable ranges (served ++ [failed]) := by
  rw [← Cursor.ranges_start ranges] at hlargest
  rcases Cursor.placeAll_eq_error hlargest (Cursor.aligned_start 0 ranges)
    (fun request _ => Nat.zero_le _) hascending h with
    ⟨served, rest, hsplit, ⟨subnets, hserved⟩, hused⟩
  refine ⟨served, rest, hsplit, Cursor.packable_of_placeAll hapart hserved, ?_⟩
  intro hpackable
  rcases hpackable with ⟨blocks, hpacking⟩
  have hshort : failed.prefixLength ≤ 32 := hpacking.prefixLength_le (by simp)
  have hbounded : forall request, request ∈ served ++ [failed] ->
      request.prefixLength ≤ failed.prefixLength := by
    intro request hrequest
    rcases List.mem_append.mp hrequest with hmem | hmem
    · rw [hsplit] at hascending
      exact (List.pairwise_append.mp hascending).right.right request hmem failed List.mem_cons_self
    · rw [List.mem_singleton.mp hmem]
  have hdemand := hpacking.demand_le_capacity hbounded
  have hpos := blockSize_pos failed.prefixLength
  rw [demand_append_singleton, ← Cursor.room_start, hused hshort] at hdemand
  omega

/-- Over ranges that keep apart, largest first, an allocation is found exactly when a packing
exists, and a failure names the first request that leaves none. -/
theorem allocate_complete {ranges : List Block} {requests : List SubnetRequest}
    (hapart : ranges.Pairwise Block.Disjoint)
    (hlargest : ranges.Pairwise fun a b => a.length ≤ b.length) :
    ((exists subnets, allocate ranges requests = .ok subnets) ↔ Packable ranges requests) ∧
    (forall failed, allocate ranges requests = .error failed ->
      exists order served rest,
        StablySorted requests order ∧ order = served ++ failed :: rest ∧
        Packable ranges served ∧ ¬ Packable ranges (served ++ [failed])) := by
  have hfailure : forall failed, allocate ranges requests = .error failed ->
      exists served rest,
        bySize requests = served ++ failed :: rest ∧ Packable ranges served ∧
        ¬ Packable ranges (served ++ [failed]) :=
    fun failed => not_packable_of_placeAll_eq_error hapart hlargest (bySize_ascending requests)
  constructor
  · constructor
    · intro h
      rcases h with ⟨subnets, hallocate⟩
      exact (Cursor.packable_of_placeAll hapart hallocate).perm (bySize_perm requests).symm
    · intro hpackable
      cases hallocate : allocate ranges requests with
      | ok subnets =>
          exact ⟨subnets, rfl⟩
      | error failed =>
          rcases hfailure failed hallocate with ⟨served, rest, hsplit, _hserved, hnone⟩
          have hordered := hpackable.perm (bySize_perm requests)
          rw [hsplit, List.append_cons] at hordered
          exact absurd hordered.of_append hnone
  · intro failed hallocate
    rcases hfailure failed hallocate with ⟨served, rest, hsplit, hserved, hnone⟩
    exact ⟨bySize requests, served, rest, stablySorted_bySize requests, hsplit, hserved, hnone⟩

/-- Four requests for half of the first range, which is as large as two of them, or for the second
range: no packing exists, and it is the last one served that fails. -/
theorem allocate_complete_full :
    let ranges : List Block := [⟨.ofOctets 10 0 0 0, 28, by decide⟩,
      ⟨.ofOctets 10 0 1 7, 29, by decide⟩]
    let requests : List SubnetRequest := [⟨"snet-a", "a", 30, none⟩, ⟨"snet-b", "b", 29, none⟩,
      ⟨"snet-c", "c", 29, none⟩, ⟨"snet-d", "d", 29, none⟩]
    ranges.Pairwise Block.Disjoint ∧ (ranges.Pairwise fun a b => a.length ≤ b.length) ∧
      allocate ranges requests = .error ⟨"snet-a", "a", 30, none⟩ ∧
      ¬ Packable ranges requests := by
  intro ranges requests
  have hapart : ranges.Pairwise Block.Disjoint := by
    decide
  have hlargest : ranges.Pairwise fun a b => a.length ≤ b.length := by
    decide
  have hallocate : allocate ranges requests = .error ⟨"snet-a", "a", 30, none⟩ := by
    cbv
  refine ⟨hapart, hlargest, hallocate, ?_⟩
  intro hpackable
  rcases (allocate_complete hapart hlargest).left.mpr hpackable with ⟨subnets, hok⟩
  rw [hallocate] at hok
  cases hok

end NetworkPlan
