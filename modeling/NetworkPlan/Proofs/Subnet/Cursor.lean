import NetworkPlan.Proofs.Address.Extent
import NetworkPlan.Proofs.Subnet.Order

/-!
# Steps and runs of the allocator

What one step of the allocator can do, and what a whole run is made of.  A step tries the range
at the cursor and moves on to the next one as long as the block does not fit; a run serves the
requests one after the other, each from where the step before it left the cursor.
-/

namespace NetworkPlan

/-!
# Rounding up
-/

theorem dvd_alignUp (n step : Nat) : step ∣ alignUp n step :=
  Nat.dvd_mul_left _ _

theorem le_alignUp {n step : Nat} (hpos : 0 < step) : n ≤ alignUp n step := by
  have hdiv := Nat.div_add_mod (n + step - 1) step
  have hmod := Nat.mod_lt (n + step - 1) hpos
  rw [Nat.mul_comm] at hdiv
  unfold alignUp
  omega

theorem alignUp_of_dvd {n step : Nat} (hpos : 0 < step) (h : step ∣ n) : alignUp n step = n := by
  rcases h with ⟨k, rfl⟩
  have hdiv : (step * k + step - 1) / step = k := by
    rw [Nat.add_sub_assoc hpos, Nat.mul_add_div hpos, Nat.div_eq_of_lt (by omega), Nat.add_zero]
  unfold alignUp
  rw [hdiv, Nat.mul_comm]

namespace Cursor

@[simp] theorem ranges_start (ranges : List Block) : (start ranges).ranges = ranges := by
  cases ranges <;> rfl

@[simp] theorem mk_next_start (ranges : List Block) :
    (⟨ranges, (start ranges).next⟩ : Cursor) = start ranges := by
  cases ranges <;> rfl

/-!
# One step
-/

/-- From an address on, a range has room for an aligned block of a given length. -/
def Fits (length : Nat) (range : Block) (tried : Nat) : Prop :=
  range.low ≤ alignUp tried (blockSize length) ∧
    alignUp tried (blockSize length) + blockSize length ≤ range.high + 1

/-- A block lies in a range at the first multiple of its size from an address on, and the cursor
stands in that range just after it. -/
structure Placed (length : Nat) (range : Block) (rest : List Block) (tried : Nat) (block : Block)
    (after : Cursor) : Prop where
  start : block.address.value = alignUp tried (blockSize length)
  length_eq : block.length = length
  isNetwork : block.IsNetwork
  inside : block ⊆ range
  ranges_eq : after.ranges = range :: rest
  next_eq : after.next = alignUp tried (blockSize length) + blockSize length

namespace Placed

variable {length tried : Nat} {range block : Block} {rest : List Block} {after : Cursor}

theorem low_eq (h : Placed length range rest tried block after) :
    block.low = alignUp tried (blockSize length) := by
  rw [← Block.isNetwork_iff.mp h.isNetwork, h.start]

theorem next_eq_high (h : Placed length range rest tried block after) :
    after.next = block.high + 1 := by
  rw [h.next_eq, block.high_add_one, h.low_eq, Block.size, h.length_eq]

theorem tried_le_low (h : Placed length range rest tried block after) : tried ≤ block.low := by
  rw [h.low_eq]
  exact le_alignUp (blockSize_pos length)

end Placed

theorem placed_of_fits {length : Nat} (hlength : length ≤ 32) {range : Block} {tried : Nat}
    (hfits : Fits length range tried) (rest : List Block) :
    Placed length range rest tried
      (Block.ofNetwork (alignUp tried (blockSize length)) length)
      ⟨range :: rest, alignUp tried (blockSize length) + blockSize length⟩ := by
  have hpos := blockSize_pos length
  have hhigh := range.high_lt
  have hlt : alignUp tried (blockSize length) < 4294967296 := by
    have hend := hfits.right
    omega
  have hdvd := dvd_alignUp tried (blockSize length)
  exact {
    start := Block.address_ofNetwork hlength hlt hdvd
    length_eq := Block.length_ofNetwork hlength
    isNetwork := Block.isNetwork_ofNetwork hlength hlt hdvd
    inside := by
      have hend := Block.high_ofNetwork hlength hlt hdvd
      have hroom := hfits.right
      rw [Block.subset_iff, Block.low_ofNetwork hlength hlt hdvd]
      exact And.intro hfits.left (by omega)
    ranges_eq := rfl
    next_eq := rfl }

theorem take_of_fits {length : Nat} {range : Block} {tried : Nat}
    (hfits : Fits length range tried) (rest : List Block) :
    take length (range :: rest) tried =
      some (Block.ofNetwork (alignUp tried (blockSize length)) length,
        ⟨range :: rest, alignUp tried (blockSize length) + blockSize length⟩) := by
  have hpos := blockSize_pos length
  have hend : alignUp tried (blockSize length) + blockSize length - 1 + 1 =
      alignUp tried (blockSize length) + blockSize length := by
    omega
  have hroom : alignUp tried (blockSize length) + blockSize length - 1 ≤ range.high := by
    have hlast := hfits.right
    omega
  simp [take, hfits.left, hroom, hend]

/-- A range that has no room is left, and the next one is tried from its lowest address. -/
theorem take_of_not_fits {length : Nat} {range : Block} {tried : Nat}
    (hfits : ¬ Fits length range tried) (rest : List Block) :
    take length (range :: rest) tried = take length rest (start rest).next := by
  have hpos := blockSize_pos length
  have hno : ¬ (range.low ≤ alignUp tried (blockSize length) ∧
      alignUp tried (blockSize length) + blockSize length - 1 ≤ range.high) := by
    intro h
    exact hfits (And.intro h.left (by omega))
  cases rest with
  | nil =>
      simp only [take, Bool.and_eq_true, decide_eq_true_eq, if_neg hno]
  | cons later rest =>
      rw [take]
      simp only [Bool.and_eq_true, decide_eq_true_eq, if_neg hno, start]

/-- What a step can do: some ranges are left, and the block is placed in the one after them. -/
theorem take_eq_some {length : Nat} (hlength : length ≤ 32) {ranges : List Block} {next : Nat}
    {block : Block} {after : Cursor} (h : take length ranges next = some (block, after)) :
    exists skipped range rest tried,
      ranges = skipped ++ range :: rest ∧
      (skipped = [] ∧ tried = next ∨ skipped ≠ [] ∧ tried = range.low) ∧
      Placed length range rest tried block after := by
  induction ranges generalizing next with
  | nil =>
      cases h
  | cons range rest ih =>
      by_cases hfits : Fits length range next
      · rw [take_of_fits hfits] at h
        cases h
        exact ⟨[], range, rest, next, rfl, Or.inl ⟨rfl, rfl⟩,
          placed_of_fits hlength hfits rest⟩
      · rw [take_of_not_fits hfits] at h
        cases rest with
        | nil =>
            cases h
        | cons later rest =>
            rcases ih h with ⟨skipped, found, others, tried, hranges, htried, hplaced⟩
            refine ⟨range :: skipped, found, others, tried, ?_, Or.inr ⟨by simp, ?_⟩, hplaced⟩
            · rw [hranges, List.cons_append]
            · rcases htried with ⟨hskipped, htried⟩ | ⟨_hskipped, htried⟩
              · -- The first range tried is entered at its lowest address.
                subst hskipped
                cases hranges
                exact htried
              · exact htried

theorem place_eq_some_iff {cursor after : Cursor} {request : SubnetRequest} {subnet : Subnet} :
    cursor.place request = some (subnet, after) ↔
      request.prefixLength ≤ 32 ∧ subnet.name = request.name ∧
      subnet.aliasName = request.aliasName ∧
      take request.prefixLength cursor.ranges cursor.next = some (subnet.block, after) := by
  unfold place
  by_cases hlong : 32 < request.prefixLength
  · rw [if_pos hlong]
    constructor
    · intro h
      cases h
    · intro h
      omega
  · rw [if_neg hlong]
    cases htake : take request.prefixLength cursor.ranges cursor.next with
    | none =>
        simp
    | some found =>
        rcases found with ⟨block, moved⟩
        rcases subnet with ⟨name, aliasName, own⟩
        simp only [Option.map_some, Option.some.injEq, Prod.mk.injEq, Subnet.mk.injEq]
        constructor
        · intro h
          rcases h with ⟨⟨hname, halias, hblock⟩, hafter⟩
          exact ⟨by omega, hname.symm, halias.symm, hblock, hafter⟩
        · intro h
          rcases h with ⟨_hlength, hname, halias, hblock, hafter⟩
          exact ⟨⟨hname.symm, halias.symm, hblock⟩, hafter⟩

theorem place_eq_none_iff {cursor : Cursor} {request : SubnetRequest} :
    cursor.place request = none ↔
      32 < request.prefixLength ∨
        take request.prefixLength cursor.ranges cursor.next = none := by
  unfold place
  by_cases hlong : 32 < request.prefixLength
  · simp [hlong]
  · simp [hlong]

/-!
# Whole runs
-/

theorem placeAll_cons_of_none {cursor : Cursor} {request : SubnetRequest}
    (rest : List SubnetRequest) (h : cursor.place request = none) :
    cursor.placeAll (request :: rest) = .error request := by
  rw [placeAll, h]

theorem placeAll_cons_of_some {cursor after : Cursor} {request : SubnetRequest} {subnet : Subnet}
    (rest : List SubnetRequest) (h : cursor.place request = some (subnet, after)) :
    cursor.placeAll (request :: rest) = (after.placeAll rest).map (subnet :: ·) := by
  rw [placeAll, h]

theorem placeAll_cons_eq_ok_iff {cursor : Cursor} {request : SubnetRequest}
    {rest : List SubnetRequest} {subnets : List Subnet} :
    cursor.placeAll (request :: rest) = .ok subnets ↔
      exists subnet after others,
        cursor.place request = some (subnet, after) ∧ after.placeAll rest = .ok others ∧
        subnets = subnet :: others := by
  constructor
  · intro h
    cases hplace : cursor.place request with
    | none =>
        rw [placeAll_cons_of_none rest hplace] at h
        cases h
    | some found =>
        rcases found with ⟨subnet, after⟩
        rw [placeAll_cons_of_some rest hplace] at h
        cases hrest : after.placeAll rest with
        | error failed =>
            rw [hrest] at h
            cases h
        | ok others =>
            rw [hrest] at h
            cases h
            exact ⟨subnet, after, others, rfl, hrest, rfl⟩
  · intro h
    rcases h with ⟨subnet, after, others, hplace, hrest, hsubnets⟩
    rw [placeAll_cons_of_some rest hplace, hrest, hsubnets]
    rfl

theorem placeAll_cons_eq_error_iff {cursor : Cursor} {request failed : SubnetRequest}
    {rest : List SubnetRequest} :
    cursor.placeAll (request :: rest) = .error failed ↔
      cursor.place request = none ∧ failed = request ∨
      exists subnet after,
        cursor.place request = some (subnet, after) ∧ after.placeAll rest = .error failed := by
  constructor
  · intro h
    cases hplace : cursor.place request with
    | none =>
        rw [placeAll_cons_of_none rest hplace] at h
        cases h
        exact Or.inl ⟨rfl, rfl⟩
    | some found =>
        rcases found with ⟨subnet, after⟩
        rw [placeAll_cons_of_some rest hplace] at h
        cases hrest : after.placeAll rest with
        | error other =>
            rw [hrest] at h
            cases h
            exact Or.inr ⟨subnet, after, rfl, hrest⟩
        | ok others =>
            rw [hrest] at h
            cases h
  · intro h
    rcases h with ⟨hnone, hfailed⟩ | ⟨subnet, after, hplace, hrest⟩
    · rw [placeAll_cons_of_none rest hnone, hfailed]
    · rw [placeAll_cons_of_some rest hplace, hrest]
      rfl

/-- A run that fails has served the requests before the one that it names. -/
theorem exists_served_of_placeAll_eq_error {cursor : Cursor} {requests : List SubnetRequest}
    {failed : SubnetRequest} (h : cursor.placeAll requests = .error failed) :
    exists before after served, requests = before ++ failed :: after ∧
      cursor.placeAll before = .ok served ∧
      cursor.placeAll (before ++ [failed]) = .error failed := by
  induction requests generalizing cursor with
  | nil =>
      cases h
  | cons request rest ih =>
      rcases placeAll_cons_eq_error_iff.mp h with ⟨hnone, rfl⟩ | ⟨subnet, moved, hplace, hrest⟩
      · exact ⟨[], rest, [], rfl, rfl, placeAll_cons_of_none [] hnone⟩
      · rcases ih hrest with ⟨before, after, served, rfl, hserved, hnext⟩
        refine ⟨request :: before, after, subnet :: served, rfl, ?_, ?_⟩
        · exact placeAll_cons_eq_ok_iff.mpr ⟨subnet, moved, served, hplace, hserved, rfl⟩
        · exact placeAll_cons_eq_error_iff.mpr (Or.inr ⟨subnet, moved, hplace, hnext⟩)

/-- Only a request of the run can fail. -/
theorem mem_of_placeAll_eq_error {cursor : Cursor} {requests : List SubnetRequest}
    {failed : SubnetRequest} (h : cursor.placeAll requests = .error failed) :
    failed ∈ requests := by
  rcases exists_served_of_placeAll_eq_error h with ⟨before, after, _, rfl, _, _⟩
  exact List.mem_append_right before List.mem_cons_self

end Cursor
end NetworkPlan
