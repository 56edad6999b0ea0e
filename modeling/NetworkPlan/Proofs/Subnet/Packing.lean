import Mathlib
import NetworkPlan.Proofs.Address.Extent
import NetworkPlan.Proofs.Outcome
import NetworkPlan.Proofs.Subnet.Order

/-!
# Packings

A packing gives every request a block of its size inside one of the ranges, and no two blocks meet.
Nothing is said about how the blocks are found.  The main fact is the counting bound: the blocks of
a packing are no larger together than the ranges that could hold them.
-/

namespace NetworkPlan

/-- The block has the size asked for and is written with its lowest address. -/
def SubnetRequest.SizedBy (request : SubnetRequest) (block : Block) : Prop :=
  block.length = request.prefixLength ∧ block.IsNetwork

/-- One block for each request, inside the ranges and apart from each other. -/
structure Packing (ranges : List Block) (requests : List SubnetRequest) (blocks : List Block) :
    Prop where
  sized : List.Forall₂ SubnetRequest.SizedBy requests blocks
  inside : forall block, block ∈ blocks -> exists range, range ∈ ranges ∧ block ⊆ range
  apart : blocks.Pairwise Block.Disjoint

/-- There is some packing of the requests. -/
def Packable (ranges : List Block) (requests : List SubnetRequest) : Prop :=
  exists blocks, Packing ranges requests blocks

/-- The order of the requests does not matter to a packing. -/
theorem Packable.perm {ranges : List Block} {requests order : List SubnetRequest}
    (hperm : order.Perm requests) (h : Packable ranges requests) : Packable ranges order := by
  rcases h with ⟨blocks, hpacking⟩
  rcases List.perm_comp_forall₂ hperm hpacking.sized with ⟨moved, hsized, hmoved⟩
  refine ⟨moved, hsized, ?_, ?_⟩
  · intro block hblock
    exact hpacking.inside block (hmoved.mem_iff.mp hblock)
  · exact hpacking.apart.perm hmoved.symm Block.Disjoint.symm

/-!
# Counting addresses
-/

/-- The addresses of a block, as numbers. -/
def Block.addresses (block : Block) : Finset Nat :=
  Finset.Ico block.low (block.low + block.size)

theorem Block.card_addresses (block : Block) : block.addresses.card = block.size := by
  rw [addresses, Nat.card_Ico]
  omega

theorem Block.mem_addresses {block : Block} {n : Nat} :
    n ∈ block.addresses ↔ block.low ≤ n ∧ n ≤ block.high := by
  have hend := block.high_add_one
  rw [addresses, Finset.mem_Ico]
  omega

theorem disjoint_addresses {a b : Block} (h : a.Disjoint b) :
    Disjoint a.addresses b.addresses := by
  have hends := Block.disjoint_iff.mp h
  rw [Finset.disjoint_left]
  intro n ha hb
  rw [Block.mem_addresses] at ha hb
  omega

/-- The addresses of all the blocks of a list. -/
def covered : List Block -> Finset Nat
  | [] => ∅
  | block :: rest => block.addresses ∪ covered rest

theorem mem_covered {blocks : List Block} {n : Nat} :
    n ∈ covered blocks ↔ exists block, block ∈ blocks ∧ n ∈ block.addresses := by
  induction blocks with
  | nil =>
      simp [covered]
  | cons block rest ih =>
      simp only [covered, Finset.mem_union, ih, List.mem_cons, exists_eq_or_imp]

/-- The number of addresses of a list of blocks, those of overlapping blocks counted each time. -/
def totalSize (blocks : List Block) : Nat :=
  (blocks.map Block.size).sum

theorem totalSize_cons (block : Block) (rest : List Block) :
    totalSize (block :: rest) = block.size + totalSize rest := by
  simp [totalSize]

theorem card_covered_le (blocks : List Block) : (covered blocks).card ≤ totalSize blocks := by
  induction blocks with
  | nil =>
      simp [covered]
  | cons block rest ih =>
      have hunion := Finset.card_union_le block.addresses (covered rest)
      rw [block.card_addresses] at hunion
      rw [totalSize_cons, covered]
      omega

theorem card_covered {blocks : List Block} (hapart : blocks.Pairwise Block.Disjoint) :
    (covered blocks).card = totalSize blocks := by
  induction blocks with
  | nil =>
      simp [covered, totalSize]
  | cons block rest ih =>
      rcases List.pairwise_cons.mp hapart with ⟨hhead, htail⟩
      have hdisjoint : Disjoint block.addresses (covered rest) := by
        rw [Finset.disjoint_left]
        intro n hn hcovered
        rcases mem_covered.mp hcovered with ⟨other, hother, hmem⟩
        exact Finset.disjoint_left.mp (disjoint_addresses (hhead other hother)) hn hmem
      rw [covered, Finset.card_union_of_disjoint hdisjoint, block.card_addresses, ih htail,
        totalSize_cons]

/-- Blocks that keep apart are no larger together than blocks they lie in. -/
theorem totalSize_le_of_inside {blocks ranges : List Block}
    (hapart : blocks.Pairwise Block.Disjoint)
    (hinside : forall block, block ∈ blocks -> exists range, range ∈ ranges ∧ block ⊆ range) :
    totalSize blocks ≤ totalSize ranges := by
  have hsubset : covered blocks ⊆ covered ranges := by
    intro n hn
    rcases mem_covered.mp hn with ⟨block, hblock, hmem⟩
    rcases hinside block hblock with ⟨range, hrange, hin⟩
    have hends := Block.subset_iff.mp hin
    rw [Block.mem_addresses] at hmem
    exact mem_covered.mpr ⟨range, hrange, Block.mem_addresses.mpr (by omega)⟩
  calc
    totalSize blocks = (covered blocks).card := (card_covered hapart).symm
    _ ≤ (covered ranges).card := Finset.card_le_card hsubset
    _ ≤ totalSize ranges := card_covered_le ranges

/-!
# The counting bound
-/

/-- The number of addresses asked for. -/
def demand (requests : List SubnetRequest) : Nat :=
  (requests.map fun r => blockSize r.prefixLength).sum

theorem demand_cons (request : SubnetRequest) (rest : List SubnetRequest) :
    demand (request :: rest) = blockSize request.prefixLength + demand rest := by
  simp [demand]

theorem demand_append_singleton (requests : List SubnetRequest) (request : SubnetRequest) :
    demand (requests ++ [request]) = demand requests + blockSize request.prefixLength := by
  simp [demand]

/-- The number of addresses in ranges that a block of the given length could lie in. -/
def capacity (length : Nat) (ranges : List Block) : Nat :=
  totalSize (ranges.filter fun range => range.length ≤ length)

theorem capacity_cons (length : Nat) (range : Block) (rest : List Block) :
    capacity length (range :: rest) =
      (if range.length ≤ length then range.size else 0) + capacity length rest := by
  unfold capacity
  by_cases h : range.length ≤ length
  · rw [List.filter_cons_of_pos (by simpa using h), totalSize_cons, if_pos h]
  · rw [List.filter_cons_of_neg (by simpa using h), if_neg h, Nat.zero_add]

theorem demand_eq_totalSize {requests : List SubnetRequest} {blocks : List Block}
    (h : List.Forall₂ SubnetRequest.SizedBy requests blocks) :
    demand requests = totalSize blocks := by
  induction h with
  | nil =>
      rfl
  | cons hsized _hrest ih =>
      rw [demand_cons, totalSize_cons, ih, Block.size, hsized.left]

/-- Requests that can be packed ask for no more than there is in ranges of their size or larger. -/
theorem Packing.demand_le_capacity {ranges : List Block} {requests : List SubnetRequest}
    {blocks : List Block} (h : Packing ranges requests blocks) {length : Nat}
    (hlength : forall request, request ∈ requests -> request.prefixLength ≤ length) :
    demand requests ≤ capacity length ranges := by
  rw [demand_eq_totalSize h.sized]
  apply totalSize_le_of_inside h.apart
  intro block hblock
  rcases h.inside block hblock with ⟨range, hrange, hin⟩
  refine ⟨range, List.mem_filter.mpr ⟨hrange, decide_eq_true ?_⟩, hin⟩
  rcases exists_left_of_forall₂ h.sized hblock with ⟨request, hrequest, hsized⟩
  have hshort : block.length ≤ length := by
    rw [hsized.left]
    exact hlength request hrequest
  exact Nat.le_trans (Block.length_le_of_subset hin) hshort

end NetworkPlan
