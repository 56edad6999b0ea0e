import Mathlib
import NetworkPlan.Proofs.Subnet.FreeSpace

/-!
# The maximal free blocks

A block of a range is free when it meets no used block that lies in the range.  Two blocks that have
an address in common are nested, so the free blocks that lie in no larger one cut the free addresses
of the range up in one way only.  The free blocks that are reported are these, because every free
block lies in a reported one.
-/

namespace NetworkPlan

/-- A block without host bits inside a range that meets no used block of the range, while the block
of twice its size does meet one, unless the block is the whole range. -/
structure MaximalFree (range : Block) (used : List Block) (block : Block) : Prop where
  isNetwork : block.IsNetwork
  inside : block ⊆ range
  free : forall other, other ∈ used -> other ⊆ range -> block.Disjoint other
  maximal : block.length = range.length ∨
    exists other, other ∈ used ∧ other ⊆ range ∧ ¬ block.enclosing.Disjoint other

/-!
# Ascending order
-/

/-- Free blocks in the order of their addresses, none of which meets another one. -/
def Ascending (free : List FreeBlock) : Prop :=
  free.Pairwise fun f g => f.block.high < g.block.low

theorem Filling.ascending {range : Block} {start stop : Nat} {free : List FreeBlock}
    (h : Filling range stop start free) : Ascending free := by
  induction h with
  | done _ =>
      exact List.Pairwise.nil
  | next _ _ hrest ih =>
      apply List.pairwise_cons.mpr
      constructor
      · intro g hg
        rcases hrest.of_mem hg with ⟨_, _, hlow, _⟩
        exact hlow
      · exact ih

theorem low_of_mem_fillBetween {range : Block} {start : Nat} {used : List Block} {f : FreeBlock}
    (h : f ∈ fillBetween range start used) : start ≤ f.block.low := by
  have hspace := range.high_lt
  induction used generalizing start with
  | nil =>
      rcases (filling_fillGap range _ (by omega)).of_mem h with ⟨_, _, hlow, _⟩
      exact hlow
  | cons block rest ih =>
      have hstop := block.low_lt
      rw [fillBetween] at h
      rcases List.mem_append.mp h with hgap | hrest
      · rcases (filling_fillGap range _ (by omega)).of_mem hgap with ⟨_, _, hlow, _⟩
        exact hlow
      · exact Nat.le_trans (Nat.le_max_left _ _) (ih hrest)

theorem ascending_fillBetween (range : Block) (start : Nat) (used : List Block) :
    Ascending (fillBetween range start used) := by
  have hspace := range.high_lt
  induction used generalizing start with
  | nil =>
      exact (filling_fillGap range start (by omega)).ascending
  | cons block rest ih =>
      have hstop := block.low_lt
      have hends := block.low_le_high
      have hgap := filling_fillGap range start (Nat.le_of_lt hstop)
      apply List.pairwise_append.mpr
      refine ⟨hgap.ascending, ih _, ?_⟩
      -- The filling of the gap ends before the used block, and the rest begins behind it.
      intro f hf g hg
      rcases hgap.of_mem hf with ⟨_, _, _, hhigh⟩
      have hlow := low_of_mem_fillBetween hg
      omega

theorem ascending_freeIn (used : List Block) (range : Block) : Ascending (freeIn used range) :=
  ascending_fillBetween _ _ _

instance : Std.Symm Block.Disjoint :=
  ⟨fun _ _ h => h.symm⟩

/-- In ascending free blocks, an address is held by one block only. -/
theorem Ascending.block_eq_of_mem {free : List FreeBlock} (h : Ascending free) {f g : FreeBlock}
    (hf : f ∈ free) (hg : g ∈ free) {x : Address} (hxf : x ∈ f.block) (hxg : x ∈ g.block) :
    f.block = g.block := by
  have hapart : (free.map (·.block)).Pairwise Block.Disjoint :=
    List.pairwise_map.mpr (h.imp fun hlt => Block.disjoint_iff.mpr (Or.inl hlt))
  by_contra hne
  exact hapart.forall (List.mem_map_of_mem hf) (List.mem_map_of_mem hg) hne x hxf hxg

/-!
# Every free block lies in a reported one
-/

/-- The step lemma: a block that lies in the gap lies in one of the blocks that fill it. -/
theorem Filling.exists_subset {range : Block} {start stop : Nat} {free : List FreeBlock}
    (h : Filling range stop start free) {block : Block} (hlength : range.length ≤ block.length)
    (hlow : start ≤ block.low) (hhigh : block.high < stop) :
    exists f, f ∈ free ∧ block ⊆ f.block := by
  have hends := block.low_le_high
  induction h with
  | done hge =>
      omega
  | @next start first rest _ hwidest _ ih =>
      have hstart := hwidest.low_eq
      by_cases hbehind : first.high < block.low
      · rcases ih hbehind with ⟨f, hf, hinside⟩
        exact ⟨f, List.mem_cons_of_mem _ hf, hinside⟩
      · -- The block starts in the widest one, so one of the two lies in the other.
        have hmem : block.first ∈ first := by
          rw [Block.mem_iff]
          change first.low ≤ block.low ∧ block.low ≤ first.high
          omega
        refine ⟨⟨range, first⟩, List.mem_cons_self, ?_⟩
        apply Block.subset_of_mem _ block.first_mem hmem
        by_contra hlonger
        have hover : first ⊆ block :=
          Block.subset_of_mem (by omega) hmem block.first_mem
        have hfirst := Block.subset_iff.mp hover
        exact hlonger (hwidest.widest block hlength (by omega) hhigh)

/-- The run lemma: a block of the range that meets no used block lies in one of the gaps. -/
theorem exists_subset_fillBetween {range block : Block} {start : Nat} {used : List Block}
    (hlength : range.length ≤ block.length) (hlow : start ≤ block.low)
    (hhigh : block.high ≤ range.high)
    (hfree : forall other, other ∈ used -> block.Disjoint other) :
    exists f, f ∈ fillBetween range start used ∧ block ⊆ f.block := by
  have hspace := range.high_lt
  induction used generalizing start with
  | nil =>
      exact (filling_fillGap range start (by omega)).exists_subset hlength hlow (by omega)
  | cons other rest ih =>
      rcases List.forall_mem_cons.mp hfree with ⟨hother, hrest⟩
      rw [fillBetween]
      rcases Block.disjoint_iff.mp hother with hbefore | hbehind
      · have hgap := filling_fillGap range start (Nat.le_of_lt other.low_lt)
        rcases hgap.exists_subset hlength hlow hbefore with ⟨f, hf, hinside⟩
        exact ⟨f, List.mem_append_left _ hf, hinside⟩
      · rcases @ih (max start (other.high + 1)) (by omega) hrest with ⟨f, hf, hinside⟩
        exact ⟨f, List.mem_append_right _ hf, hinside⟩

theorem exists_subset_freeIn {range block : Block} {used : List Block} (hinside : block ⊆ range)
    (hfree : forall other, other ∈ used -> other ⊆ range -> block.Disjoint other) :
    exists f, f ∈ freeIn used range ∧ block ⊆ f.block := by
  have hends := Block.subset_iff.mp hinside
  apply exists_subset_fillBetween (Block.length_le_of_subset hinside) hends.left hends.right
  intro other hother
  rw [List.mem_mergeSort, List.mem_filter, Block.contains_iff_subset] at hother
  exact hfree other hother.left hother.right

/-!
# Reported and maximal free blocks
-/

/-- What is reported meets no used block of its range. -/
theorem disjoint_of_mem_freeIn {used : List Block}
    (hnetwork : forall block, block ∈ used -> block.IsNetwork) {range : Block} {f : FreeBlock}
    (hf : f ∈ freeIn used range) {other : Block} (hother : other ∈ used) (hinside : other ⊆ range) :
    f.block.Disjoint other := by
  intro x hx hmem
  have hcount : 0 < holding x (freeIn used range) :=
    List.countP_pos_iff.mpr ⟨f, hf, decide_eq_true hx⟩
  have hused : ¬ (x ∈ range ∧
      forall block, block ∈ used -> block ⊆ range -> ¬ x ∈ block) :=
    fun h => h.right other hother hinside hmem
  rw [holding_freeIn hnetwork, if_neg hused] at hcount
  exact Nat.lt_irrefl 0 hcount

theorem maximalFree_of_mem_freeIn {used : List Block}
    (hnetwork : forall block, block ∈ used -> block.IsNetwork) {range : Block} {f : FreeBlock}
    (hf : f ∈ freeIn used range) : MaximalFree range used f.block := by
  rcases mem_freeIn hf with ⟨_, hown, hinside⟩
  refine ⟨hown, hinside, fun other => disjoint_of_mem_freeIn hnetwork hf, ?_⟩
  by_contra hneither
  rw [not_or] at hneither
  rcases hneither with ⟨hshorter, hnone⟩
  have hlonger := Block.length_le_of_subset hinside
  have hlength := f.block.length_enclosing
  have hfirst : f.block.first ∈ f.block.enclosing := f.block.subset_enclosing _ f.block.first_mem
  -- A free block of twice the size would lie in a reported block, which could only be this one.
  have henclosing : f.block.enclosing ⊆ range :=
    Block.subset_of_mem (by omega) hfirst (hinside _ f.block.first_mem)
  have hfree : forall other, other ∈ used -> other ⊆ range ->
      f.block.enclosing.Disjoint other := by
    intro other hother hin
    by_contra hmeets
    exact hnone ⟨other, hother, hin, hmeets⟩
  rcases exists_subset_freeIn henclosing hfree with ⟨g, hg, hsubset⟩
  have hsame : f.block = g.block :=
    (ascending_freeIn used range).block_eq_of_mem hf hg f.block.first_mem (hsubset _ hfirst)
  rw [← hsame] at hsubset
  have hle := Block.length_le_of_subset hsubset
  omega

theorem mem_freeIn_of_maximalFree {used : List Block}
    (hnetwork : forall block, block ∈ used -> block.IsNetwork) {range block : Block}
    (h : MaximalFree range used block) : ⟨range, block⟩ ∈ freeIn used range := by
  rcases exists_subset_freeIn h.inside h.free with ⟨f, hf, hsubset⟩
  rcases mem_freeIn hf with ⟨hrange, hown, hinside⟩
  have hlength : block.length ≤ f.block.length := by
    by_contra hlonger
    have hrangeLength := Block.length_le_of_subset hinside
    rcases h.maximal with hwhole | ⟨other, hother, hin, hmeets⟩
    · omega
    · -- The block of twice the size lies in the reported one, which meets no used block.
      have hfirst := block.subset_enclosing _ block.first_mem
      have henclosing : block.enclosing ⊆ f.block :=
        Block.subset_of_mem (by rw [block.length_enclosing]; omega) hfirst
          (hsubset _ block.first_mem)
      apply hmeets
      intro x hx
      exact disjoint_of_mem_freeIn hnetwork hf hother hin x (henclosing x hx)
  have hsame : block = f.block := Block.eq_of_subset h.isNetwork hown hlength hsubset
  rw [hsame]
  cases hrange
  exact hf

theorem mem_freeIn_iff {used : List Block}
    (hnetwork : forall block, block ∈ used -> block.IsNetwork) {range block : Block} :
    block ∈ (freeIn used range).map (·.block) ↔ MaximalFree range used block := by
  constructor
  · intro h
    rcases List.mem_map.mp h with ⟨f, hf, rfl⟩
    exact maximalFree_of_mem_freeIn hnetwork hf
  · intro h
    exact List.mem_map.mpr ⟨_, mem_freeIn_of_maximalFree hnetwork h, rfl⟩

theorem map_mk_freeIn (used : List Block) (range : Block) :
    ((freeIn used range).map (·.block)).map (FreeBlock.mk range) = freeIn used range := by
  rw [List.map_map]
  calc
    (freeIn used range).map (FreeBlock.mk range ∘ (·.block)) = (freeIn used range).map id := by
      apply List.map_congr_left
      intro f hf
      rw [Function.comp_apply, ← (mem_freeIn hf).left]
      rfl
    _ = freeIn used range := List.map_id _

/-- The free blocks of every range, in the order of the ranges, are its maximal free blocks in the
order of their addresses; each gap is filled in finitely many steps up to the end of the address
space. -/
theorem freeBlocks_maximal {ranges used : List Block}
    (hnetwork : forall block, block ∈ used -> block.IsNetwork) :
    (exists listed : Block -> List Block,
      freeBlocks ranges used =
        ranges.flatMap (fun range => (listed range).map (FreeBlock.mk range)) ∧
      forall range, range ∈ ranges ->
        (listed range).Pairwise (fun a b => a.address.value < b.address.value) ∧
        forall block, block ∈ listed range ↔ MaximalFree range used block) ∧
    (forall (range : Block) (start stop : Nat), stop ≤ 4294967296 ->
      Filling range stop start (fillGap range start stop)) := by
  refine ⟨⟨fun range => (freeIn used range).map (·.block), ?_, ?_⟩, ?_⟩
  · rw [freeBlocks]
    exact congrArg ranges.flatMap (funext fun range => (map_mk_freeIn used range).symm)
  · intro range _
    refine ⟨?_, fun block => mem_freeIn_iff hnetwork⟩
    apply List.pairwise_map.mpr
    apply (ascending_freeIn used range).imp_of_mem
    intro f g hf hg hlt
    have hends := f.block.low_le_high
    rw [Block.isNetwork_iff.mp (mem_freeIn hf).right.left,
      Block.isNetwork_iff.mp (mem_freeIn hg).right.left]
    omega
  · intro range start stop hstop
    exact filling_fillGap range start hstop

/-- A range that nothing uses, and the last range of the address space.  Of the blocks used there
one is listed twice and one lies inside another; the last one holds the whole range. -/
theorem freeBlocks_maximal_at_end_of_space :
    let first : Block := ⟨.ofOctets 10 0 0 9, 29, by decide⟩
    let last : Block := ⟨.ofOctets 255 255 255 255, 28, by decide⟩
    let used : List Block := [⟨.ofOctets 255 255 255 248, 30, by decide⟩,
      ⟨.ofOctets 255 255 255 240, 30, by decide⟩, ⟨.ofOctets 255 255 255 248, 31, by decide⟩,
      ⟨.ofOctets 255 255 255 240, 30, by decide⟩, ⟨.ofOctets 255 255 255 0, 24, by decide⟩]
    let reported : List FreeBlock := [⟨first, ⟨.ofOctets 10 0 0 8, 29, by decide⟩⟩,
      ⟨last, ⟨.ofOctets 255 255 255 244, 30, by decide⟩⟩,
      ⟨last, ⟨.ofOctets 255 255 255 252, 30, by decide⟩⟩]
    (forall block, block ∈ used -> block.IsNetwork) ∧ freeBlocks [first, last] used = reported ∧
      forall block, MaximalFree last used block ↔ ⟨last, block⟩ ∈ reported := by
  intro first last used reported
  have hnetwork : forall block, block ∈ used -> block.IsNetwork := by
    decide
  have hreported : freeBlocks [first, last] used = reported := by
    cbv
  refine ⟨hnetwork, hreported, ?_⟩
  rcases (@freeBlocks_maximal [first, last] used hnetwork).left with ⟨listed, hlisted, hmaximal⟩
  intro block
  rw [← (hmaximal last (List.mem_cons_of_mem first List.mem_cons_self)).right block, ← hreported,
    hlisted]
  simp [first, last]

end NetworkPlan
