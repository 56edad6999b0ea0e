import Mathlib.Data.List.Count
import NetworkPlan.Proofs.Address.Alignment
import NetworkPlan.Subnet.FreeSpace

/-!
# Free space

A gap is cut into blocks that follow each other without overlap, so every address of it lies in
exactly one of them.  Between used blocks in ascending order this gives every address of the range
that no used block holds, once; the used blocks may repeat, nest or meet.
-/

namespace NetworkPlan

/-!
# The widest block at an address
-/

theorem widestExponent_le (start stop bound : Nat) : widestExponent start stop bound ≤ bound := by
  induction bound with
  | zero =>
      exact Nat.le_refl _
  | succ bound ih =>
      unfold widestExponent
      split <;> omega

theorem add_twoTo_widestExponent_le {start stop : Nat} (h : start < stop) (bound : Nat) :
    start + twoTo (widestExponent start stop bound) ≤ stop := by
  induction bound with
  | zero =>
      exact h
  | succ bound ih =>
      unfold widestExponent
      by_cases hfits : start + twoTo (bound + 1) ≤ stop
      · rw [if_pos hfits]
        exact hfits
      · rw [if_neg hfits]
        exact ih

theorem widestLength_le (start least stop : Nat) : widestLength start least stop ≤ 32 :=
  Nat.sub_le _ _

theorem blockSize_widestLength (start least stop : Nat) :
    blockSize (widestLength start least stop) =
      twoTo (widestExponent start stop (32 - max least (Address.ofNat start).alignment)) := by
  have hbound :=
    widestExponent_le start stop (32 - max least (Address.ofNat start).alignment)
  unfold blockSize widestLength
  congr 1
  omega

/-- The widest block at an address starts on a multiple of its size. -/
theorem blockSize_widestLength_dvd {start : Nat} (hstart : start < 4294967296)
    (least stop : Nat) : blockSize (widestLength start least stop) ∣ start := by
  have hbound :=
    widestExponent_le start stop (32 - max least (Address.ofNat start).alignment)
  have haligned : (Address.ofNat start).alignment ≤ widestLength start least stop := by
    have hle : (Address.ofNat start).alignment ≤ 32 := Nat.sub_le _ _
    unfold widestLength
    omega
  rw [Address.alignment_le_iff (widestLength_le start least stop),
    Address.value_ofNat_of_lt hstart] at haligned
  exact haligned

theorem add_blockSize_widestLength_le {start stop : Nat} (h : start < stop) (least : Nat) :
    start + blockSize (widestLength start least stop) ≤ stop := by
  rw [blockSize_widestLength]
  exact add_twoTo_widestExponent_le h _

theorem le_widestExponent {start stop exponent bound : Nat} (hle : exponent ≤ bound)
    (hfits : start + twoTo exponent ≤ stop) : exponent ≤ widestExponent start stop bound := by
  induction bound with
  | zero =>
      exact hle
  | succ bound ih =>
      unfold widestExponent
      by_cases hwhole : start + twoTo (bound + 1) ≤ stop
      · rw [if_pos hwhole]
        exact hle
      · have hne : exponent ≠ bound + 1 := by
          rintro rfl
          exact hwhole hfits
        rw [if_neg hwhole]
        exact ih (by omega)

/-- No wider block starts at the address, is aligned and fits. -/
theorem widestLength_le_of_fits {start least stop length : Nat} (hstart : start < 4294967296)
    (hlength : length ≤ 32) (hleast : least ≤ length) (hdvd : blockSize length ∣ start)
    (hfits : start + blockSize length ≤ stop) : widestLength start least stop ≤ length := by
  have haligned : (Address.ofNat start).alignment ≤ length := by
    rw [Address.alignment_le_iff hlength, Address.value_ofNat_of_lt hstart]
    exact hdvd
  have hexponent : 32 - length ≤
      widestExponent start stop (32 - max least (Address.ofNat start).alignment) :=
    le_widestExponent (by omega) hfits
  unfold widestLength
  omega

/-- The largest block without host bits that starts at an address, ends before another one and is
no larger than the range. -/
structure Widest (range : Block) (start stop : Nat) (block : Block) : Prop where
  isNetwork : block.IsNetwork
  low_eq : block.low = start
  high_lt : block.high < stop
  widest : forall other : Block, range.length ≤ other.length -> other.low = start ->
    other.high < stop -> block.length ≤ other.length

theorem widest_ofNetwork (range : Block) {start stop : Nat} (hlt : start < stop)
    (hstop : stop ≤ 4294967296) :
    Widest range start stop (Block.ofNetwork start (widestLength start range.length stop)) := by
  have hstart : start < 4294967296 := Nat.lt_of_lt_of_le hlt hstop
  have hlength := widestLength_le start range.length stop
  have hdvd := blockSize_widestLength_dvd hstart range.length stop
  have hend := add_blockSize_widestLength_le hlt range.length
  have hhigh := Block.high_ofNetwork hlength hstart hdvd
  refine ⟨Block.isNetwork_ofNetwork hlength hstart hdvd, Block.low_ofNetwork hlength hstart hdvd,
    by omega, ?_⟩
  intro other hother hlow hfits
  rw [Block.length_ofNetwork hlength]
  have hotherEnd := other.high_add_one
  apply widestLength_le_of_fits hstart other.length_le hother
  · rw [← hlow]
    exact other.size_dvd_low
  · rw [← hlow]
    change other.low + other.size ≤ stop
    omega

/-!
# One gap
-/

/-- Blocks fill a gap of a range from its low end on: each is the widest one at its place, and the
next one starts just behind it. -/
inductive Filling (range : Block) (stop : Nat) : Nat -> List FreeBlock -> Prop where
  | done {start : Nat} : stop ≤ start -> Filling range stop start []
  | next {start : Nat} {block : Block} {rest : List FreeBlock} :
      start < stop -> Widest range start stop block -> Filling range stop (block.high + 1) rest ->
      Filling range stop start (⟨range, block⟩ :: rest)

theorem filling_fillGap (range : Block) (start : Nat) {stop : Nat} (hstop : stop ≤ 4294967296) :
    Filling range stop start (fillGap range start stop) := by
  fun_induction fillGap range start stop with
  | case1 start hlt length ih =>
      have hwidest : Widest range start stop (Block.ofNetwork start length) :=
        widest_ofNetwork range hlt hstop
      have hnext : (Block.ofNetwork start length).high + 1 = start + blockSize length := by
        rw [Block.high_add_one, hwidest.low_eq, Block.size,
          Block.length_ofNetwork (widestLength_le start range.length stop)]
      rw [← hnext] at ih ⊢
      exact Filling.next hlt hwidest ih
  | case2 start hge =>
      exact Filling.done (by omega)

/-- How many of the free blocks hold an address. -/
def holding (x : Address) (free : List FreeBlock) : Nat :=
  free.countP fun f => x ∈ f.block

theorem holding_append (x : Address) (first second : List FreeBlock) :
    holding x (first ++ second) = holding x first + holding x second :=
  List.countP_append

theorem holding_cons (x : Address) (f : FreeBlock) (rest : List FreeBlock) :
    holding x (f :: rest) = holding x rest + if x ∈ f.block then 1 else 0 := by
  rw [holding, List.countP_cons, ← holding]
  simp only [decide_eq_true_eq]

/-- An address lies in one block of the gap's filling when it lies in the gap, else in none. -/
theorem Filling.holding_eq {range : Block} {start stop : Nat} {free : List FreeBlock}
    (h : Filling range stop start free) (x : Address) :
    holding x free = if start ≤ x.value ∧ x.value < stop then 1 else 0 := by
  induction h with
  | done hge =>
      rw [if_neg (by omega)]
      rfl
  | @next start block rest hlt hwidest _ ih =>
      have hlow := hwidest.low_eq
      have hends := block.low_le_high
      have hhigh := hwidest.high_lt
      rw [holding_cons, ih]
      simp only [Block.mem_iff]
      split_ifs <;> omega

/-- What fills a gap belongs to its range, is aligned and does not leave the gap. -/
theorem Filling.of_mem {range : Block} {start stop : Nat} {free : List FreeBlock}
    (h : Filling range stop start free) {f : FreeBlock} (hf : f ∈ free) :
    f.range = range ∧ f.block.IsNetwork ∧ start ≤ f.block.low ∧ f.block.high < stop := by
  induction h with
  | done hge =>
      cases hf
  | @next start block rest hlt hwidest _ ih =>
      have hlow := hwidest.low_eq
      have hends := block.low_le_high
      rcases List.mem_cons.mp hf with rfl | hrest
      · exact ⟨rfl, hwidest.isNetwork, Nat.le_of_eq hlow.symm, hwidest.high_lt⟩
      · rcases ih hrest with ⟨hrange, hnetwork, hstart, hstop⟩
        exact ⟨hrange, hnetwork, by omega, hstop⟩

/-!
# One range
-/

/-- Between used blocks that end inside the range and start in ascending order, an address from
`start` on lies in one free block when no used block holds it, else in none. -/
theorem holding_fillBetween {range : Block} {start : Nat} {used : List Block}
    (hascending : used.Pairwise fun a b => a.low ≤ b.low)
    (hinside : forall block, block ∈ used -> block.high ≤ range.high) (x : Address) :
    holding x (fillBetween range start used) =
      if (start ≤ x.value ∧ x.value ≤ range.high) ∧ forall block, block ∈ used -> ¬ x ∈ block
      then 1 else 0 := by
  have hspace := range.high_lt
  induction used generalizing start with
  | nil =>
      rw [fillBetween, (filling_fillGap range _ (by omega)).holding_eq x]
      simp only [Nat.lt_succ_iff, List.not_mem_nil, false_imp_iff, implies_true, and_true]
  | cons block rest ih =>
      rcases List.pairwise_cons.mp hascending with ⟨hhead, htail⟩
      have hlow := block.low_lt
      have hends := block.low_le_high
      have hlast := hinside block List.mem_cons_self
      have hrest := @ih (max start (block.high + 1)) htail
        (fun other hother => hinside other (List.mem_cons_of_mem block hother))
      rw [fillBetween, holding_append, (filling_fillGap range _ (by omega)).holding_eq x, hrest]
      simp only [List.forall_mem_cons, Block.mem_iff]
      by_cases hbefore : x.value < block.low
      · -- The address lies before this block, and so before all the later ones.
        have hlater : forall other, other ∈ rest ->
            ¬ (other.low ≤ x.value ∧ x.value ≤ other.high) := by
          intro other hother hmem
          have hle := hhead other hother
          omega
        by_cases hstart : start ≤ x.value
        · rw [if_pos ⟨hstart, hbefore⟩, if_neg (by omega),
            if_pos ⟨⟨hstart, by omega⟩, by omega, hlater⟩]
        · rw [if_neg (by omega), if_neg (by omega), if_neg (by omega)]
      · rw [if_neg (by omega), Nat.zero_add]
        apply if_congr _ rfl rfl
        constructor
        · intro h
          exact ⟨⟨by omega, h.left.right⟩, by omega, h.right⟩
        · intro h
          exact ⟨⟨by omega, h.left.right⟩, h.right.right⟩

theorem mem_fillBetween {range : Block} {start : Nat} {used : List Block}
    (hstart : range.low ≤ start)
    (hinside : forall block, block ∈ used -> block.high ≤ range.high)
    {f : FreeBlock} (h : f ∈ fillBetween range start used) :
    f.range = range ∧ f.block.IsNetwork ∧ f.block ⊆ range := by
  have hspace := range.high_lt
  induction used generalizing start with
  | nil =>
      rcases (filling_fillGap range _ (by omega)).of_mem h with ⟨hrange, hnetwork, hlow, hhigh⟩
      exact ⟨hrange, hnetwork, Block.subset_iff.mpr (And.intro (by omega) (by omega))⟩
  | cons block rest ih =>
      have hlast := hinside block List.mem_cons_self
      have hends := block.low_le_high
      rw [fillBetween] at h
      rcases List.mem_append.mp h with hgap | hrest
      · rcases (filling_fillGap range _ (by omega)).of_mem hgap with ⟨hrange, hnetwork, hlow, hhigh⟩
        exact ⟨hrange, hnetwork, Block.subset_iff.mpr (And.intro (by omega) (by omega))⟩
      · have hnext : range.low ≤ max start (block.high + 1) := by omega
        exact ih hnext
          (fun other hother => hinside other (List.mem_cons_of_mem block hother)) hrest

/-- Blocks without host bits are sorted by their lowest addresses. -/
theorem low_ascending {used : List Block}
    (hnetwork : forall block, block ∈ used -> block.IsNetwork) :
    (used.mergeSort Block.precedes).Pairwise fun a b => a.low ≤ b.low := by
  have hsorted := List.pairwise_mergeSort Block.precedes_trans Block.precedes_total used
  apply hsorted.imp_of_mem
  intro a b ha hb hprecedes
  have haddress : a.address.value ≤ b.address.value := by
    have hcases := Block.precedes_iff.mp hprecedes
    omega
  rw [Block.isNetwork_iff.mp (hnetwork a (List.mem_mergeSort.mp ha)),
    Block.isNetwork_iff.mp (hnetwork b (List.mem_mergeSort.mp hb))] at haddress
  exact haddress

/-- An address of a range lies in one free block of it when no used block inside the range holds
it; every other address lies in none. -/
theorem holding_freeIn {used : List Block}
    (hnetwork : forall block, block ∈ used -> block.IsNetwork) (range : Block) (x : Address) :
    holding x (freeIn used range) =
      if x ∈ range ∧ forall block, block ∈ used -> block ⊆ range -> ¬ x ∈ block then 1 else 0 := by
  have hkept : forall block, block ∈ (used.filter range.contains).mergeSort Block.precedes ↔
      block ∈ used ∧ block ⊆ range := by
    intro block
    rw [List.mem_mergeSort, List.mem_filter, Block.contains_iff_subset]
  have hinside : forall block, block ∈ used.filter range.contains -> block.IsNetwork :=
    fun block hblock => hnetwork block (List.mem_filter.mp hblock).left
  have hascending := low_ascending hinside
  rw [freeIn, holding_fillBetween hascending]
  · simp only [Block.mem_iff, hkept, and_imp]
  · intro block hblock
    exact (Block.subset_iff.mp ((hkept block).mp hblock).right).right

theorem mem_freeIn {used : List Block} {range : Block} {f : FreeBlock}
    (h : f ∈ freeIn used range) : f.range = range ∧ f.block.IsNetwork ∧ f.block ⊆ range := by
  apply mem_fillBetween (Nat.le_refl _) _ h
  intro block hblock
  rw [List.mem_mergeSort, List.mem_filter, Block.contains_iff_subset, Block.subset_iff] at hblock
  exact hblock.right.right

/-!
# All ranges
-/

theorem mem_freeBlocks {ranges used : List Block} {f : FreeBlock}
    (h : f ∈ freeBlocks ranges used) :
    f.range ∈ ranges ∧ f.block.IsNetwork ∧ f.block ⊆ f.range := by
  rcases List.mem_flatMap.mp h with ⟨range, hrange, hf⟩
  rcases mem_freeIn hf with ⟨rfl, hnetwork, hinside⟩
  exact ⟨hrange, hnetwork, hinside⟩

theorem holding_freeBlocks_cons (x : Address) (range : Block) (rest used : List Block) :
    holding x (freeBlocks (range :: rest) used) =
      holding x (freeIn used range) + holding x (freeBlocks rest used) := by
  rw [freeBlocks, List.flatMap_cons, holding_append]
  rfl

theorem holding_freeBlocks_of_outside {ranges used : List Block}
    {x : Address} (houtside : forall range, range ∈ ranges -> ¬ x ∈ range) :
    holding x (freeBlocks ranges used) = 0 := by
  apply List.countP_eq_zero.mpr
  intro f hf
  rcases mem_freeBlocks hf with ⟨hrange, _hnetwork, hinside⟩
  intro hx
  exact houtside f.range hrange (hinside x (of_decide_eq_true hx))

/-- Over ranges that keep apart, an address of a range lies in one free block when no used block
holds it, else in none. -/
theorem holding_freeBlocks {ranges used : List Block} (hapart : ranges.Pairwise Block.Disjoint)
    (hnetwork : forall block, block ∈ used -> block.IsNetwork)
    (hinside : forall block, block ∈ used -> exists range, range ∈ ranges ∧ block ⊆ range)
    {x : Address} {range : Block} (hrange : range ∈ ranges) (hx : x ∈ range) :
    holding x (freeBlocks ranges used) =
      if forall block, block ∈ used -> ¬ x ∈ block then 1 else 0 := by
  rcases List.append_of_mem hrange with ⟨before, after, rfl⟩
  rcases List.pairwise_append.mp hapart with ⟨_hbefore, hafter, hacross⟩
  -- The other ranges do not hold the address, so only this one's free blocks can.
  have hbeforeOut : forall other, other ∈ before -> ¬ x ∈ other := by
    intro other hother hmem
    exact hacross other hother range List.mem_cons_self x hmem hx
  have hafterOut : forall other, other ∈ after -> ¬ x ∈ other := by
    intro other hother
    exact (List.pairwise_cons.mp hafter).left other hother x hx
  have hown : forall block, block ∈ used -> x ∈ block -> block ⊆ range := by
    intro block hblock hmem
    rcases hinside block hblock with ⟨other, hother, hin⟩
    rcases List.mem_append.mp hother with hother | hother
    · exact absurd (hin x hmem) (hbeforeOut other hother)
    · rcases List.mem_cons.mp hother with rfl | hother
      · exact hin
      · exact absurd (hin x hmem) (hafterOut other hother)
  have hsplit : holding x (freeBlocks (before ++ range :: after) used) =
      holding x (freeBlocks before used) + holding x (freeBlocks (range :: after) used) := by
    rw [freeBlocks, List.flatMap_append, holding_append]
    rfl
  rw [hsplit, holding_freeBlocks_cons, holding_freeBlocks_of_outside hbeforeOut,
    holding_freeBlocks_of_outside hafterOut, holding_freeIn hnetwork, Nat.zero_add, Nat.add_zero]
  apply if_congr _ rfl rfl
  constructor
  · intro h block hblock hmem
    exact h.right block hblock (hown block hblock hmem) hmem
  · intro h
    exact And.intro hx fun block hblock _hin => h block hblock

end NetworkPlan
