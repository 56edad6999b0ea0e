import Mathlib.Data.Nat.Bitwise
import NetworkPlan.Proofs.Address.Conflicts

/-!
# Blocks are nested or disjoint

The addresses of a block are those that begin with its prefix.  Of two blocks that have one of them
in common, the block with the shorter prefix holds all addresses of the other one, so blocks
overlap exactly if one of them contains the other.
-/

namespace NetworkPlan
namespace Block

/-!
## Prefixes
-/

/-- An address has the bits of the block's address in front, as many as the prefix is long. -/
def HasPrefix (b : Block) (x : Address) : Prop :=
  forall i, 32 - b.length ≤ i -> x.value.testBit i = b.address.value.testBit i

theorem div_two_pow_eq_iff {m n k : Nat} :
    m / 2 ^ k = n / 2 ^ k ↔ forall i, k ≤ i -> m.testBit i = n.testBit i := by
  constructor
  · intro h i hi
    have hbit := congrArg (fun q => q.testBit (i - k)) h
    simpa only [Nat.testBit_div_two_pow, Nat.sub_add_cancel hi] using hbit
  · intro h
    apply Nat.eq_of_testBit_eq
    intro i
    rw [Nat.testBit_div_two_pow, Nat.testBit_div_two_pow]
    exact h (i + k) (Nat.le_add_left k i)

theorem mem_iff_div_eq {b : Block} {x : Address} :
    x ∈ b ↔ x.value / b.size = b.address.value / b.size := by
  have hpos := b.size_pos
  rw [Nat.div_eq_iff hpos, mem_iff, high, low]
  omega

theorem mem_iff_hasPrefix {b : Block} {x : Address} : x ∈ b ↔ b.HasPrefix x := by
  rw [mem_iff_div_eq]
  exact div_two_pow_eq_iff

/-!
## Nesting
-/

theorem subset_or_subset_of_meets {a b : Block} (h : a.Meets b) : a ⊆ b ∨ b ⊆ a := by
  rcases h with ⟨x, ha, hb⟩
  cases Nat.le_total a.length b.length with
  | inl hlength =>
      exact Or.inr (subset_of_mem hlength hb ha)
  | inr hlength =>
      exact Or.inl (subset_of_mem hlength ha hb)

theorem meets_of_subset {a b : Block} (h : a ⊆ b) : a.Meets b :=
  ⟨a.first, a.first_mem, h a.first a.first_mem⟩

theorem Meets.symm {a b : Block} (h : a.Meets b) : b.Meets a := by
  rcases h with ⟨x, ha, hb⟩
  exact ⟨x, hb, ha⟩

/-- One of two blocks contains the other one. -/
def Nested (a b : Block) : Prop :=
  a.contains b = true ∨ b.contains a = true

theorem meets_iff_nested {a b : Block} : a.Meets b ↔ a.Nested b := by
  rw [Nested, contains_iff_subset, contains_iff_subset]
  constructor
  · intro h
    exact (subset_or_subset_of_meets h).symm
  · rintro (h | h)
    · exact (meets_of_subset h).symm
    · exact meets_of_subset h

/-- The blocks at two positions of a list, the earlier one first, are nested. -/
def NestedAt (blocks : List Block) (places : Nat × Nat) : Prop :=
  places.1 < places.2 ∧ exists pair, StandAt blocks places pair ∧ pair.1.Nested pair.2

end Block

/-- Blocks are compared as sets of addresses: `contains` is inclusion, `overlaps` is having an
address in common, and two blocks are either nested or disjoint.  The conflicts of a list are thus
its pairs of nested blocks, in the order of their positions. -/
theorem blocks_compared_as_sets :
    (forall a b : Block,
      (forall x : Address, x ∈ a ↔ a.HasPrefix x) ∧
      (a.contains b = true ↔ forall x : Address, x ∈ b -> x ∈ a) ∧
      (a.overlaps b = true ↔ exists x : Address, x ∈ a ∧ x ∈ b) ∧
      (a.overlaps b = true ↔ a.contains b = true ∨ b.contains a = true) ∧
      (a.Disjoint b ↔ ¬ (a.contains b = true ∨ b.contains a = true))) ∧
    forall blocks : List Block, exists places,
      Enumerates (Prod.Lex (· < ·) (· < ·)) (Block.NestedAt blocks) places ∧
        List.Forall₂ (Block.StandAt blocks) places (Block.conflicts blocks) := by
  constructor
  · intro a b
    have hnested := Block.meets_iff_overlaps.symm.trans (Block.meets_iff_nested (a := a) (b := b))
    refine ⟨fun x => Block.mem_iff_hasPrefix, Block.contains_iff_subset,
      Block.meets_iff_overlaps.symm, hnested, ?_⟩
    rw [← Block.overlaps_eq_false_iff, ← Bool.not_eq_true, not_congr hnested, Block.Nested]
  · intro blocks
    rcases Block.conflicts_positions blocks with ⟨places, hplaces, hpairs⟩
    refine ⟨places, hplaces.congr fun _ => ?_, hpairs⟩
    simp only [Block.InConflict, Block.NestedAt, Block.meets_iff_nested]

/-- Bits behind the prefix do not count, and the same block twice is nested both ways. -/
theorem blocks_compared_with_host_bits :
    let a : Block := ⟨.ofOctets 10 0 7 9, 16, by decide⟩
    let b : Block := ⟨.ofOctets 10 0 6 1, 23, by decide⟩
    a.contains b = true ∧ (forall x : Address, x ∈ b -> x ∈ a) ∧ a.overlaps b = true ∧
    Block.conflicts [a, b, ⟨.ofOctets 10 1 0 0, 16, by decide⟩, a] = [(a, b), (a, a), (b, a)] := by
  intro a b
  have hcontains : a.contains b = true := by decide
  rcases blocks_compared_as_sets.left a b with ⟨_, hinside, _, hnested, _⟩
  exact ⟨hcontains, hinside.mp hcontains, hnested.mpr (Or.inl hcontains), by decide⟩

end NetworkPlan
