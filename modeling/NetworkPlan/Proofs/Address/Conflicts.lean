import Mathlib.Data.Prod.Lex
import NetworkPlan.Proofs.Address.Extent
import NetworkPlan.Proofs.Positions

/-!
# Conflicts

Two blocks are in conflict if some address belongs to both.  The conflicts of a list are found in
the order of the positions of the two blocks, the earlier block first.
-/

namespace NetworkPlan
namespace Block

/-- Some address belongs to both blocks. -/
def Meets (a b : Block) : Prop :=
  exists x : Address, x ∈ a ∧ x ∈ b

theorem meets_iff_overlaps {a b : Block} : a.Meets b ↔ a.overlaps b = true := by
  rw [← not_iff_not, Bool.not_eq_true, overlaps_eq_false_iff]
  simp only [Meets, Disjoint, not_exists, not_and]

instance (a b : Block) : Decidable (a.Meets b) :=
  decidable_of_iff _ meets_iff_overlaps.symm

/-- Two blocks stand at two positions of a list. -/
def StandAt (blocks : List Block) (places : Nat × Nat) (pair : Block × Block) : Prop :=
  blocks[places.1]? = some pair.1 ∧ blocks[places.2]? = some pair.2

/-- Two positions of a list, the earlier one first, have blocks with an address in common. -/
def InConflict (blocks : List Block) (places : Nat × Nat) : Prop :=
  places.1 < places.2 ∧ exists pair, StandAt blocks places pair ∧ pair.1.Meets pair.2

/-- A conflict of a list concerns its first block, or it is one of the list behind it. -/
theorem inConflict_cons {block : Block} {rest : List Block} {places : Nat × Nat} :
    InConflict (block :: rest) places ↔
      (exists j, (exists b, rest[j]? = some b ∧ block.overlaps b = true) ∧ (0, j + 1) = places) ∨
        exists later, InConflict rest later ∧ (later.1 + 1, later.2 + 1) = places := by
  rcases places with ⟨i, j⟩
  cases i with
  | zero =>
      cases j with
      | zero => simp [InConflict]
      | succ j => simp [InConflict, StandAt, meets_iff_overlaps]
  | succ i =>
      cases j with
      | zero => simp [InConflict]
      | succ j => simp [InConflict, StandAt]

theorem lex_succ {p q : Nat × Nat} (h : Prod.Lex (· < ·) (· < ·) p q) :
    Prod.Lex (· < ·) (· < ·) (p.1 + 1, p.2 + 1) (q.1 + 1, q.2 + 1) := by
  cases h with
  | left _ _ h => exact Prod.Lex.left _ _ (Nat.succ_lt_succ h)
  | right _ h => exact Prod.Lex.right _ (Nat.succ_lt_succ h)

/-- The conflicts that are found are those at all pairs of positions that are in conflict, ordered
by the first position and then by the second. -/
theorem conflicts_positions (blocks : List Block) :
    exists places, Enumerates (Prod.Lex (· < ·) (· < ·)) (InConflict blocks) places ∧
      List.Forall₂ (StandAt blocks) places (conflicts blocks) := by
  induction blocks with
  | nil =>
      refine ⟨[], Enumerates.nil ?_, List.Forall₂.nil⟩
      intro places h
      rcases h with ⟨_, pair, hpair, _⟩
      cases hpair.left
  | cons block rest ih =>
      rcases ih with ⟨later, hlater, hpairs⟩
      rcases exists_positions_filter block.overlaps rest with ⟨others, hothers, hblocks⟩
      -- The first block stands at position zero; every other position moves on by one.
      have hfirst := hothers.map (Prod.Lex (· < ·) (· < ·)) (fun j => (0, j + 1))
        fun _ _ h => Prod.Lex.right 0 (Nat.succ_lt_succ h)
      have hrest := hlater.map (Prod.Lex (· < ·) (· < ·)) (fun p => (p.1 + 1, p.2 + 1))
        fun _ _ h => lex_succ h
      refine ⟨_, (hfirst.append hrest ?_).congr fun places => inConflict_cons.symm, ?_⟩
      · intro p q hp hq
        rcases hp with ⟨j, _, rfl⟩
        rcases hq with ⟨p, _, rfl⟩
        exact Prod.Lex.left _ _ (Nat.succ_pos p.1)
      · rw [conflicts]
        refine List.rel_append ?_ ?_
        · rw [List.forall₂_map_left_iff, List.forall₂_map_right_iff]
          exact hblocks.imp fun j b hb => ⟨rfl, hb⟩
        · rw [List.forall₂_map_left_iff]
          exact hpairs

end Block
end NetworkPlan
