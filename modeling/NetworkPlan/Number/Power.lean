/-!
# Powers

Powers of two, which are the sizes of blocks and the weights of binary digits, and powers of ten.
-/

namespace NetworkPlan

/-- The power of two with a given exponent. -/
def twoTo (exponent : Nat) : Nat :=
  Nat.pow 2 exponent

/-- The power of ten with a given exponent. -/
def tenTo (exponent : Nat) : Nat :=
  Nat.pow 10 exponent

@[simp] theorem twoTo_zero : twoTo 0 = 1 := rfl

theorem twoTo_succ (n : Nat) : twoTo (n + 1) = twoTo n * 2 := rfl

theorem twoTo_pos (n : Nat) : 0 < twoTo n := by
  induction n with
  | zero => exact Nat.one_pos
  | succ n ih =>
      rw [twoTo_succ]
      omega

theorem twoTo_add (m n : Nat) : twoTo (m + n) = twoTo m * twoTo n := by
  induction n with
  | zero => simp
  | succ n ih => rw [← Nat.add_assoc, twoTo_succ, twoTo_succ, ih, Nat.mul_assoc]

end NetworkPlan
