import NetworkPlan.Proofs.Address.Extent

/-!
# Alignment

The alignment of an address is the shortest prefix length for which it is a network address: a
block of some length can start at an address exactly when the length is no shorter.  Rounding an
address down to the start of a block is the same as masking its host bits, so those are also the
lengths whose masks leave the address as it is.
-/

namespace NetworkPlan
namespace Address

theorem trailingZeros_le (bits n : Nat) : trailingZeros bits n ≤ bits := by
  induction bits generalizing n with
  | zero =>
      exact Nat.le_refl _
  | succ bits ih =>
      have hrest := ih (n / 2)
      unfold trailingZeros
      split <;> omega

/-- The powers of two up to a bound that divide a number are those up to its trailing zeros. -/
theorem twoTo_dvd_iff {bits k : Nat} (hk : k ≤ bits) (n : Nat) :
    twoTo k ∣ n ↔ k ≤ trailingZeros bits n := by
  induction bits generalizing k n with
  | zero =>
      have hzero : k = 0 := by
        omega
      subst hzero
      simp [trailingZeros]
  | succ bits ih =>
      cases k with
      | zero =>
          simp
      | succ k =>
          rw [trailingZeros, twoTo_succ]
          by_cases hodd : n % 2 = 1
          · rw [if_pos hodd]
            constructor
            · intro h
              have htwo : 2 ∣ n := Nat.dvd_trans (Nat.dvd_mul_left 2 (twoTo k)) h
              omega
            · intro h
              omega
          · rw [if_neg hodd]
            have heven : n = n / 2 * 2 := by
              omega
            have hhalf : twoTo k * 2 ∣ n ↔ twoTo k ∣ n / 2 := by
              constructor
              · intro h
                rw [heven] at h
                exact Nat.dvd_of_mul_dvd_mul_right (by omega) h
              · intro h
                rw [heven]
                exact Nat.mul_dvd_mul_right h 2
            rw [hhalf, ih (by omega) (n / 2)]
            omega

theorem alignment_le_iff {length : Nat} (hlength : length ≤ 32) (a : Address) :
    a.alignment ≤ length ↔ blockSize length ∣ a.value := by
  have hzeros := trailingZeros_le 32 a.value
  rw [blockSize, twoTo_dvd_iff (Nat.sub_le 32 length), alignment]
  omega

end Address

/-!
# Masks
-/

/-- The address whose first binary digits, as many as a prefix is long, are ones. -/
def maskBits (length : Nat) : Nat :=
  4294967295 >>> (32 - length) <<< (32 - length)

theorem shiftRight_and_shiftLeft (n m k : Nat) : (n >>> k &&& m) <<< k = n &&& m <<< k := by
  apply Nat.eq_of_testBit_eq
  intro i
  rw [Nat.testBit_shiftLeft, Nat.testBit_and, Nat.testBit_shiftRight, Nat.testBit_and,
    Nat.testBit_shiftLeft]
  by_cases hi : k ≤ i
  · rw [decide_eq_true hi, Bool.true_and, Bool.true_and, Nat.add_sub_cancel' hi]
  · rw [decide_eq_false hi, Bool.false_and, Bool.false_and, Bool.and_false]

/-- Rounding down to a multiple of the size of a block is masking. -/
theorem div_mul_blockSize_eq_and {n : Nat} (h : n < 4294967296) (length : Nat) :
    n / blockSize length * blockSize length = n &&& maskBits length := by
  have hones : n &&& 4294967295 = n := @Nat.and_two_pow_sub_one_of_lt_two_pow 32 n h
  calc
    n / blockSize length * blockSize length = n >>> (32 - length) <<< (32 - length) := by
      rw [Nat.shiftLeft_eq, Nat.shiftRight_eq_div_pow]
      rfl
    _ = (n >>> (32 - length) &&& 4294967295 >>> (32 - length)) <<< (32 - length) := by
      rw [← Nat.shiftRight_and_distrib, hones]
    _ = n &&& maskBits length := shiftRight_and_shiftLeft n _ _

namespace Block

/-- The block that holds an address starts at the address without its host bits. -/
theorem value_ofNetwork {length : Nat} (hlength : length ≤ 32) (a : Address) :
    (ofNetwork a.value length).address.value = a.value &&& maskBits length := by
  have hround := Nat.div_mul_le_self a.value (blockSize length)
  rw [← div_mul_blockSize_eq_and a.value_lt]
  simp only [ofNetwork, Nat.min_eq_left hlength, Nat.mod_eq_of_lt a.value_lt]
  exact Address.value_ofNat_of_lt (Nat.lt_of_le_of_lt hround a.value_lt)

end Block

/-- Masking leaves an address as it is from its alignment on. -/
theorem Address.and_maskBits_eq_iff {length : Nat} (hlength : length ≤ 32) (a : Address) :
    a.value &&& maskBits length = a.value ↔ a.alignment ≤ length := by
  rw [a.alignment_le_iff hlength, ← div_mul_blockSize_eq_and a.value_lt]
  constructor
  · intro h
    rw [← h]
    exact Nat.dvd_mul_left _ _
  · exact Nat.div_mul_cancel

end NetworkPlan
