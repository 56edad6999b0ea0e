import Mathlib.Tactic.Ring
import NetworkPlan.Number.Binary64

/-!
# Rounding and whole numbers

Rounding to the nearest never carries a quotient over a whole number, and a whole number of at most
52 bits is not changed at all.  A quotient of such a number that is not whole keeps a distance from
the whole numbers that is larger than one unit of its last place.  So its ceiling is the same before
and after rounding.
-/

namespace NetworkPlan

theorem twoTo_le_twoTo {m n : Nat} (h : m ≤ n) : twoTo m ≤ twoTo n :=
  Nat.pow_le_pow_right Nat.two_pos h

namespace Binary64

/-!
## The nearest integer
-/

section Nearest

variable {num den m : Nat}

theorem div_le_nearest : num / den ≤ nearest num den := by
  unfold nearest
  dsimp only
  split
  · exact Nat.le_refl _
  · split
    · exact Nat.le_succ _
    · split
      · exact Nat.le_refl _
      · exact Nat.le_succ _

theorem nearest_le_succ_div : nearest num den ≤ num / den + 1 := by
  unfold nearest
  dsimp only
  split
  · exact Nat.le_succ _
  · split
    · exact Nat.le_refl _
    · split
      · exact Nat.le_succ _
      · exact Nat.le_refl _

theorem le_nearest (hden : 0 < den) (h : m * den ≤ num) : m ≤ nearest num den :=
  Nat.le_trans ((Nat.le_div_iff_mul_le hden).mpr h) div_le_nearest

theorem nearest_mul (hden : 0 < den) : nearest (m * den) den = m := by
  unfold nearest
  rw [Nat.mul_mod_left, Nat.mul_div_cancel m hden]
  exact if_pos (by omega)

theorem nearest_le (hden : 0 < den) (h : num ≤ m * den) : nearest num den ≤ m := by
  rcases Nat.lt_or_eq_of_le h with hlt | rfl
  · exact Nat.le_trans nearest_le_succ_div ((Nat.div_lt_iff_lt_mul hden).mpr hlt)
  · rw [nearest_mul hden]

/-- Rounding a multiple of a quotient does not carry it over a multiple of a whole number, if the
factor is not below the denominator. -/
theorem lt_nearest_iff {scale h c : Nat} (hc : 0 < c) (hden : 0 < den) (hscale : den ≤ scale) :
    h * scale < nearest (num * c * scale) (den * c) ↔ h * den < num := by
  have hpos : 0 < den * c := Nat.mul_pos hden hc
  constructor
  · intro hlt
    by_contra hnot
    have hle : num * c * scale ≤ h * scale * (den * c) :=
      calc num * c * scale ≤ h * den * c * scale := by gcongr; omega
        _ = h * scale * (den * c) := by ring
    exact Nat.not_lt_of_le (nearest_le hpos hle) hlt
  · intro hlt
    apply le_nearest hpos
    calc (h * scale + 1) * (den * c) = h * den * c * scale + c * den := by ring
      _ ≤ h * den * c * scale + c * scale := by gcongr
      _ = (h * den + 1) * c * scale := by ring
      _ ≤ num * c * scale := by gcongr; exact hlt

end Nearest

/-!
## The exponent
-/

theorem fullSignificand_eq : fullSignificand = twoTo 52 := rfl

theorem twoTo_log2_le {n : Nat} (hn : n ≠ 0) : twoTo n.log2 ≤ n :=
  Nat.log2_self_le hn

theorem lt_twoTo_log2 {n : Nat} : n < twoTo (n.log2 + 1) :=
  Nat.lt_log2_self

/-- The exponent leaves at least fifty-two binary digits before the point. -/
theorem full_le_exponentOf {num den : Nat} (hnum : num ≠ 0) :
    fullSignificand * (den * twoTo (exponentOf num den).toNat) ≤
      num * twoTo (-exponentOf num den).toNat := by
  have hguess (g : Int) (hg : g = (num.log2 : Int) - den.log2 - 53) :
      fullSignificand * (den * twoTo g.toNat) ≤ num * twoTo (-g).toNat := by
    have hexponents : 52 + (den.log2 + 1) + g.toNat = num.log2 + (-g).toNat := by
      omega
    calc fullSignificand * (den * twoTo g.toNat)
        ≤ fullSignificand * (twoTo (den.log2 + 1) * twoTo g.toNat) := by
          gcongr
          exact Nat.le_of_lt lt_twoTo_log2
      _ = twoTo num.log2 * twoTo (-g).toNat := by
          rw [fullSignificand_eq, ← Nat.mul_assoc, ← twoTo_add, ← twoTo_add, ← twoTo_add,
            hexponents]
      _ ≤ num * twoTo (-g).toNat := by
          gcongr
          exact twoTo_log2_le hnum
  unfold exponentOf
  dsimp only
  split
  next =>
    exact hguess _ rfl
  next hwide =>
    -- There is one digit too many, so that halving leaves enough of them.
    have hpos : 0 < den * twoTo ((num.log2 : Int) - den.log2 - 53).toNat := by
      by_contra hzero
      rw [Nat.eq_zero_of_not_pos hzero, Nat.div_zero] at hwide
      exact hwide (by decide)
    have hdouble := (Nat.le_div_iff_mul_le hpos).mp (Nat.le_of_not_lt hwide)
    generalize (num.log2 : Int) - den.log2 - 53 = g at hdouble
    refine Nat.le_of_mul_le_mul_left ?_ (Nat.succ_pos 1)
    rcases lt_or_ge g 0 with hneg | hnonneg
    · have hplus : (g + 1).toNat = g.toNat := by
        omega
      have hminus : (-g).toNat = (-(g + 1)).toNat + 1 := by
        omega
      calc 2 * (fullSignificand * (den * twoTo (g + 1).toNat))
          = 2 * fullSignificand * (den * twoTo g.toNat) := by rw [hplus, Nat.mul_assoc]
        _ ≤ num * twoTo (-g).toNat := hdouble
        _ = 2 * (num * twoTo (-(g + 1)).toNat) := by rw [hminus, twoTo_succ]; ring
    · have hplus : (g + 1).toNat = g.toNat + 1 := by
        omega
      have hminus : (-(g + 1)).toNat = (-g).toNat := by
        omega
      calc 2 * (fullSignificand * (den * twoTo (g + 1).toNat))
          = 2 * (2 * fullSignificand * (den * twoTo g.toNat)) := by rw [hplus, twoTo_succ]; ring
        _ ≤ 2 * (num * twoTo (-g).toNat) := Nat.mul_le_mul_left 2 hdouble
        _ = 2 * (num * twoTo (-(g + 1)).toNat) := by rw [hminus]

/-- A quotient whose dividend has no more than fifty-two binary digits is scaled up. -/
theorem exponentOf_le {num den c : Nat} (hnum : 0 < num) (hle : num ≤ fullSignificand)
    (hden : 0 < den) (hc : 0 < c) :
    exponentOf (num * c) (den * c) ≤ 0 ∧
      den ≤ twoTo (-exponentOf (num * c) (den * c)).toNat := by
  have hfull := @full_le_exponentOf (num * c) (den * c) (Nat.mul_pos hnum hc).ne'
  generalize exponentOf (num * c) (den * c) = e at hfull ⊢
  have hscaled : den * twoTo e.toNat ≤ twoTo (-e).toNat := by
    refine Nat.le_of_mul_le_mul_left ?_ (Nat.mul_pos (by decide : 0 < fullSignificand) hc)
    calc fullSignificand * c * (den * twoTo e.toNat)
        = fullSignificand * (den * c * twoTo e.toNat) := by ring
      _ ≤ num * c * twoTo (-e).toNat := hfull
      _ ≤ fullSignificand * c * twoTo (-e).toNat := by gcongr
  have hnonpos : e ≤ 0 := by
    by_contra hpos
    have hminus : (-e).toNat = 0 := by
      omega
    have hplus : e.toNat = (e.toNat - 1) + 1 := by
      omega
    rw [hminus, hplus, twoTo_succ, twoTo_zero] at hscaled
    have htwo : 1 * (1 * 2) ≤ den * (twoTo (e.toNat - 1) * 2) := by
      gcongr
      · exact hden
      · exact twoTo_pos _
    omega
  refine ⟨hnonpos, ?_⟩
  rw [Int.toNat_of_nonpos hnonpos, twoTo_zero, Nat.mul_one] at hscaled
  exact hscaled

/-!
## Rounded quotients
-/

/-- The value of a rounded quotient that is scaled up is the nearest integer, scaled down again.
A carry changes the exponent and not the value. -/
theorem exists_ofRatio {num den k : Nat} (hnum : num ≠ 0)
    (hk : max leastExponent (exponentOf num den) = -(k : Int)) :
    exists x, ofRatio false num den = some x ∧ x.negative = false ∧
      x.ratio.1 * twoTo k = nearest (num * twoTo k) den * x.ratio.2 := by
  have hscale : (- -(k : Int)).toNat = k := by
    omega
  have hnone : (-(k : Int)).toNat = 0 := by
    omega
  unfold ofRatio
  rw [if_neg hnum]
  simp only [hk, hscale, hnone, twoTo_zero, Nat.mul_one]
  by_cases hcarried : nearest (num * twoTo k) den = 2 * fullSignificand
  · have hfinite : ¬ greatestExponent < -(k : Int) + 1 := by
      unfold greatestExponent
      omega
    simp only [if_pos hcarried, if_neg hfinite]
    refine ⟨_, rfl, rfl, ?_⟩
    rw [hcarried, ratio]
    cases k with
    | zero =>
        rfl
    | succ k =>
        have hplus : (-((k + 1 : Nat) : Int) + 1).toNat = 0 := by
          omega
        have hminus : (-(-((k + 1 : Nat) : Int) + 1)).toNat = k := by
          omega
        rw [hplus, hminus, twoTo_succ, twoTo_zero]
        ring
  · have hfinite : ¬ greatestExponent < -(k : Int) := by
      unfold greatestExponent
      omega
    simp only [if_neg hcarried, if_neg hfinite]
    refine ⟨_, rfl, rfl, ?_⟩
    simp only [ratio, hnone, hscale, twoTo_zero, Nat.mul_one]

theorem ratio_pos (x : Binary64) : 0 < x.ratio.2 :=
  twoTo_pos _

theorem lt_ceil_iff {x : Binary64} (hx : x.negative = false) {h : Nat} :
    (h : Int) < x.ceil ↔ h * x.ratio.2 < x.ratio.1 := by
  have hpos := x.ratio_pos
  have hceil : x.ceil = ((x.ratio.1 + x.ratio.2 - 1) / x.ratio.2 : Nat) := by
    simp only [ceil, hx, Bool.false_eq_true, if_false]
  rw [hceil, Int.ofNat_lt, ← Nat.succ_le_iff, Nat.le_div_iff_mul_le hpos, Nat.succ_mul]
  omega

/-- The ceiling of a quotient is the same before and after rounding. -/
theorem exists_ofRatio_lt_ceil_iff {num den c : Nat} (hnum : 0 < num)
    (hle : num ≤ fullSignificand) (hden : 0 < den) (hden' : den ≤ twoTo 1074) (hc : 0 < c) :
    exists x, ofRatio false (num * c) (den * c) = some x ∧
      forall h : Nat, (h : Int) < x.ceil ↔ h * den < num := by
  rcases exponentOf_le hnum hle hden hc with ⟨hnonpos, hscale⟩
  have hexponent : exists k : Nat,
      max leastExponent (exponentOf (num * c) (den * c)) = -(k : Int) ∧ den ≤ twoTo k := by
    rcases le_total leastExponent (exponentOf (num * c) (den * c)) with hle | hge
    · refine ⟨_, ?_, hscale⟩
      rw [max_eq_right hle, Int.toNat_of_nonneg (by omega), Int.neg_neg]
    · exact ⟨1074, max_eq_left hge, hden'⟩
  rcases hexponent with ⟨k, hk, hscale⟩
  rcases exists_ofRatio (Nat.mul_pos hnum hc).ne' hk with ⟨x, hx, hpositive, hvalue⟩
  refine ⟨x, hx, fun h => ?_⟩
  calc (h : Int) < x.ceil
      ↔ h * x.ratio.2 < x.ratio.1 := lt_ceil_iff hpositive
    _ ↔ h * x.ratio.2 * twoTo k < x.ratio.1 * twoTo k :=
        (Nat.mul_lt_mul_right (twoTo_pos k)).symm
    _ ↔ h * twoTo k * x.ratio.2 <
          nearest (num * c * twoTo k) (den * c) * x.ratio.2 := by
        rw [hvalue, Nat.mul_right_comm]
    _ ↔ h * twoTo k < nearest (num * c * twoTo k) (den * c) := Nat.mul_lt_mul_right x.ratio_pos
    _ ↔ h * den < num := lt_nearest_iff hc hden hscale

/-- The number is this whole number. -/
structure Equals (x : Binary64) (n : Nat) : Prop where
  positive : x.negative = false
  ratio_eq : x.ratio.1 = n * x.ratio.2

/-- A whole number of at most fifty-two binary digits is not changed by rounding. -/
theorem exists_ofInt {n : Nat} (hn : 0 < n) (hle : n ≤ fullSignificand) :
    exists x, ofInt n = some x ∧ x.Equals n := by
  rcases exponentOf_le hn hle Nat.one_pos Nat.one_pos with ⟨hnonpos, _⟩
  rw [Nat.mul_one, Nat.mul_one] at hnonpos
  have hexponent : max leastExponent (exponentOf n 1) =
      -((-max leastExponent (exponentOf n 1)).toNat : Int) := by
    unfold leastExponent
    omega
  generalize (-max leastExponent (exponentOf n 1)).toNat = k at hexponent
  rcases exists_ofRatio hn.ne' hexponent with ⟨x, hx, hpositive, hvalue⟩
  refine ⟨x, ?_, hpositive, ?_⟩
  · rw [ofInt, Int.natAbs_natCast, decide_eq_false (by omega), hx]
  · have hexact := @nearest_mul 1 (n * twoTo k) Nat.one_pos
    rw [Nat.mul_one] at hexact
    rw [hexact, Nat.mul_right_comm] at hvalue
    exact Nat.eq_of_mul_eq_mul_right (twoTo_pos k) hvalue

/-- The ceiling of a quotient of two whole numbers that are divided as doubles is the exact one. -/
theorem Equals.exists_div {m n : Nat} {x y : Binary64} (hx : x.Equals m) (hy : y.Equals n)
    (hm : 0 < m) (hm' : m ≤ fullSignificand) (hn : 0 < n) (hn' : n ≤ twoTo 1074) :
    exists quotient, x.div y = some quotient ∧
      forall h : Nat, (h : Int) < quotient.ceil ↔ h * n < m := by
  have hdiv : x.div y =
      ofRatio false (m * (x.ratio.2 * y.ratio.2)) (n * (x.ratio.2 * y.ratio.2)) := by
    rw [div, hx.positive, hy.positive, hx.ratio_eq, hy.ratio_eq, Nat.mul_assoc,
      Nat.mul_left_comm n]
    rfl
  rw [hdiv]
  exact exists_ofRatio_lt_ceil_iff hm hm' hn hn' (Nat.mul_pos x.ratio_pos y.ratio_pos)

end Binary64
end NetworkPlan
