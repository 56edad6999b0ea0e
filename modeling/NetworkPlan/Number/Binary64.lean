import NetworkPlan.Number.Power

/-!
# Binary64 numbers

Finite double-precision numbers as exact integers: a sign, a significand below `2 ^ 53` and a
power of two. Every operation computes its exact rational result and rounds it once, to the
nearest number and on a tie to the even significand; `none` stands for a result that is too
large.
-/

namespace NetworkPlan

/-- The number `significand * 2 ^ exponent`, negated if `negative` is set. Values made by
`Binary64.ofRatio` have the least exponent, not below `-1074`, for which the significand stays
below `2 ^ 53`. -/
structure Binary64 where
  negative : Bool
  significand : Nat
  exponent : Int
deriving DecidableEq

namespace Binary64

/-- The least significand of full width, `2 ^ 52`. -/
def fullSignificand : Nat := 4503599627370496

/-- The exponent of the smallest positive number. -/
def leastExponent : Int := -1074

/-- The largest exponent of a finite number. -/
def greatestExponent : Int := 971

/-- The exponent of a quotient's significand before the limits of the format are applied. -/
def exponentOf (num den : Nat) : Int :=
  let guess : Int := (num.log2 : Int) - (den.log2 : Int) - 53
  let quotient := num * twoTo (-guess).toNat / (den * twoTo guess.toNat)
  if quotient < 2 * fullSignificand then guess else guess + 1

/-- The integer nearest to a quotient; a tie goes to the even one. -/
def nearest (num den : Nat) : Nat :=
  let floor := num / den
  let rest := num % den
  if 2 * rest < den then floor
  else if den < 2 * rest then floor + 1
  else if floor % 2 = 0 then floor
  else floor + 1

/-- The number nearest to `num / den`, a quotient of positive `den`. -/
def ofRatio (negative : Bool) (num den : Nat) : Option Binary64 :=
  if num = 0 then some ⟨negative, 0, leastExponent⟩
  else
    let exponent := max leastExponent (exponentOf num den)
    let significand := nearest (num * twoTo (-exponent).toNat) (den * twoTo exponent.toNat)
    let carried := significand = 2 * fullSignificand
    let exponent := if carried then exponent + 1 else exponent
    let significand := if carried then fullSignificand else significand
    if greatestExponent < exponent then none else some ⟨negative, significand, exponent⟩

/-- The absolute value as a quotient of integers. -/
def ratio (x : Binary64) : Nat × Nat :=
  (x.significand * twoTo x.exponent.toNat, twoTo (-x.exponent).toNat)

/-- The number nearest to an integer. -/
def ofInt (n : Int) : Option Binary64 :=
  ofRatio (n < 0) n.natAbs 1

def isZero (x : Binary64) : Bool :=
  x.significand == 0

/-- The same number with the other sign. -/
def neg (x : Binary64) : Binary64 :=
  { x with negative := !x.negative }

/-- The rounded product. -/
def mul (x y : Binary64) : Option Binary64 :=
  ofRatio (x.negative != y.negative) (x.ratio.1 * y.ratio.1) (x.ratio.2 * y.ratio.2)

/-- The rounded quotient by a number other than zero. -/
def div (x y : Binary64) : Option Binary64 :=
  ofRatio (x.negative != y.negative) (x.ratio.1 * y.ratio.2) (x.ratio.2 * y.ratio.1)

/-- The least integer that is not below the number. -/
def ceil (x : Binary64) : Int :=
  let (num, den) := x.ratio
  if x.negative then -((num / den : Nat) : Int) else ((num + den - 1) / den : Nat)

end Binary64
end NetworkPlan
