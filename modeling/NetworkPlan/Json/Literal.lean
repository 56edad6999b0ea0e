import NetworkPlan.Json.Basic
import NetworkPlan.Text.Decimal

/-!
# Number literals

The parts of a number as written, and the number they stand for. Digits are gathered into a
significand for as long as it stays below `2 ^ 64`. Later digits before the point only count as
powers of ten and later digits after it are dropped. A double is the rounded significand, times
or divided by the rounded power of ten; each step rounds once.
-/

namespace NetworkPlan

/-- The parts of a number as written. -/
structure Literal where
  negative : Bool
  /-- The digits before the point. -/
  whole : List Char
  /-- The digits after the point. -/
  fraction : Option (List Char)
  /-- The sign, set when negative, and the digits of the exponent. -/
  exponent : Option (Bool × List Char)

namespace Literal

/-- How many values 64 bits have. -/
def wordCount : Nat := 18446744073709551616

/-- Digits taken into a significand while it stays below `2 ^ 64`, and the digits left over. -/
def gather (significand : Nat) : List Char → Nat × List Char
  | [] => (significand, [])
  | c :: cs =>
      let next := 10 * significand + Text.digitValue c
      if next < wordCount then gather next cs else (significand, c :: cs)

/-- The double nearest to a power of ten. -/
def roundedTenTo (power : Nat) : Option Binary64 :=
  Binary64.ofRatio false (tenTo power) 1

/-- The greatest power of ten that is a finite double. -/
def greatestPower : Nat := 308

/-- Division by a power of ten, at most `10 ^ 308` at a time. -/
def divideByTenTo (x : Binary64) (power : Nat) : Option Binary64 :=
  if power ≤ greatestPower then do x.div (← roundedTenTo power)
  else if x.isZero then some x
  else do
    let smaller ← x.div (← roundedTenTo greatestPower)
    divideByTenTo smaller (power - greatestPower)
termination_by power
decreasing_by
  simp only [greatestPower] at *
  omega

/-- A significand times a power of ten; `none` if that is too large for a double. -/
def scale (significand : Nat) (power : Int) : Option Binary64 := do
  let x ← Binary64.ofInt significand
  if power < 0 then divideByTenTo x power.natAbs
  else if power.natAbs ≤ greatestPower then x.mul (← roundedTenTo power.natAbs)
  else if x.isZero then some x
  else none

/-- The value of the exponent part. -/
def exponentValue (l : Literal) : Int :=
  match l.exponent with
  | none => 0
  | some (negative, digits) =>
      if negative then -(Text.digitsValue digits : Int) else Text.digitsValue digits

/-- The literal as a double. -/
def double? (l : Literal) : Option Binary64 :=
  let (significand, surplus) := gather 0 l.whole
  let fraction := l.fraction.getD []
  let (significand, dropped) := gather significand fraction
  let places := fraction.length - dropped.length
  let power := (surplus.length : Int) - (places : Int) + l.exponentValue
  (scale significand power).map fun x => if l.negative then x.neg else x

/-- The number a literal stands for; `none` if it is too large. Minus zero, and integers outside
the signed and unsigned 64-bit ranges, are doubles. -/
def value? (l : Literal) : Option Number :=
  let n := Text.digitsValue l.whole
  let isInteger := l.fraction.isNone && l.exponent.isNone
    && (if l.negative then 0 < n && 2 * n ≤ wordCount else n < wordCount)
  if isInteger then some (.integer (if l.negative then -(n : Int) else n))
  else l.double?.map .double

end Literal
end NetworkPlan
