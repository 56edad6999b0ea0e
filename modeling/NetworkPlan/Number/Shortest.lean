import NetworkPlan.Number.Binary64

/-!
# Shortest decimal text

A double is written with the fewest decimal digits that read back as it, and of those with the
digits nearest to it. The search is exact: the reals that round to the number form an interval,
and on each decimal grid, from coarse to fine, only the two grid points next to the number can
lie in it.
-/

namespace NetworkPlan
namespace Binary64

/-- The reals that round to a positive number, as multiples of `1 / scale`: its ends, the number
itself, and whether the ends belong to it. The gap below a power of two is half as wide. -/
structure Interval where
  low : Nat
  value : Nat
  high : Nat
  scale : Nat
  closed : Bool

/-- The rounding interval of the absolute value of a number. -/
def interval (x : Binary64) : Interval :=
  let up := twoTo x.exponent.toNat
  let narrow := x.significand = fullSignificand ∧ leastExponent < x.exponent
  { low := (4 * x.significand - if narrow then 1 else 2) * up
    value := 4 * x.significand * up
    high := (4 * x.significand + 2) * up
    scale := 4 * twoTo (-x.exponent).toNat
    closed := x.significand % 2 == 0 }

namespace Interval

/-- Whether the decimal `digits * 10 ^ power` rounds to the number. -/
def holds (i : Interval) (digits : Nat) (power : Int) : Bool :=
  let point := digits * tenTo power.toNat * i.scale
  let unit := tenTo (-power).toNat
  if i.closed then i.low * unit ≤ point && point ≤ i.high * unit
  else i.low * unit < point && point < i.high * unit

/-- The grid point next to the number that rounds to it, the nearer one if both do; a tie goes
to the even one. -/
def onGrid? (i : Interval) (power : Int) : Option Nat :=
  let num := i.value * tenTo (-power).toNat
  let den := i.scale * tenTo power.toNat
  let below := num / den
  match i.holds below power, i.holds (below + 1) power with
  | true, true => some (nearest num den)
  | true, false => some below
  | false, true => some (below + 1)
  | false, false => none

/-- The first grid with a hit, from `10 ^ power` downwards. -/
def search (i : Interval) (power : Int) : Nat → Nat × Int
  | 0 => (i.value / i.scale, 0)
  | steps + 1 =>
      match i.onGrid? power with
      | some digits => (digits, power)
      | none => search i (power - 1) steps

end Interval

/-- The shortest digits of the absolute value of a number other than zero, with the power of ten
of the last of them. Seventeen digits always suffice. -/
def shortest (x : Binary64) : Nat × Int :=
  let i := x.interval
  let top : Int := ((toString i.value).length : Int) - ((toString i.scale).length : Int) + 1
  i.search top 24

/-- Digits with a decimal point: always at least one digit on either side. -/
def positional (digits : List Char) (power : Int) : List Char :=
  if 0 ≤ power then digits ++ List.replicate power.toNat '0' ++ ['.', '0']
  else
    let places := (-power).toNat
    if places < digits.length then
      digits.take (digits.length - places) ++ '.' :: digits.drop (digits.length - places)
    else '0' :: '.' :: List.replicate (places - digits.length) '0' ++ digits

/-- One digit before the point, and the power of ten with its sign. -/
def scientific (digits : List Char) (leading : Int) : List Char :=
  let fraction := if digits.length ≤ 1 then [] else '.' :: digits.tail
  let sign := if 0 ≤ leading then '+' else '-'
  digits.take 1 ++ fraction ++ 'e' :: sign :: (toString leading.natAbs).toList

/-- The text of a double: positional while the first digit stands for `10 ^ -5` to `10 ^ 15`. -/
def toText (x : Binary64) : String :=
  let sign := if x.negative then ['-'] else []
  let body :=
    if x.isZero then ['0', '.', '0']
    else
      let (number, power) := x.shortest
      let digits := (toString number).toList
      let leading := power + (digits.length : Int) - 1
      if -5 ≤ leading ∧ leading ≤ 15 then positional digits power else scientific digits leading
  String.ofList (sign ++ body)

instance : ToString Binary64 := ⟨toText⟩

end Binary64
end NetworkPlan
