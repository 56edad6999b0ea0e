import NetworkPlan.Subnet.Basic

/-!
# Free space

What the subnets leave of the address ranges, cut into the largest aligned blocks: each gap is
filled from its low end with the biggest block that starts there and still fits.
-/

namespace NetworkPlan

/-- An unused block and the range it lies in. -/
structure FreeBlock where
  range : Block
  block : Block
deriving DecidableEq

/-- The largest exponent up to a bound for which a block of `2 ^ exponent` addresses at `start`
ends before `stop`; zero when none does. -/
def widestExponent (start stop : Nat) : Nat → Nat
  | 0 => 0
  | exponent + 1 =>
      if start + twoTo (exponent + 1) ≤ stop then exponent + 1
      else widestExponent start stop exponent

/-- The prefix length of the largest block that starts at `start`, ends before `stop`, is
aligned, and is no larger than a block of length `least`. -/
def widestLength (start least stop : Nat) : Nat :=
  32 - widestExponent start stop (32 - max least (Address.ofNat start).alignment)

/-- The addresses from `start` up to but not including `stop` as aligned blocks of `range`. -/
def fillGap (range : Block) (start stop : Nat) : List FreeBlock :=
  if start < stop then
    let length := widestLength start range.length stop
    ⟨range, Block.ofNetwork start length⟩ :: fillGap range (start + blockSize length) stop
  else []
termination_by stop - start
decreasing_by
  have := blockSize_pos (widestLength start range.length stop)
  omega

/-- The free blocks of a range from `start` on, given the used blocks in ascending order. -/
def fillBetween (range : Block) (start : Nat) : List Block → List FreeBlock
  | [] => fillGap range start (range.high + 1)
  | used :: rest =>
      fillGap range start used.low ++ fillBetween range (max start (used.high + 1)) rest

/-- The free blocks of one range. -/
def freeIn (used : List Block) (range : Block) : List FreeBlock :=
  fillBetween range range.low ((used.filter range.contains).mergeSort Block.precedes)

/-- The free blocks of every range, in address order within each range. -/
def freeBlocks (ranges used : List Block) : List FreeBlock :=
  ranges.flatMap (freeIn used)

end NetworkPlan
