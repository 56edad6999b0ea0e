import NetworkPlan.Address.Basic
import NetworkPlan.Number.Power

/-!
# Address blocks

A block is an address together with a prefix length; it stands for the `2 ^ (32 - length)`
addresses that share the first `length` bits. The address may lie anywhere in the block (host
bits), so `low` is computed and not stored. Everything is arithmetic on `Nat`: `low` is the
address rounded down to a multiple of the block's size.
-/

namespace NetworkPlan

/-- A block of addresses in prefix notation; the address need not be the lowest one. -/
structure Block where
  address : Address
  length : Nat
  length_le : length ≤ 32 := by omega
deriving DecidableEq

/-- How many addresses a block of a given prefix length holds. -/
def blockSize (length : Nat) : Nat :=
  twoTo (32 - length)

theorem blockSize_pos (length : Nat) : 0 < blockSize length :=
  twoTo_pos _

namespace Block

/-- The number of addresses of the block. -/
def size (b : Block) : Nat :=
  blockSize b.length

/-- The lowest address of the block, as a number. -/
def low (b : Block) : Nat :=
  b.address.value / b.size * b.size

/-- The highest address of the block, as a number. -/
def high (b : Block) : Nat :=
  b.low + (b.size - 1)

/-- An address belongs to a block when it lies between the block's ends. -/
instance : Membership Address Block :=
  ⟨fun b a => b.low ≤ a.value ∧ a.value ≤ b.high⟩

instance (a : Address) (b : Block) : Decidable (a ∈ b) :=
  inferInstanceAs (Decidable (b.low ≤ a.value ∧ a.value ≤ b.high))

theorem mem_iff {a : Address} {b : Block} : a ∈ b ↔ b.low ≤ a.value ∧ a.value ≤ b.high :=
  Iff.rfl

theorem ext {a b : Block} (ha : a.address = b.address) (hl : a.length = b.length) : a = b := by
  cases a
  cases b
  simp_all

theorem size_pos (b : Block) : 0 < b.size :=
  blockSize_pos b.length

theorem low_le_address (b : Block) : b.low ≤ b.address.value :=
  Nat.div_mul_le_self _ _

theorem high_lt (b : Block) : b.high < 4294967296 := by
  have hk : twoTo 32 = b.size * twoTo b.length := by
    rw [size, blockSize, ← twoTo_add, Nat.sub_add_cancel b.length_le]
  generalize twoTo b.length = k at hk
  rw [show twoTo 32 = 4294967296 from rfl] at hk
  have hlt := b.address.value_lt
  have hpos := b.size_pos
  have hdiv : b.address.value / b.size < k := by
    apply Nat.div_lt_of_lt_mul
    omega
  have hmul : (b.address.value / b.size + 1) * b.size ≤ k * b.size :=
    Nat.mul_le_mul_right _ hdiv
  rw [Nat.add_mul, Nat.one_mul, Nat.mul_comm k] at hmul
  unfold high low
  omega

theorem low_lt (b : Block) : b.low < 4294967296 :=
  Nat.lt_of_le_of_lt (Nat.le_add_right _ _) b.high_lt

/-- The lowest address of the block. -/
def first (b : Block) : Address :=
  ⟨b.low, b.low_lt⟩

/-- The highest address of the block. -/
def last (b : Block) : Address :=
  ⟨b.high, b.high_lt⟩

/-- A block written with its lowest address has no host bits. -/
def IsNetwork (b : Block) : Prop :=
  b.address = b.first

instance (b : Block) : Decidable b.IsNetwork :=
  inferInstanceAs (Decidable (b.address = b.first))

/-!
## Comparison
-/

/-- Every address of `b` is one of `a`. -/
def contains (a b : Block) : Bool :=
  a.length ≤ b.length && a.low ≤ b.low && b.high ≤ a.high

/-- Some address belongs to both blocks. -/
def overlaps (a b : Block) : Bool :=
  a.low ≤ b.high && b.low ≤ a.high

/-- Blocks are ordered by address as a number, then by prefix length. -/
instance : Ord Block :=
  ⟨fun a b => (compare a.address.value b.address.value).then (compare a.length b.length)⟩

/-- The order of blocks as a test. -/
def precedes (a b : Block) : Bool :=
  (compare a b).isLE

/-- Every pair of blocks, earlier one first, that share an address, in the order of the list. -/
def conflicts : List Block → List (Block × Block)
  | [] => []
  | b :: rest => ((rest.filter b.overlaps).map (b, ·)) ++ conflicts rest

/-!
## Construction
-/

/-- The block of a given length that holds a given address; lengths above 32 count as 32. -/
def ofNetwork (network length : Nat) : Block :=
  let length' := min length 32
  let first := network % 4294967296 / blockSize length' * blockSize length'
  ⟨.ofNat first, length', Nat.min_le_right _ _⟩

/-!
## Hosts
-/

/-- Addresses other than the network and broadcast address; blocks of one or two addresses
reserve none. -/
def usableHosts (b : Block) : Nat :=
  match b.length with
  | 32 => 1
  | 31 => 2
  | _ => b.size - 2

/-- The usable address at a position counted from zero. -/
def host? (b : Block) (n : Nat) : Option Address :=
  if n < b.usableHosts then
    match b.length with
    | 32 | 31 => some (.ofNat (b.low + n))
    | _ => some (.ofNat (b.low + 1 + n))
  else none

end Block

/-- The number of addresses the cloud provider keeps for itself in every subnet. -/
def reservedHosts : Nat := 5

/-- Addresses left to machines in a subnet of a given prefix length, from /0 to /29. -/
def assignableHosts (length : Nat) : Except NotationError Nat :=
  if 30 ≤ length then .error (.prefixLength (toString length))
  else .ok (blockSize length - reservedHosts)

end NetworkPlan
