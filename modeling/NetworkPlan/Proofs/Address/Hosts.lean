import Mathlib.Data.Set.Card
import Mathlib.Order.Interval.Finset.Nat
import NetworkPlan.Proofs.Address.Extent

/-!
# Hosts

A block keeps its lowest and its highest address for itself, unless it has no other addresses.  The
usable addresses are the rest, counted from the lowest one on.
-/

namespace NetworkPlan
namespace Block

/-- How many addresses a block keeps for itself at each of its ends. -/
def reserved (b : Block) : Nat :=
  if b.length ≤ 30 then 1 else 0

private theorem length_le_thirty {b : Block} (h32 : b.length ≠ 32) (h31 : b.length ≠ 31) :
    b.length ≤ 30 := by
  have hle := b.length_le
  omega

theorem usableHosts_add_reserved (b : Block) : b.usableHosts + 2 * b.reserved = b.size := by
  unfold usableHosts reserved
  split
  next hlength =>
    simp [size, hlength, blockSize]
  next hlength =>
    simp [size, hlength, blockSize, twoTo]
  next h32 h31 =>
    have hshort := length_le_thirty h32 h31
    have hsize : blockSize 31 < b.size := blockSize_lt (by omega) (by omega)
    have htwo : blockSize 31 = 2 := rfl
    rw [if_pos hshort]
    omega

theorem usableHosts_pos (b : Block) : 0 < b.usableHosts := by
  have hsum := b.usableHosts_add_reserved
  by_cases hlength : b.length ≤ 30
  · have hsize : blockSize 31 < b.size := blockSize_lt (by omega) (by omega)
    have htwo : blockSize 31 = 2 := rfl
    rw [reserved, if_pos hlength] at hsum
    omega
  · have hpos := b.size_pos
    rw [reserved, if_neg hlength] at hsum
    omega

theorem host?_eq (b : Block) (n : Nat) :
    b.host? n = if n < b.usableHosts then some (.ofNat (b.low + b.reserved + n)) else none := by
  unfold host? reserved
  split
  · split
    next hlength =>
      simp [hlength]
    next hlength =>
      simp [hlength]
    next h32 h31 =>
      rw [if_pos (length_le_thirty h32 h31)]
  · rfl

/-- The sum behind a usable address is itself an address. -/
theorem low_add_lt {b : Block} {n : Nat} (h : n < b.usableHosts) :
    b.low + b.reserved + n < 4294967296 := by
  have hsum := b.usableHosts_add_reserved
  have hend := b.high_add_one
  have hhigh := b.high_lt
  omega

theorem host?_eq_some_iff {b : Block} {n : Nat} {a : Address} :
    b.host? n = some a ↔ n < b.usableHosts ∧ a.value = b.low + b.reserved + n := by
  rw [host?_eq]
  by_cases hn : n < b.usableHosts
  · have hlt := low_add_lt hn
    rw [if_pos hn, Option.some.injEq, and_iff_right hn]
    constructor
    · intro h
      rw [← h, Address.value_ofNat_of_lt hlt]
    · intro h
      exact Address.ext (by rw [Address.value_ofNat_of_lt hlt, h])
  · rw [if_neg hn]
    constructor
    · intro h
      cases h
    · intro h
      exact absurd h.left hn

theorem mem_of_host? {b : Block} {n : Nat} {a : Address} (h : b.host? n = some a) : a ∈ b := by
  rcases host?_eq_some_iff.mp h with ⟨hn, hvalue⟩
  have hsum := b.usableHosts_add_reserved
  have hend := b.high_add_one
  rw [mem_iff]
  omega

theorem exists_host?_zero (b : Block) : exists a, b.host? 0 = some a := by
  rw [host?_eq, if_pos b.usableHosts_pos]
  exact ⟨_, rfl⟩

/-- The addresses of a block without its lowest and its highest one; a block of one or two
addresses keeps both. -/
def hosts (b : Block) : Set Address :=
  {a | a ∈ b ∧ (b.length ≤ 30 -> a ≠ b.first ∧ a ≠ b.last)}

theorem mem_hosts_iff {b : Block} {a : Address} :
    a ∈ b.hosts ↔ b.low + b.reserved ≤ a.value ∧ a.value < b.low + b.reserved + b.usableHosts := by
  have hfirst : a = b.first ↔ a.value = b.low := ⟨congrArg Address.value, fun h => Address.ext h⟩
  have hlast : a = b.last ↔ a.value = b.high := ⟨congrArg Address.value, fun h => Address.ext h⟩
  have hsum := b.usableHosts_add_reserved
  have hend := b.high_add_one
  rw [hosts, Set.mem_ofPred_eq, mem_iff, Ne, Ne, hfirst, hlast]
  by_cases hlength : b.length ≤ 30
  · rw [reserved, if_pos hlength] at hsum ⊢
    omega
  · rw [reserved, if_neg hlength] at hsum ⊢
    omega

theorem image_hosts (b : Block) :
    Set.image Address.value b.hosts =
      Finset.Ico (b.low + b.reserved) (b.low + b.reserved + b.usableHosts) := by
  have hsum := b.usableHosts_add_reserved
  have hend := b.high_add_one
  have hhigh := b.high_lt
  ext n
  simp only [Set.mem_image, mem_hosts_iff, Finset.coe_Ico, Set.mem_Ico]
  constructor
  · intro h
    rcases h with ⟨a, ha, rfl⟩
    exact ha
  · intro h
    exact ⟨⟨n, by omega⟩, h, rfl⟩

/-- The usable addresses are all but the two that a block keeps for itself. -/
theorem ncard_hosts (b : Block) : b.hosts.ncard = b.usableHosts := by
  have hinjective : Function.Injective Address.value := fun _ _ => Address.ext
  rw [← Set.ncard_image_of_injective _ hinjective, image_hosts, Set.ncard_coe_finset, Nat.card_Ico,
    Nat.add_sub_cancel_left]

/-!
## Counting
-/

theorem exists_host?_iff {b : Block} {n : Nat} :
    (exists a, b.host? n = some a) ↔ n < b.usableHosts := by
  rw [host?_eq]
  split <;> simp [*]

theorem value_lt_of_host? {b : Block} {m n : Nat} {x y : Address} (h : m < n)
    (hx : b.host? m = some x) (hy : b.host? n = some y) : x.value < y.value := by
  have hxvalue := (host?_eq_some_iff.mp hx).right
  have hyvalue := (host?_eq_some_iff.mp hy).right
  omega

theorem exists_host?_eq_some_iff {b : Block} {a : Address} :
    (exists n, b.host? n = some a) ↔ a ∈ b.hosts := by
  simp only [host?_eq_some_iff]
  rw [mem_hosts_iff]
  constructor
  · rintro ⟨n, hn, hvalue⟩
    omega
  · intro h
    exact ⟨a.value - (b.low + b.reserved), by omega, by omega⟩

end Block

/-- Every block has a usable address.  Positions from zero up to the number of usable addresses have
one each, found by a sum that no narrowing changes, in ascending order; and they are all addresses
of the block but its ends, or all its addresses if it has no more than two. -/
theorem hosts_counted_in_order (b : Block) :
    (forall n, (exists a, b.host? n = some a) ↔ n < b.usableHosts) ∧
    1 ≤ b.usableHosts ∧ b.usableHosts + 2 * b.reserved = b.size ∧
    (forall n, n < b.usableHosts -> b.low + b.reserved + n < 4294967296) ∧
    (forall n a, b.host? n = some a -> a.value = b.low + b.reserved + n) ∧
    (forall m n x y, m < n -> b.host? m = some x -> b.host? n = some y -> x.value < y.value) ∧
    (forall a, (exists n, b.host? n = some a) ↔
      a ∈ b ∧ (b.length ≤ 30 -> a ≠ b.first ∧ a ≠ b.last)) :=
  ⟨fun _ => Block.exists_host?_iff, b.usableHosts_pos, b.usableHosts_add_reserved,
    fun _ => Block.low_add_lt, fun _ _ h => (Block.host?_eq_some_iff.mp h).right,
    fun _ _ _ _ => Block.value_lt_of_host?, fun _ => Block.exists_host?_eq_some_iff⟩

/-- In the block of all addresses, the last usable address is the one before the last. -/
theorem hosts_counted_in_whole_space :
    let b : Block := ⟨.ofNat 0, 0, by decide⟩
    b.usableHosts = 4294967294 ∧ 0 < 4294967293 ∧ b.host? 0 = some (.ofNat 1) ∧
    b.host? 4294967293 = some (.ofNat 4294967294) ∧
    (Address.ofNat 1).value < (Address.ofNat 4294967294).value ∧
    b.low + b.reserved + 4294967293 < 4294967296 := by
  intro b
  have hfirst : b.host? 0 = some (.ofNat 1) := by decide
  have hlast : b.host? 4294967293 = some (.ofNat 4294967294) := by decide
  rcases hosts_counted_in_order b with ⟨_, _, _, hsum, _, hascending, _⟩
  exact ⟨rfl, by decide, hfirst, hlast,
    hascending 0 4294967293 _ _ (by decide) hfirst hlast, hsum 4294967293 (by decide)⟩

end NetworkPlan
