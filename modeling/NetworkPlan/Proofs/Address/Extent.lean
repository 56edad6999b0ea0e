import NetworkPlan.Address.Block

/-!
# The extent of a block

A block stands for the addresses between its two ends.  This module says what its sizes, ends and
comparisons mean for that set of addresses: sizes divide one another, both ends lie on multiples
of the size, `contains` is inclusion and `overlaps` is having an address in common.
-/

namespace NetworkPlan

/-!
# Sizes

Sizes are powers of two, so of two sizes the smaller one divides the larger one.
-/

theorem blockSize_dvd {m n : Nat} (h : m ≤ n) : blockSize n ∣ blockSize m := by
  have hsplit : 32 - m = (32 - n) + ((32 - m) - (32 - n)) := by
    omega
  unfold blockSize
  rw [hsplit, twoTo_add]
  exact Nat.dvd_mul_right _ _

theorem blockSize_lt {m n : Nat} (h : m < n) (hn : n ≤ 32) : blockSize n < blockSize m := by
  have hsplit : 32 - m = (32 - n) + (n - m - 1) + 1 := by
    omega
  have hdvd : twoTo (32 - n) ≤ twoTo (32 - n + (n - m - 1)) := by
    rw [twoTo_add]
    exact Nat.le_mul_of_pos_right _ (twoTo_pos _)
  have hpos := twoTo_pos (32 - n)
  unfold blockSize
  rw [hsplit, twoTo_succ]
  omega

namespace Block

/-!
# Ends
-/

theorem size_dvd_low (b : Block) : b.size ∣ b.low :=
  Nat.dvd_mul_left _ _

theorem high_add_one (b : Block) : b.high + 1 = b.low + b.size := by
  have hpos := b.size_pos
  unfold high
  omega

theorem low_le_high (b : Block) : b.low ≤ b.high :=
  Nat.le_add_right _ _

theorem first_mem (b : Block) : b.first ∈ b :=
  And.intro (Nat.le_refl _) b.low_le_high

theorem last_mem (b : Block) : b.last ∈ b :=
  And.intro b.low_le_high (Nat.le_refl _)

theorem isNetwork_iff {b : Block} : b.IsNetwork ↔ b.address.value = b.low := by
  constructor
  · intro h
    exact congrArg Address.value h
  · intro h
    exact Address.ext h

/-!
# Inclusion and disjointness
-/

/-- A block lies inside another one when all its addresses do. -/
instance : HasSubset Block :=
  ⟨fun a b => forall x : Address, x ∈ a -> x ∈ b⟩

/-- No address belongs to both blocks. -/
def Disjoint (a b : Block) : Prop :=
  forall x : Address, x ∈ a -> ¬ x ∈ b

theorem subset_iff {a b : Block} : a ⊆ b ↔ b.low ≤ a.low ∧ a.high ≤ b.high := by
  constructor
  · intro h
    exact And.intro (h a.first a.first_mem).left (h a.last a.last_mem).right
  · intro h x hx
    exact And.intro (Nat.le_trans h.left hx.left) (Nat.le_trans hx.right h.right)

theorem disjoint_iff {a b : Block} : a.Disjoint b ↔ a.high < b.low ∨ b.high < a.low := by
  constructor
  · intro h
    -- The higher of the two first addresses would belong to both blocks.
    by_cases hlow : a.low ≤ b.low
    · have hfirst : ¬ b.first ∈ a := fun hmem => h b.first hmem b.first_mem
      have hout : ¬ (a.low ≤ b.low ∧ b.low ≤ a.high) := hfirst
      omega
    · have hout : ¬ (b.low ≤ a.low ∧ a.low ≤ b.high) := h a.first a.first_mem
      omega
  · intro h x hxa hxb
    have ha : a.low ≤ x.value ∧ x.value ≤ a.high := hxa
    have hb : b.low ≤ x.value ∧ x.value ≤ b.high := hxb
    omega

theorem Disjoint.symm {a b : Block} (h : a.Disjoint b) : b.Disjoint a :=
  fun x hb ha => h x ha hb

theorem Disjoint.mono {a a' b b' : Block} (h : a.Disjoint b) (ha : a' ⊆ a) (hb : b' ⊆ b) :
    a'.Disjoint b' :=
  fun x hxa hxb => h x (ha x hxa) (hb x hxb)

/-- A block inside another one has no shorter prefix. -/
theorem length_le_of_subset {a b : Block} (h : a ⊆ b) : b.length ≤ a.length := by
  have hends := subset_iff.mp h
  have ha := a.high_add_one
  have hb := b.high_add_one
  apply Nat.le_of_not_lt
  intro hlt
  have hsize : b.size < a.size := blockSize_lt hlt b.length_le
  omega

theorem contains_iff_subset {a b : Block} : a.contains b = true ↔ b ⊆ a := by
  have hlength := @length_le_of_subset b a
  rw [subset_iff] at hlength ⊢
  simp only [contains, Bool.and_eq_true, decide_eq_true_eq]
  constructor
  · intro h
    exact And.intro h.left.right h.right
  · intro h
    exact ⟨⟨hlength h, h.left⟩, h.right⟩

theorem overlaps_eq_false_iff {a b : Block} : a.overlaps b = false ↔ a.Disjoint b := by
  rw [disjoint_iff]
  simp only [overlaps, Bool.and_eq_false_iff, decide_eq_false_iff_not]
  omega

/-- No two blocks of a list are in conflict exactly when they keep apart pairwise. -/
theorem conflicts_eq_nil_iff {blocks : List Block} :
    conflicts blocks = [] ↔ blocks.Pairwise Block.Disjoint := by
  induction blocks with
  | nil =>
      simp [conflicts]
  | cons block rest ih =>
      rw [conflicts, List.append_eq_nil_iff, List.map_eq_nil_iff, List.filter_eq_nil_iff,
        List.pairwise_cons, ih]
      simp only [Bool.not_eq_true, overlaps_eq_false_iff]

instance (a b : Block) : Decidable (a ⊆ b) :=
  decidable_of_iff _ contains_iff_subset

instance (a b : Block) : Decidable (a.Disjoint b) :=
  decidable_of_iff _ overlaps_eq_false_iff

/-!
# The order of blocks
-/

theorem precedes_iff {a b : Block} :
    a.precedes b = true ↔
      a.address.value < b.address.value ∨
        a.address.value = b.address.value ∧ a.length ≤ b.length := by
  change ((compare a.address.value b.address.value).then (compare a.length b.length)).isLE =
    true ↔ _
  rw [Ordering.isLE_then_iff_or, Nat.compare_eq_lt, Nat.compare_eq_eq, Nat.isLE_compare]

theorem precedes_trans (a b c : Block) (hab : a.precedes b = true) (hbc : b.precedes c = true) :
    a.precedes c = true := by
  rw [precedes_iff] at hab hbc ⊢
  omega

theorem precedes_total (a b : Block) : (a.precedes b || b.precedes a) = true := by
  rw [Bool.or_eq_true, precedes_iff, precedes_iff]
  omega

/-!
# Blocks from a number
-/

theorem length_ofNetwork {start length : Nat} (h : length ≤ 32) :
    (ofNetwork start length).length = length :=
  Nat.min_eq_left h

/-- Neither the narrowing to an address nor the masking of host bits moves an aligned start. -/
theorem address_ofNetwork {start length : Nat} (hlength : length ≤ 32)
    (hlt : start < 4294967296) (hdvd : blockSize length ∣ start) :
    (ofNetwork start length).address.value = start := by
  have hmin : min length 32 = length := Nat.min_eq_left hlength
  have hround : start / blockSize length * blockSize length = start := Nat.div_mul_cancel hdvd
  simp only [ofNetwork, hmin, Nat.mod_eq_of_lt hlt, hround]
  exact Address.value_ofNat_of_lt hlt

theorem low_ofNetwork {start length : Nat} (hlength : length ≤ 32)
    (hlt : start < 4294967296) (hdvd : blockSize length ∣ start) :
    (ofNetwork start length).low = start := by
  unfold low size
  rw [address_ofNetwork hlength hlt hdvd, length_ofNetwork hlength]
  exact Nat.div_mul_cancel hdvd

theorem isNetwork_ofNetwork {start length : Nat} (hlength : length ≤ 32)
    (hlt : start < 4294967296) (hdvd : blockSize length ∣ start) :
    (ofNetwork start length).IsNetwork := by
  rw [isNetwork_iff, address_ofNetwork hlength hlt hdvd, low_ofNetwork hlength hlt hdvd]

theorem high_ofNetwork {start length : Nat} (hlength : length ≤ 32)
    (hlt : start < 4294967296) (hdvd : blockSize length ∣ start) :
    (ofNetwork start length).high + 1 = start + blockSize length := by
  rw [high_add_one, low_ofNetwork hlength hlt hdvd, size, length_ofNetwork hlength]

/-!
# Nesting

Of two blocks that have an address in common, the one with the longer prefix lies inside the other.
-/

private theorem add_le_of_dvd {step m n : Nat} (hm : step ∣ m) (hn : step ∣ n) (h : m < n) :
    m + step ≤ n := by
  have hgap : step ≤ n - m := Nat.le_of_dvd (Nat.sub_pos_of_lt h) (Nat.dvd_sub hn hm)
  omega

theorem subset_of_mem {a b : Block} (hlength : b.length ≤ a.length) {x : Address} (ha : x ∈ a)
    (hb : x ∈ b) : a ⊆ b := by
  have hsize : a.size ∣ b.size := blockSize_dvd hlength
  have hbLow : a.size ∣ b.low := Nat.dvd_trans hsize b.size_dvd_low
  have hbEnd : a.size ∣ b.high + 1 := by
    rw [high_add_one]
    exact Nat.dvd_add hbLow hsize
  rw [mem_iff] at ha hb
  have haEnd := a.high_add_one
  -- Both ends of `b` lie on multiples of the smaller size, so none of them is inside `a`.
  have hlow : ¬ a.low < b.low := by
    intro h
    have hstep := add_le_of_dvd a.size_dvd_low hbLow h
    omega
  have hhigh : a.low + a.size ≤ b.high + 1 :=
    add_le_of_dvd a.size_dvd_low hbEnd (by omega)
  rw [subset_iff]
  omega

theorem eq_of_low_eq {a b : Block} (ha : a.IsNetwork) (hb : b.IsNetwork) (hlow : a.low = b.low)
    (hlength : a.length = b.length) : a = b := by
  apply ext _ hlength
  apply Address.ext
  rw [isNetwork_iff.mp ha, isNetwork_iff.mp hb, hlow]

theorem eq_of_subset {a b : Block} (ha : a.IsNetwork) (hb : b.IsNetwork)
    (hlength : a.length ≤ b.length) (h : a ⊆ b) : a = b := by
  have hsame : a.length = b.length := Nat.le_antisymm hlength (length_le_of_subset h)
  have hsize : a.size = b.size := congrArg blockSize hsame
  have hends := subset_iff.mp h
  have haEnd := a.high_add_one
  have hbEnd := b.high_add_one
  exact eq_of_low_eq ha hb (by omega) hsame

/-!
# The enclosing block
-/

/-- The block that holds an address starts at the last multiple of its size up to the address. -/
theorem mem_ofNetwork {length : Nat} (hlength : length ≤ 32) (x : Address) :
    x ∈ ofNetwork x.value length := by
  have hpos := blockSize_pos length
  have hround := Nat.div_mul_le_self x.value (blockSize length)
  have hlt : x.value / blockSize length * blockSize length < 4294967296 :=
    Nat.lt_of_le_of_lt hround x.value_lt
  have hdvd : blockSize length ∣ x.value / blockSize length * blockSize length :=
    Nat.dvd_mul_left _ _
  have hsame : ofNetwork x.value length =
      ofNetwork (x.value / blockSize length * blockSize length) length := by
    simp only [ofNetwork, Nat.min_eq_left hlength, Nat.mod_eq_of_lt x.value_lt,
      Nat.mod_eq_of_lt hlt, Nat.div_mul_cancel hdvd]
  have hmod := Nat.mod_add_div' x.value (blockSize length)
  have hrest := Nat.mod_lt x.value hpos
  have hend := high_ofNetwork hlength hlt hdvd
  rw [hsame, mem_iff, low_ofNetwork hlength hlt hdvd]
  omega

/-- The block of twice the size that a block is one half of. -/
def enclosing (b : Block) : Block :=
  ofNetwork b.low (b.length - 1)

theorem length_enclosing (b : Block) : b.enclosing.length = b.length - 1 := by
  have hle := b.length_le
  exact length_ofNetwork (by omega)

theorem subset_enclosing (b : Block) : b ⊆ b.enclosing := by
  have hle := b.length_le
  have hfirst : b.first ∈ b.enclosing := mem_ofNetwork (by omega) b.first
  exact subset_of_mem (by rw [length_enclosing]; omega) b.first_mem hfirst

end Block
end NetworkPlan
