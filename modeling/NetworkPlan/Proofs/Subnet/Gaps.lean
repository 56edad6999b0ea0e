import Mathlib
import NetworkPlan.Proofs.Subnet.FreeSpace

/-!
# Gaps

A gap is filled in rounds: each appends the widest block that may start at the cursor and moves the
cursor behind it.  A block of a single address always may, so no round leaves the cursor where it
was and none goes beyond the end; the blocks lie end to end and the last one ends with the gap.
-/

namespace NetworkPlan

/-!
# The widest block at an address
-/

theorem le_widestLength {least : Nat} (h : least ≤ 32) (start stop : Nat) :
    least ≤ widestLength start least stop := by
  have hbound :=
    widestExponent_le start stop (32 - max least (Address.ofNat start).alignment)
  unfold widestLength
  omega

/-- Among the lengths of blocks that may start at an address there is a least one, the length of
the widest block. -/
theorem isLeast_widestLength {start least stop : Nat} (hlt : start < stop)
    (hstop : stop ≤ 4294967296) (hleast : least ≤ 32) :
    IsLeast {length | least ≤ length ∧ length ≤ 32 ∧ blockSize length ∣ start ∧
      start + blockSize length ≤ stop} (widestLength start least stop) := by
  have hstart : start < 4294967296 := Nat.lt_of_lt_of_le hlt hstop
  constructor
  · exact ⟨le_widestLength hleast start stop, widestLength_le start least stop,
      blockSize_widestLength_dvd hstart least stop, add_blockSize_widestLength_le hlt least⟩
  · intro length h
    rcases h with ⟨hle, hlength, hdvd, hfits⟩
    exact widestLength_le_of_fits hstart hlength hle hdvd hfits

/-!
# Rounds
-/

/-- One round of filling a gap that ends before `stop`: the widest block at the cursor is appended
to what is there, and the cursor moves behind it. -/
def fillRound (range : Block) (stop : Nat) (state : Nat × List FreeBlock) : Nat × List FreeBlock :=
  let (cursor, out) := state
  if cursor < stop then
    let length := widestLength cursor range.length stop
    (cursor + blockSize length, out ++ [⟨range, Block.ofNetwork cursor length⟩])
  else (cursor, out)

/-- The gap is full after as many rounds as there are blocks, and then the cursor is at its end. -/
theorem iterate_fillRound (range : Block) {start stop : Nat} (hle : start ≤ stop)
    (out : List FreeBlock) :
    (fillRound range stop)^[(fillGap range start stop).length] (start, out) =
      (stop, out ++ fillGap range start stop) := by
  fun_induction fillGap range start stop generalizing out with
  | case1 start hlt length ih =>
      have hround : fillRound range stop (start, out) =
          (start + blockSize length, out ++ [⟨range, Block.ofNetwork start length⟩]) :=
        if_pos hlt
      rw [List.length_cons, Function.iterate_succ_apply, hround,
        ih (add_blockSize_widestLength_le hlt range.length), List.append_assoc]
      rfl
  | case2 start hge =>
      have hstop : start = stop := by
        omega
      rw [hstop, List.append_nil]
      rfl

/-!
# Blocks end to end
-/

/-- Blocks that lie end to end from one address up to, but not including, another. -/
inductive EndToEnd : Nat -> Nat -> List Block -> Prop where
  | nil (stop : Nat) : EndToEnd stop stop []
  | cons {block : Block} {stop : Nat} {rest : List Block} :
      EndToEnd (block.high + 1) stop rest -> EndToEnd block.low stop (block :: rest)

/-- There are no more blocks end to end than addresses. -/
theorem EndToEnd.length_le {start stop : Nat} {blocks : List Block}
    (h : EndToEnd start stop blocks) : start + blocks.length ≤ stop := by
  induction h with
  | nil stop =>
      exact Nat.le_refl _
  | @cons block stop rest _ ih =>
      have hends := block.low_le_high
      rw [List.length_cons]
      omega

theorem Filling.endToEnd {range : Block} {start stop : Nat} {free : List FreeBlock}
    (h : Filling range stop start free) (hle : start ≤ stop) :
    EndToEnd start stop (free.map (·.block)) := by
  induction h with
  | done hge =>
      rw [Nat.le_antisymm hle hge]
      exact EndToEnd.nil stop
  | @next start block rest _ hwidest _ ih =>
      rw [← hwidest.low_eq]
      exact EndToEnd.cons (ih hwidest.high_lt)

/-- Every block of a filling has the least length that a block at its place may have. -/
theorem length_of_mem_fillGap {range : Block} {start stop : Nat} (hstop : stop ≤ 4294967296)
    {f : FreeBlock} (hf : f ∈ fillGap range start stop) :
    f.block.length = widestLength f.block.low range.length stop := by
  fun_induction fillGap range start stop with
  | case1 start hlt length ih =>
      rcases List.mem_cons.mp hf with rfl | hrest
      · have hwidest : Widest range start stop (Block.ofNetwork start length) :=
          widest_ofNetwork range hlt hstop
        rw [hwidest.low_eq]
        exact Block.length_ofNetwork (widestLength_le start range.length stop)
      · exact ih hrest
  | case2 start hge =>
      cases hf

/-- An address is left as it is by masks from its alignment on.  The widest block at a place has the
least of the lengths, of which there is always one, that keep it aligned, no wider than the range
and before the end of the gap.  In as many rounds as there are blocks, and so no more than there are
addresses, a gap is filled with such blocks; they lie end to end and hold each of its addresses
once and no others. -/
theorem gaps_filled_end_to_end :
    (forall (a : Address) (length : Nat), length ≤ 32 ->
      (a.value &&& maskBits length = a.value ↔ a.alignment ≤ length) ∧
      (Block.ofNetwork a.value length).address.value = a.value &&& maskBits length) ∧
    (forall start least stop : Nat, start < stop -> stop ≤ 4294967296 -> least ≤ 32 ->
      IsLeast {length | least ≤ length ∧ length ≤ 32 ∧ 2 ^ (32 - length) ∣ start ∧
        start + 2 ^ (32 - length) ≤ stop} (widestLength start least stop)) ∧
    (forall (range : Block) (start stop : Nat) (out : List FreeBlock),
      start ≤ stop -> stop ≤ 4294967296 ->
      let free := fillGap range start stop
      (fillRound range stop)^[free.length] (start, out) = (stop, out ++ free) ∧
      free.length ≤ stop - start ∧ EndToEnd start stop (free.map (·.block)) ∧
      (forall f, f ∈ free -> f.range = range ∧ f.block.IsNetwork ∧
        f.block.length = widestLength f.block.low range.length stop) ∧
      (forall x : Address, free.countP (fun f => x ∈ f.block) =
        if start ≤ x.value ∧ x.value < stop then 1 else 0)) := by
  refine ⟨?_, ?_, ?_⟩
  · intro a length hlength
    exact ⟨a.and_maskBits_eq_iff hlength, Block.value_ofNetwork hlength a⟩
  · intro start least stop hlt hstop hleast
    exact isLeast_widestLength hlt hstop hleast
  · intro range start stop out hle hstop free
    have hfilling : Filling range stop start free := filling_fillGap range start hstop
    have hends : EndToEnd start stop (free.map (·.block)) := hfilling.endToEnd hle
    have hlength := hends.length_le
    rw [List.length_map] at hlength
    refine ⟨iterate_fillRound range hle out, by omega, hends, ?_, hfilling.holding_eq⟩
    intro f hf
    rcases hfilling.of_mem hf with ⟨hrange, hnetwork, _, _⟩
    exact ⟨hrange, hnetwork, length_of_mem_fillGap hstop hf⟩

/-- The gap behind 255.255.255.63 is filled in two rounds, behind a block that is there already, and
the last block ends with the address space. -/
theorem gap_filled_to_end_of_space :
    let range : Block := ⟨.ofOctets 255 255 255 0, 24, by decide⟩
    let before : FreeBlock := ⟨range, ⟨.ofOctets 255 255 255 0, 27, by decide⟩⟩
    let free : List FreeBlock := [⟨range, ⟨.ofOctets 255 255 255 64, 26, by decide⟩⟩,
      ⟨range, ⟨.ofOctets 255 255 255 128, 25, by decide⟩⟩]
    26 ≤ 32 ∧ 4294967104 &&& maskBits 26 = 4294967104 ∧ 4294967104 &&& maskBits 25 ≠ 4294967104 ∧
    4294967104 < 4294967296 ∧ 24 ≤ 32 ∧
    IsLeast {length | 24 ≤ length ∧ length ≤ 32 ∧ 2 ^ (32 - length) ∣ 4294967104 ∧
      4294967104 + 2 ^ (32 - length) ≤ 4294967296} 26 ∧
    (fillRound range 4294967296)^[2] (4294967104, [before]) = (4294967296, before :: free) ∧
    EndToEnd 4294967104 4294967296 (free.map (·.block)) := by
  intro range before free
  have hfree : fillGap range 4294967104 4294967296 = free := by
    cbv
  have hwidest : widestLength 4294967104 24 4294967296 = 26 := by
    cbv
  rcases gaps_filled_end_to_end with ⟨hmask, hleast, hfill⟩
  have hkept := hmask (.ofOctets 255 255 255 64) 26 (by decide)
  have hmasked := hmask (.ofOctets 255 255 255 64) 25 (by decide)
  have hfirst := hleast 4294967104 24 4294967296 (by decide) (by decide) (by decide)
  have hrounds := hfill range 4294967104 4294967296 [before] (by decide) (by decide)
  rw [hwidest] at hfirst
  rw [hfree] at hrounds
  exact ⟨by decide, hkept.left.mpr (by decide), fun h => absurd (hmasked.left.mp h) (by decide),
    by decide, by decide, hfirst, hrounds.left, hrounds.right.right.left⟩

end NetworkPlan
