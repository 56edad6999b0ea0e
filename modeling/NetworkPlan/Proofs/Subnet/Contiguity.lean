import NetworkPlan.Proofs.Subnet.Completeness
import NetworkPlan.Proofs.Subnet.Growth

/-!
# Blocks without gaps

Blocks are laid one right behind the other.  Requests are served largest first, so the cursor always
stands on a multiple of the next block's size and rounding up moves it nowhere; a range is left only
where what is left of it is smaller than the block, and the next range that is large enough is
entered at its lowest address.  This is a full description: it says which blocks are handed out and
which request fails.
-/

namespace NetworkPlan

/-- A block and the position of its range in the list of ranges. -/
structure Placement where
  index : Nat
  block : Block

namespace Placement

def Inside (ranges : List Block) (p : Placement) : Prop :=
  exists range, ranges[p.index]? = some range ∧ p.block ⊆ range

/-- The block lies at the lowest address of its range. -/
def AtStart (ranges : List Block) (p : Placement) : Prop :=
  exists range, ranges[p.index]? = some range ∧ p.block ⊆ range ∧ p.block.low = range.low

theorem AtStart.inside {ranges : List Block} {p : Placement} (h : p.AtStart ranges) :
    p.Inside ranges := by
  rcases h with ⟨range, hrange, hinside, _⟩
  exact ⟨range, hrange, hinside⟩

end Placement

/-- How many addresses are left behind the last block in its range, and how many there are in each
later range.  Without a last block, all ranges are whole. -/
def remaining (ranges : List Block) : Option Placement -> List Nat
  | none => ranges.map Block.size
  | some p =>
      match ranges.drop p.index with
      | [] => []
      | range :: later => (range.high - p.block.high) :: later.map Block.size

/-- No range has enough addresses left for the request, or none could ever have: lengths above 32
name no block. -/
def NoRoom (ranges : List Block) (last : Option Placement) (request : SubnetRequest) : Prop :=
  32 < request.prefixLength ∨
    forall room, room ∈ remaining ranges last -> room < blockSize request.prefixLength

/-- Where a block is laid after the last one: at the start of the first range that is large enough,
right behind the last block in the same range of the list, or, where the block is larger than what
is left there, at the start of the next range that is large enough. -/
inductive Follows (ranges : List Block) : Option Placement -> Placement -> Prop where
  | first {p : Placement} : p.AtStart ranges ->
      (forall room, room ∈ (remaining ranges none).take p.index -> room < p.block.size) ->
      Follows ranges none p
  | behind {last p : Placement} : p.Inside ranges -> p.index = last.index ->
      p.block.low = last.block.high + 1 -> Follows ranges (some last) p
  | later {last p : Placement} : p.AtStart ranges -> last.index < p.index ->
      (forall room, room ∈ (remaining ranges (some last)).take (p.index - last.index) ->
        room < p.block.size) ->
      Follows ranges (some last) p

/-- Blocks laid one after the other, from a last block on up to a new last one. -/
inductive LaidOut (ranges : List Block) :
    Option Placement -> List Placement -> Option Placement -> Prop where
  | done (last : Option Placement) : LaidOut ranges last [] last
  | next {last stop : Option Placement} {p : Placement} {rest : List Placement} :
      Follows ranges last p -> LaidOut ranges (some p) rest stop ->
      LaidOut ranges last (p :: rest) stop

theorem Follows.inside {ranges : List Block} {last : Option Placement} {p : Placement}
    (h : Follows ranges last p) : p.Inside ranges := by
  cases h with
  | first hstart _ =>
      exact hstart.inside
  | behind hinside _ _ =>
      exact hinside
  | later hstart _ _ =>
      exact hstart.inside

namespace Cursor

/-!
# One step
-/

/-- How many addresses each range has ahead of the cursor. -/
def rooms (next : Nat) : List Block -> List Nat
  | [] => []
  | range :: later => (range.high + 1 - next) :: later.map Block.size

theorem rooms_start (ranges : List Block) :
    rooms (start ranges).next ranges = ranges.map Block.size := by
  cases ranges with
  | nil =>
      rfl
  | cons range later =>
      have hend := range.high_add_one
      have hwhole : range.high + 1 - range.low = range.size := by
        omega
      rw [List.map_cons, ← hwhole]
      rfl

theorem entered_low {ranges : List Block} {index : Nat} {range : Block}
    (h : ranges[index]? = some range) :
    (if index = 0 then (start ranges).next else range.low) = range.low := by
  by_cases hindex : index = 0
  · rw [if_pos hindex]
    subst hindex
    cases ranges with
    | nil =>
        cases h
    | cons first rest =>
        cases h
        rfl
  · rw [if_neg hindex]

variable {length next : Nat}

theorem Aligned.fits_iff {range : Block} {rest : List Block}
    (h : Aligned length ⟨range :: rest, next⟩) :
    Fits length range next ↔ blockSize length ≤ range.high + 1 - next := by
  have hstart : range.low ≤ next := h.left
  have hstop : next ≤ range.high + 1 := h.right.left
  have hpos := blockSize_pos length
  by_cases hlarge : range.length ≤ length
  · rw [Fits, h.alignUp_eq hlarge]
    omega
  · -- The range is smaller than the block.
    have hsize : range.size < blockSize length := blockSize_lt (by omega) range.length_le
    have hend := range.high_add_one
    have hround := @le_alignUp next _ hpos
    rw [Fits]
    omega

theorem take_eq_none_iff {ranges : List Block} (h : Aligned length ⟨ranges, next⟩) :
    take length ranges next = none ↔
      forall room, room ∈ rooms next ranges -> room < blockSize length := by
  induction ranges generalizing next with
  | nil =>
      simp [take, rooms]
  | cons range rest ih =>
      rw [rooms, List.forall_mem_cons, ← rooms_start, ← ih (aligned_start_next length rest)]
      by_cases hfits : Fits length range next
      · have hroom := h.fits_iff.mp hfits
        rw [take_of_fits hfits]
        constructor
        · intro hnone
          cases hnone
        · intro hsmall
          omega
      · have hroom := mt h.fits_iff.mpr hfits
        rw [take_of_not_fits hfits]
        constructor
        · intro hnone
          exact ⟨by omega, hnone⟩
        · intro hsmall
          exact hsmall.right

/-- The first of the ranges that has room for a block, the block in it, and the cursor behind the
block. -/
structure FirstFit (length next : Nat) (ranges : List Block) (index : Nat) (block : Block)
    (after : Cursor) : Prop where
  skipped : forall room, room ∈ (rooms next ranges).take index -> room < blockSize length
  inside : exists range, ranges[index]? = some range ∧ block ⊆ range ∧
    block.low = if index = 0 then next else range.low
  length_eq : block.length = length
  isNetwork : block.IsNetwork
  after_eq : after = ⟨ranges.drop index, block.high + 1⟩

namespace FirstFit

variable {range block : Block} {rest : List Block} {after : Cursor}

theorem zero_of_fits (hlength : length ≤ 32) (h : Aligned length ⟨range :: rest, next⟩)
    (hfits : Fits length range next) :
    FirstFit length next (range :: rest) 0
      (Block.ofNetwork (alignUp next (blockSize length)) length)
      ⟨range :: rest, alignUp next (blockSize length) + blockSize length⟩ := by
  have hplaced := placed_of_fits hlength hfits rest
  have hlarge := Block.length_le_of_subset hplaced.inside
  rw [hplaced.length_eq] at hlarge
  exact {
    skipped := by simp
    inside := ⟨range, rfl, hplaced.inside, by rw [if_pos rfl, hplaced.low_eq, h.alignUp_eq hlarge]⟩
    length_eq := hplaced.length_eq
    isNetwork := hplaced.isNetwork
    after_eq := by
      rw [← hplaced.next_eq_high]
      rfl }

theorem room_of_zero (h : FirstFit length next (range :: rest) 0 block after) :
    blockSize length ≤ range.high + 1 - next := by
  rcases h.inside with ⟨found, hfound, hinside, hlow⟩
  cases hfound
  have hends := Block.subset_iff.mp hinside
  have hend := block.high_add_one
  rw [Block.size, h.length_eq] at hend
  rw [if_pos rfl] at hlow
  omega

theorem eq_of_zero {other : Block} {afterOther : Cursor}
    (h : FirstFit length next (range :: rest) 0 block after)
    (hother : FirstFit length next (range :: rest) 0 other afterOther) :
    block = other ∧ after = afterOther := by
  rcases h.inside with ⟨_, _, _, hlow⟩
  rcases hother.inside with ⟨_, _, _, hotherLow⟩
  have hsame : block = other :=
    Block.eq_of_low_eq h.isNetwork hother.isNetwork (hlow.trans hotherLow.symm)
      (h.length_eq.trans hother.length_eq.symm)
  rw [h.after_eq, hother.after_eq, hsame]
  exact ⟨rfl, rfl⟩

/-- Where the first range has no room, the search goes on from the start of the next one. -/
theorem succ_iff {index : Nat} :
    FirstFit length next (range :: rest) (index + 1) block after ↔
      range.high + 1 - next < blockSize length ∧
        FirstFit length (start rest).next rest index block after := by
  have hskipped : (forall room, room ∈ (rooms next (range :: rest)).take (index + 1) ->
      room < blockSize length) ↔ range.high + 1 - next < blockSize length ∧
        forall room, room ∈ (rooms (start rest).next rest).take index ->
          room < blockSize length := by
    rw [rooms, List.take_succ_cons, List.forall_mem_cons, rooms_start]
  constructor
  · intro h
    rcases hskipped.mp h.skipped with ⟨hroom, hrest⟩
    rcases h.inside with ⟨found, hfound, hinside, hlow⟩
    refine ⟨hroom, hrest, ⟨found, hfound, hinside, ?_⟩, h.length_eq, h.isNetwork, h.after_eq⟩
    rw [@entered_low rest index found hfound, hlow, if_neg (Nat.succ_ne_zero index)]
  · intro h
    rcases h with ⟨hroom, h⟩
    rcases h.inside with ⟨found, hfound, hinside, hlow⟩
    refine ⟨hskipped.mpr ⟨hroom, h.skipped⟩, ⟨found, hfound, hinside, ?_⟩, h.length_eq,
      h.isNetwork, h.after_eq⟩
    rw [if_neg (Nat.succ_ne_zero index), hlow, entered_low hfound]

end FirstFit

theorem take_eq_some_iff (hlength : length ≤ 32) {ranges : List Block}
    (h : Aligned length ⟨ranges, next⟩) {block : Block} {after : Cursor} :
    take length ranges next = some (block, after) ↔
      exists index, FirstFit length next ranges index block after := by
  induction ranges generalizing next with
  | nil =>
      constructor
      · intro htake
        cases htake
      · intro hfirst
        rcases hfirst with ⟨_, hfirst⟩
        rcases hfirst.inside with ⟨_, hnone, _⟩
        cases hnone
  | cons range rest ih =>
      have hrest := ih (aligned_start_next length rest)
      by_cases hfits : Fits length range next
      · have hzero := FirstFit.zero_of_fits hlength h hfits
        rw [take_of_fits hfits, Option.some.injEq, Prod.mk.injEq]
        constructor
        · intro heq
          rcases heq with ⟨rfl, rfl⟩
          exact ⟨0, hzero⟩
        · intro hfirst
          rcases hfirst with ⟨index, hfirst⟩
          cases index with
          | zero =>
              exact hzero.eq_of_zero hfirst
          | succ index =>
              have hroom := h.fits_iff.mp hfits
              have hsmall := (FirstFit.succ_iff.mp hfirst).left
              omega
      · have hsmall := mt h.fits_iff.mpr hfits
        rw [take_of_not_fits hfits, hrest]
        constructor
        · intro hfirst
          rcases hfirst with ⟨index, hfirst⟩
          exact ⟨index + 1, FirstFit.succ_iff.mpr ⟨by omega, hfirst⟩⟩
        · intro hfirst
          rcases hfirst with ⟨index, hfirst⟩
          cases index with
          | zero =>
              exact absurd hfirst.room_of_zero hsmall
          | succ index =>
              exact ⟨index, (FirstFit.succ_iff.mp hfirst).right⟩

/-!
# Cursors and placements
-/

/-- The cursor just behind the last block. -/
def after (ranges : List Block) : Option Placement -> Cursor
  | none => start ranges
  | some p => ⟨ranges.drop p.index, p.block.high + 1⟩

theorem rooms_after (ranges : List Block) (last : Option Placement) :
    rooms (after ranges last).next (after ranges last).ranges = remaining ranges last := by
  cases last with
  | none =>
      rw [after, ranges_start, rooms_start]
      rfl
  | some p =>
      simp only [after, remaining]
      cases ranges.drop p.index with
      | nil =>
          rfl
      | cons range later =>
          rw [rooms, Nat.add_sub_add_right]

theorem aligned_after {ranges : List Block} {p : Placement} (h : p.Inside ranges)
    (hlength : p.block.length ≤ length) : Aligned length (after ranges (some p)) := by
  rcases h with ⟨range, hrange, hinside⟩
  have hdrop : ranges.drop p.index = range :: ranges.drop (p.index + 1) := by
    rcases List.getElem?_eq_some_iff.mp hrange with ⟨hlt, rfl⟩
    exact List.drop_eq_getElem_cons hlt
  have hends := Block.subset_iff.mp hinside
  have horder := p.block.low_le_high
  unfold Aligned after
  simp only [hdrop]
  refine ⟨by omega, by omega, ?_⟩
  intro m hm _
  have hsize : blockSize m ∣ p.block.size := blockSize_dvd (Nat.le_trans hlength hm)
  rw [Block.high_add_one]
  exact Nat.dvd_add (Nat.dvd_trans hsize p.block.size_dvd_low) hsize

theorem FirstFit.exists_follows {ranges : List Block} {last : Option Placement} {index : Nat}
    {block : Block} {moved : Cursor}
    (h : FirstFit length (after ranges last).next (after ranges last).ranges index block moved) :
    exists p, Follows ranges last p ∧ p.block = block ∧ moved = after ranges (some p) := by
  have hskipped := h.skipped
  rw [rooms_after, ← h.length_eq] at hskipped
  rcases h.inside with ⟨range, hrange, hinside, hlow⟩
  have hmoved := h.after_eq
  cases last with
  | none =>
      simp only [after, ranges_start] at hrange hlow hmoved
      rw [entered_low hrange] at hlow
      exact ⟨⟨index, block⟩, .first ⟨range, hrange, hinside, hlow⟩ hskipped, rfl, hmoved⟩
  | some last =>
      -- Positions count from the range of the last block on.
      simp only [after, List.getElem?_drop, List.drop_drop] at hrange hlow hmoved
      refine ⟨⟨last.index + index, block⟩, ?_, rfl, hmoved⟩
      cases index with
      | zero =>
          exact .behind ⟨range, hrange, hinside⟩ rfl hlow
      | succ index =>
          refine .later ⟨range, hrange, hinside, hlow⟩ (by simp only; omega) ?_
          simp only [Nat.add_sub_cancel_left]
          exact hskipped

theorem Follows.exists_firstFit {ranges : List Block} {last : Option Placement} {p : Placement}
    (h : Follows ranges last p) (hlength : p.block.length = length)
    (hnetwork : p.block.IsNetwork) :
    exists index, FirstFit length (after ranges last).next (after ranges last).ranges index p.block
      (after ranges (some p)) := by
  cases h with
  | first hstart hskipped =>
      rcases hstart with ⟨range, hrange, hinside, hlow⟩
      refine ⟨p.index, ?_, ⟨range, ?_, hinside, ?_⟩, hlength, hnetwork, ?_⟩
      · rw [rooms_after, ← hlength]
        exact hskipped
      · rw [after, ranges_start]
        exact hrange
      · rw [after, entered_low hrange]
        exact hlow
      · rw [after, after, ranges_start]
  | behind hinside hindex hlow =>
      rcases hinside with ⟨range, hrange, hinside⟩
      rw [hindex] at hrange
      refine ⟨0, by simp, ⟨range, ?_, hinside, hlow⟩, hlength, hnetwork, ?_⟩
      · simp only [after, List.getElem?_drop, Nat.add_zero]
        exact hrange
      · rw [after, hindex]
        rfl
  | @later last p hstart hindex hskipped =>
      rcases hstart with ⟨range, hrange, hinside, hlow⟩
      have hsum : last.index + (p.index - last.index) = p.index := by
        omega
      refine ⟨p.index - last.index, ?_, ⟨range, ?_, hinside, ?_⟩, hlength, hnetwork, ?_⟩
      · rw [rooms_after, ← hlength]
        exact hskipped
      · simp only [after, List.getElem?_drop, hsum]
        exact hrange
      · rw [if_neg (by omega)]
        exact hlow
      · simp only [after, List.drop_drop, hsum]

/-- The step lemma: a request is served by the block that follows the last one. -/
theorem place_after_iff {ranges : List Block} {last : Option Placement} {request : SubnetRequest}
    (haligned : Aligned request.prefixLength (after ranges last)) {subnet : Subnet}
    {moved : Cursor} :
    (after ranges last).place request = some (subnet, moved) ↔
      request.ServedBy subnet ∧ exists p, Follows ranges last p ∧ p.block = subnet.block ∧
        moved = after ranges (some p) := by
  rw [place_eq_some_iff]
  constructor
  · intro h
    rcases h with ⟨hlength, hname, halias, htake⟩
    rcases (take_eq_some_iff hlength haligned).mp htake with ⟨_, hfirst⟩
    exact ⟨⟨hname, halias, hfirst.length_eq, hfirst.isNetwork⟩, hfirst.exists_follows⟩
  · intro h
    rcases h with ⟨hserved, p, hfollows, hblock, rfl⟩
    have hlength : request.prefixLength ≤ 32 := by
      rw [← hserved.length_eq]
      exact subnet.block.length_le
    refine ⟨hlength, hserved.name_eq, hserved.alias_eq, ?_⟩
    rw [← hblock]
    apply (take_eq_some_iff hlength haligned).mpr
    apply Follows.exists_firstFit hfollows
    · rw [hblock, hserved.length_eq]
    · rw [hblock]
      exact hserved.isNetwork

/-- The step lemma for failure: a request finds no place where no range has enough addresses left. -/
theorem place_after_eq_none_iff {ranges : List Block} {last : Option Placement}
    {request : SubnetRequest} (haligned : Aligned request.prefixLength (after ranges last)) :
    (after ranges last).place request = none ↔ NoRoom ranges last request := by
  have htake := @take_eq_none_iff _ (after ranges last).next (after ranges last).ranges haligned
  rw [place_eq_none_iff, htake, rooms_after]
  rfl

/-!
# Whole runs
-/

theorem aligned_behind {ranges : List Block} {last : Option Placement} {p : Placement}
    {request : SubnetRequest} {subnet : Subnet} {rest : List SubnetRequest}
    (hfollows : Follows ranges last p) (hblock : p.block = subnet.block)
    (hserved : request.ServedBy subnet)
    (hhead : forall other, other ∈ rest -> request.prefixLength ≤ other.prefixLength) :
    forall other, other ∈ rest -> Aligned other.prefixLength (after ranges (some p)) := by
  intro other hother
  apply aligned_after hfollows.inside
  rw [hblock, hserved.length_eq]
  exact hhead other hother

/-- The run lemma: the requests are served by blocks laid one after the other. -/
theorem placeAll_after_eq_ok_iff {ranges : List Block} {last : Option Placement}
    {requests : List SubnetRequest} {subnets : List Subnet}
    (haligned : forall request, request ∈ requests ->
      Aligned request.prefixLength (after ranges last))
    (hascending : requests.Pairwise fun a b => a.prefixLength ≤ b.prefixLength) :
    (after ranges last).placeAll requests = .ok subnets ↔
      List.Forall₂ SubnetRequest.ServedBy requests subnets ∧
        exists placements stop, LaidOut ranges last placements stop ∧
          placements.map (·.block) = subnets.map (·.block) := by
  induction requests generalizing last subnets with
  | nil =>
      constructor
      · intro h
        cases h
        exact ⟨List.Forall₂.nil, [], last, .done last, rfl⟩
      · intro h
        cases h.left
        rfl
  | cons request rest ih =>
      rcases List.pairwise_cons.mp hascending with ⟨hhead, htail⟩
      have hstep := @place_after_iff ranges last request (haligned request List.mem_cons_self)
      rw [placeAll_cons_eq_ok_iff]
      constructor
      · intro h
        rcases h with ⟨subnet, moved, others, hplace, hrest, rfl⟩
        rcases hstep.mp hplace with ⟨hserved, p, hfollows, hblock, rfl⟩
        rcases (ih (aligned_behind hfollows hblock hserved hhead) htail).mp hrest with
          ⟨hothers, placements, stop, hlaid, hblocks⟩
        refine ⟨List.Forall₂.cons hserved hothers, p :: placements, stop,
          .next hfollows hlaid, ?_⟩
        rw [List.map_cons, List.map_cons, hblock, hblocks]
      · intro h
        rcases h with ⟨hall, placements, stop, hlaid, hblocks⟩
        cases hall with
        | @cons _ subnet _ others hserved hothers =>
            cases hlaid with
            | done =>
                cases hblocks
            | @next _ _ p placements hfollows hlaid =>
                rcases List.cons.inj hblocks with ⟨hblock, hblocks⟩
                exact ⟨subnet, after ranges (some p), others,
                  hstep.mpr ⟨hserved, p, hfollows, hblock, rfl⟩,
                  (ih (aligned_behind hfollows hblock hserved hhead) htail).mpr
                    ⟨hothers, placements, stop, hlaid, hblocks⟩,
                  rfl⟩

/-- The run lemma for failure: the requests before the one that is named are served, and it finds
no room behind them. -/
theorem placeAll_after_eq_error_iff {ranges : List Block} {last : Option Placement}
    {requests : List SubnetRequest} {failed : SubnetRequest}
    (haligned : forall request, request ∈ requests ->
      Aligned request.prefixLength (after ranges last))
    (hascending : requests.Pairwise fun a b => a.prefixLength ≤ b.prefixLength) :
    (after ranges last).placeAll requests = .error failed ↔
      exists before rest served placements stop, requests = before ++ failed :: rest ∧
        List.Forall₂ SubnetRequest.ServedBy before served ∧
        LaidOut ranges last placements stop ∧
        placements.map (·.block) = served.map (·.block) ∧ NoRoom ranges stop failed := by
  induction requests generalizing last with
  | nil =>
      constructor
      · intro h
        cases h
      · intro h
        rcases h with ⟨before, rest, _, _, _, hsplit, _⟩
        simp at hsplit
  | cons request rest ih =>
      rcases List.pairwise_cons.mp hascending with ⟨hhead, htail⟩
      have hrequest := haligned request List.mem_cons_self
      have hstep := @place_after_iff ranges last request hrequest
      have hnone := place_after_eq_none_iff hrequest
      rw [placeAll_cons_eq_error_iff]
      constructor
      · intro h
        rcases h with ⟨hplace, rfl⟩ | ⟨subnet, moved, hplace, hrest⟩
        · exact ⟨[], rest, [], [], last, rfl, List.Forall₂.nil, .done last, rfl,
            hnone.mp hplace⟩
        · rcases hstep.mp hplace with ⟨hserved, p, hfollows, hblock, rfl⟩
          rcases (ih (aligned_behind hfollows hblock hserved hhead) htail).mp hrest with
            ⟨before, others, served, placements, stop, rfl, hothers, hlaid, hblocks, hroom⟩
          refine ⟨request :: before, others, subnet :: served, p :: placements, stop, rfl,
            List.Forall₂.cons hserved hothers, .next hfollows hlaid, ?_, hroom⟩
          rw [List.map_cons, List.map_cons, hblock, hblocks]
      · intro h
        rcases h with ⟨before, others, served, placements, stop, hsplit, hall, hlaid, hblocks,
          hroom⟩
        cases hall with
        | nil =>
            rcases List.cons.inj hsplit with ⟨rfl, _⟩
            cases hlaid with
            | done =>
                exact Or.inl ⟨hnone.mpr hroom, rfl⟩
            | next =>
                cases hblocks
        | @cons _ subnet before served hserved hothers =>
            rcases List.cons.inj hsplit with ⟨rfl, hremaining⟩
            cases hlaid with
            | done =>
                cases hblocks
            | @next _ _ p placements hfollows hlaid =>
                rcases List.cons.inj hblocks with ⟨hblock, hblocks⟩
                exact Or.inr ⟨subnet, after ranges (some p),
                  hstep.mpr ⟨hserved, p, hfollows, hblock, rfl⟩,
                  (ih (aligned_behind hfollows hblock hserved hhead) htail).mpr
                    ⟨before, others, served, placements, stop, hremaining, hothers, hlaid,
                      hblocks, hroom⟩⟩

end Cursor

/-!
# Allocations
-/

/-- Requests are served, largest first, by blocks laid one after the other without gaps, and the
first one that finds no room behind those before it is the one that fails. -/
theorem allocate_gapless (ranges : List Block) (requests : List SubnetRequest) :
    (forall subnets, allocate ranges requests = .ok subnets ↔
      exists order placements stop, StablySorted requests order ∧
        List.Forall₂ SubnetRequest.ServedBy order subnets ∧
        LaidOut ranges none placements stop ∧
        placements.map (·.block) = subnets.map (·.block)) ∧
    (forall failed, allocate ranges requests = .error failed ↔
      exists before rest served placements stop,
        StablySorted requests (before ++ failed :: rest) ∧
        allocate ranges before = .ok served ∧
        LaidOut ranges none placements stop ∧
        placements.map (·.block) = served.map (·.block) ∧ NoRoom ranges stop failed) := by
  have haligned (order : List SubnetRequest) : forall request, request ∈ order ->
      Cursor.Aligned request.prefixLength (Cursor.after ranges none) :=
    fun request _ => Cursor.aligned_start request.prefixLength ranges
  have hordered := bySize_ascending requests
  constructor
  · intro subnets
    rw [allocate, ← Cursor.after, Cursor.placeAll_after_eq_ok_iff (haligned _) hordered]
    constructor
    · intro h
      rcases h with ⟨hserved, placements, stop, hlaid, hblocks⟩
      exact ⟨bySize requests, placements, stop, stablySorted_bySize requests, hserved, hlaid,
        hblocks⟩
    · intro h
      rcases h with ⟨order, placements, stop, hsorted, hserved, hlaid, hblocks⟩
      rw [hsorted.eq_bySize] at hserved
      exact ⟨hserved, placements, stop, hlaid, hblocks⟩
  · intro failed
    rw [allocate, ← Cursor.after, Cursor.placeAll_after_eq_error_iff (haligned _) hordered]
    constructor
    · intro h
      rcases h with ⟨before, rest, served, placements, stop, hsplit, hserved, hlaid, hblocks,
        hroom⟩
      refine ⟨before, rest, served, placements, stop, ?_, ?_, hlaid, hblocks, hroom⟩
      · rw [← hsplit]
        exact stablySorted_bySize requests
      · rw [hsplit] at hordered
        have hbefore := hordered.sublist (List.sublist_append_left before (failed :: rest))
        rw [allocate_of_ascending hbefore, ← Cursor.after,
          Cursor.placeAll_after_eq_ok_iff (haligned _) hbefore]
        exact ⟨hserved, placements, stop, hlaid, hblocks⟩
    · intro h
      rcases h with ⟨before, rest, served, placements, stop, hsorted, hbefore, hlaid, hblocks,
        hroom⟩
      have hfirst := hsorted.ascending.sublist
        (List.sublist_append_left before (failed :: rest))
      rw [allocate_of_ascending hfirst] at hbefore
      exact ⟨before, rest, served, placements, stop, hsorted.eq_bySize.symm,
        Cursor.placeAll_servedBy hbefore, hlaid, hblocks, hroom⟩

/-- The first range is left for good where it is too small for the largest block. -/
example :
    allocate [⟨.ofOctets 10 0 0 0, 29, by decide⟩, ⟨.ofOctets 10 0 1 0, 28, by decide⟩]
        [⟨"snet-a", "a", 29, none⟩, ⟨"snet-b", "b", 28, none⟩] =
      .error ⟨"snet-a", "a", 29, none⟩ := by
  cbv

end NetworkPlan
