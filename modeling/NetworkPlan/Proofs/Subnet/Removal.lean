import NetworkPlan.Document.Subnets
import NetworkPlan.Proofs.Subnet.Soundness

/-!
# Leaving out requests

A run that serves only some of the requests is never further than the run that serves them all:
its cursor stands in an earlier range, or in the same range at no higher address.  Serving a request
keeps this so, wherever the two cursors stand, and so does passing over a request that is left out.
So fewer requests never fail where more of them succeed, and up to the first request that is left
out the two runs are the same.
-/

namespace NetworkPlan

/-!
## Cursors that are behind others
-/

theorem alignUp_mono {n m : Nat} (h : n ≤ m) (step : Nat) : alignUp n step ≤ alignUp m step := by
  unfold alignUp
  exact Nat.mul_le_mul_right step (Nat.div_le_div_right (by omega))

namespace Cursor

/-- The cursor stands in its range or beyond it. -/
def Entered (cursor : Cursor) : Prop :=
  match cursor.ranges with
  | [] => True
  | range :: _ => range.low ≤ cursor.next

/-- A cursor has at least as far to go as another one: it stands in an earlier range, or in the same
one at no higher address. -/
structure Behind (cursor other : Cursor) : Prop where
  entered : cursor.Entered
  other_entered : other.Entered
  passed : exists passed, cursor.ranges = passed ++ other.ranges ∧
    (passed = [] -> cursor.next ≤ other.next)

theorem entered_start (ranges : List Block) : (start ranges).Entered := by
  cases ranges with
  | nil =>
      trivial
  | cons range rest =>
      exact Nat.le_refl range.low

theorem Behind.refl {cursor : Cursor} (h : cursor.Entered) : cursor.Behind cursor :=
  ⟨h, h, [], rfl, fun _ => Nat.le_refl _⟩

theorem Behind.trans {first second third : Cursor} (h : first.Behind second)
    (h' : second.Behind third) : first.Behind third := by
  rcases h.passed with ⟨passed, hranges, hnext⟩
  rcases h'.passed with ⟨passed', hranges', hnext'⟩
  refine ⟨h.entered, h'.other_entered, passed ++ passed', ?_, ?_⟩
  · rw [hranges, hranges', List.append_assoc]
  · intro hnone
    rcases List.append_eq_nil_iff.mp hnone with ⟨hpassed, hpassed'⟩
    exact Nat.le_trans (hnext hpassed) (hnext' hpassed')

/-- A later range is entered at its lowest address, which is behind all of the range. -/
theorem behind_of_entered {ranges passed : List Block} {other : Cursor} (h : other.Entered)
    (hranges : ranges = passed ++ other.ranges) : (start ranges).Behind other := by
  refine ⟨entered_start ranges, h, passed, ?_, ?_⟩
  · rw [ranges_start, hranges]
  · intro hpassed
    rw [hpassed, List.nil_append] at hranges
    rw [hranges]
    unfold Entered at h
    cases hothers : other.ranges with
    | nil =>
        exact Nat.zero_le other.next
    | cons range rest =>
        rw [hothers] at h
        exact h

/-- A step only moves the cursor on. -/
theorem behind_of_take {length : Nat} (hlength : length ≤ 32) {cursor after : Cursor}
    {block : Block} (h : cursor.Entered)
    (htake : take length cursor.ranges cursor.next = some (block, after)) :
    cursor.Behind after := by
  rcases take_eq_some hlength htake with
    ⟨skipped, range, rest, tried, hranges, htried, hplaced⟩
  have hend := hplaced.next_eq_high
  have hafter : after.Entered := by
    have hlow := (Block.subset_iff.mp hplaced.inside).left
    have hblock := block.low_le_high
    unfold Entered
    rw [hplaced.ranges_eq]
    show range.low ≤ after.next
    omega
  refine ⟨h, hafter, skipped, ?_, ?_⟩
  · rw [hplaced.ranges_eq, hranges]
  · intro hskipped
    rcases htried with ⟨_, htried⟩ | ⟨hmoved, _⟩
    · have hlow := hplaced.tried_le_low
      have hblock := block.low_le_high
      omega
    · exact absurd hskipped hmoved

/-- A range that has room from some address on has room from every lower one in it. -/
theorem Fits.mono {length next next' : Nat} {range : Block} (h : Fits length range next')
    (hlow : range.low ≤ next) (hnext : next ≤ next') : Fits length range next := by
  have hpos := blockSize_pos length
  have hstart := le_alignUp (n := next) hpos
  have haligned := alignUp_mono hnext (blockSize length)
  have hroom := h.right
  exact And.intro (by omega) (by omega)

/-!
## Two runs
-/

/-- The step lemma for a block: where a cursor finds one, every cursor behind it finds one, and is
behind it still. -/
theorem take_of_behind {length : Nat} (hlength : length ≤ 32) {ranges : List Block} {next : Nat}
    {other otherAfter : Cursor} {otherBlock : Block} (h : Behind ⟨ranges, next⟩ other)
    (htake : take length other.ranges other.next = some (otherBlock, otherAfter)) :
    exists block after, take length ranges next = some (block, after) ∧
      after.Behind otherAfter := by
  have hother := behind_of_take hlength h.other_entered htake
  induction ranges generalizing next with
  | nil =>
      rcases h.passed with ⟨passed, hranges, _⟩
      rw [(List.append_eq_nil_iff.mp hranges.symm).right] at htake
      cases htake
  | cons range rest ih =>
      rcases h.passed with ⟨passed, hranges, hnext⟩
      have hlow : range.low ≤ next := h.entered
      by_cases hfits : Fits length range next
      · rw [take_of_fits hfits]
        refine ⟨_, _, rfl, ?_, hother.other_entered, ?_⟩
        · exact Nat.le_trans hfits.left (Nat.le_add_right _ _)
        · rcases take_eq_some hlength htake with
            ⟨skipped, found, others, tried, hskipped, htried, hplaced⟩
          refine ⟨passed ++ skipped, ?_, ?_⟩
          · rw [hplaced.ranges_eq, hranges, hskipped, List.append_assoc]
          · -- Both blocks lie in this range, and rounding up keeps the order of the addresses.
            intro hnone
            rcases List.append_eq_nil_iff.mp hnone with ⟨hpassed, hsame⟩
            rcases htried with ⟨_, htried⟩ | ⟨hmoved, _⟩
            · rw [hplaced.next_eq, htried]
              exact Nat.add_le_add_right (alignUp_mono (hnext hpassed) _) _
            · exact absurd hsame hmoved
      · rw [take_of_not_fits hfits]
        cases passed with
        | nil =>
            -- Neither cursor finds room in this range, so both enter the next one.
            rw [List.nil_append] at hranges
            have hothers : ¬ Fits length range other.next := by
              intro hroom
              exact hfits (hroom.mono hlow (hnext rfl))
            rw [← hranges, take_of_not_fits hothers] at htake
            exact ⟨_, _, htake, Behind.refl hother.other_entered⟩
        | cons _ passed =>
            rw [List.cons_append, List.cons.injEq] at hranges
            apply ih
            have hstart := behind_of_entered h.other_entered hranges.right
            rw [← mk_next_start] at hstart
            exact hstart

theorem behind_of_place {cursor after : Cursor} {request : SubnetRequest} {subnet : Subnet}
    (h : cursor.Entered) (hplace : cursor.place request = some (subnet, after)) :
    cursor.Behind after := by
  rcases place_eq_some_iff.mp hplace with ⟨hlength, _hname, _halias, htake⟩
  exact behind_of_take hlength h htake

/-- The step lemma for a request. -/
theorem place_of_behind {cursor other otherAfter : Cursor} {request : SubnetRequest}
    {otherSubnet : Subnet} (h : cursor.Behind other)
    (hplace : other.place request = some (otherSubnet, otherAfter)) :
    exists subnet after, cursor.place request = some (subnet, after) ∧
      after.Behind otherAfter := by
  rcases place_eq_some_iff.mp hplace with ⟨hlength, _hname, _halias, htake⟩
  rcases take_of_behind hlength h htake with ⟨block, after, hfound, hafter⟩
  exact ⟨⟨request.name, request.aliasName, block⟩, after,
    place_eq_some_iff.mpr ⟨hlength, rfl, rfl, hfound⟩, hafter⟩

/-- The run lemma: where a run serves a list of requests, every run from behind it serves some of
them in the same order. -/
theorem placeAll_of_sublist {fewer requests : List SubnetRequest} (hfewer : fewer.Sublist requests)
    {cursor other : Cursor} (h : cursor.Behind other) {subnets : List Subnet}
    (hall : other.placeAll requests = .ok subnets) :
    exists served, cursor.placeAll fewer = .ok served := by
  induction hfewer generalizing cursor other subnets with
  | slnil =>
      exact ⟨[], rfl⟩
  | cons request _hrest ih =>
      rcases placeAll_cons_eq_ok_iff.mp hall with ⟨_, otherAfter, _, hplace, hothers, _⟩
      exact ih (h.trans (behind_of_place h.other_entered hplace)) hothers
  | cons_cons request _hrest ih =>
      rcases placeAll_cons_eq_ok_iff.mp hall with ⟨_, otherAfter, _, hplace, hothers, _⟩
      rcases place_of_behind h hplace with ⟨subnet, after, hfound, hafter⟩
      rcases ih hafter hothers with ⟨served, hserved⟩
      exact ⟨subnet :: served,
        placeAll_cons_eq_ok_iff.mpr ⟨subnet, after, served, hfound, hserved, rfl⟩⟩

/-- What a run has handed out does not depend on what comes after. -/
theorem placeAll_of_append {cursor : Cursor} {first later : List SubnetRequest}
    {subnets : List Subnet} (h : cursor.placeAll (first ++ later) = .ok subnets) :
    cursor.placeAll first = .ok (subnets.take first.length) := by
  induction first generalizing cursor subnets with
  | nil =>
      rfl
  | cons request rest ih =>
      rcases placeAll_cons_eq_ok_iff.mp h with ⟨subnet, after, others, hplace, hrest, rfl⟩
      exact placeAll_cons_eq_ok_iff.mpr ⟨subnet, after, _, hplace, ih hrest, rfl⟩

end Cursor

/-!
## Selections
-/

/-- Requests, each with whether it is kept. -/
abbrev Selection := List (SubnetRequest × Bool)

namespace Selection

def all (selection : Selection) : List SubnetRequest :=
  selection.map Prod.fst

def kept (selection : Selection) : List SubnetRequest :=
  (selection.filter Prod.snd).map Prod.fst

/-- The selection in the order of service. -/
def inOrder (selection : Selection) : Selection :=
  selection.mergeSort fun a b => a.1.prefixLength ≤ b.1.prefixLength

/-- The requests that are served before the first one that is not kept. -/
def untouched (selection : Selection) : List SubnetRequest :=
  all (selection.inOrder.takeWhile Prod.snd)

theorem kept_sublist_all (selection : Selection) : selection.kept.Sublist selection.all :=
  List.filter_sublist.map Prod.fst

/-- Every way to leave out requests is a selection. -/
theorem exists_of_sublist {fewer requests : List SubnetRequest} (h : fewer.Sublist requests) :
    exists selection : Selection, selection.all = requests ∧ selection.kept = fewer := by
  induction h with
  | slnil =>
      exact ⟨[], rfl, rfl⟩
  | cons request _hrest ih =>
      rcases ih with ⟨selection, hall, hkept⟩
      exact ⟨(request, false) :: selection, congrArg (request :: ·) hall, hkept⟩
  | cons_cons request _hrest ih =>
      rcases ih with ⟨selection, hall, hkept⟩
      exact ⟨(request, true) :: selection, congrArg (request :: ·) hall,
        congrArg (request :: ·) hkept⟩

theorem all_inOrder (selection : Selection) : selection.inOrder.all = bySize selection.all :=
  List.map_mergeSort fun _ _ _ _ => rfl

theorem kept_inOrder (selection : Selection) : selection.inOrder.kept = bySize selection.kept := by
  unfold kept inOrder
  rw [filter_mergeSort]
  exact all_inOrder _

theorem untouched_prefix_all (selection : Selection) :
    selection.untouched <+: bySize selection.all := by
  rw [← all_inOrder]
  exact (List.takeWhile_prefix Prod.snd).map Prod.fst

theorem untouched_prefix_kept (selection : Selection) :
    selection.untouched <+: bySize selection.kept := by
  rw [← kept_inOrder]
  have hstays : (selection.inOrder.takeWhile Prod.snd).filter Prod.snd =
      selection.inOrder.takeWhile Prod.snd :=
    List.filter_eq_self.mpr (List.all_eq_true.mp List.all_takeWhile)
  have hfirst : selection.inOrder.takeWhile Prod.snd <+: selection.inOrder.filter Prod.snd := by
    rw [← hstays]
    exact (List.takeWhile_prefix Prod.snd).filter Prod.snd
  exact hfirst.map Prod.fst

end Selection

theorem bySize_sublist {fewer requests : List SubnetRequest} (h : fewer.Sublist requests) :
    (bySize fewer).Sublist (bySize requests) := by
  rcases Selection.exists_of_sublist h with ⟨selection, rfl, rfl⟩
  rw [← selection.kept_inOrder, ← selection.all_inOrder]
  exact selection.inOrder.kept_sublist_all

/-- A request that is longer than those after it, and no shorter than those before it, is served
last. -/
theorem bySize_of_last {before after : List SubnetRequest} {request : SubnetRequest}
    (hbefore : forall r, r ∈ before -> r.prefixLength ≤ request.prefixLength)
    (hafter : forall r, r ∈ after -> r.prefixLength < request.prefixLength) :
    bySize (before ++ request :: after) = bySize (before ++ after) ++ [request] := by
  apply eq_of_ascending (bySize_ascending _)
  · apply List.pairwise_append.mpr
    refine ⟨bySize_ascending _, List.pairwise_singleton _ _, ?_⟩
    intro other hother last hlast
    rw [List.mem_singleton.mp hlast]
    rcases List.mem_append.mp ((bySize_perm _).mem_iff.mp hother) with hmem | hmem
    · exact hbefore other hmem
    · exact Nat.le_of_lt (hafter other hmem)
  · intro length
    rw [filter_bySize, List.filter_append, List.filter_append, filter_bySize, List.filter_append,
      List.append_assoc]
    rw [List.append_cancel_left_eq]
    by_cases hlength : request.prefixLength = length
    · have hnone : after.filter (fun r => r.prefixLength = length) = [] := by
        apply List.filter_eq_nil_iff.mpr
        intro r hr
        have hshort := hafter r hr
        simp only [decide_eq_true_eq]
        omega
      simp [hlength, hnone]
    · simp [hlength]

/-!
## Allocations
-/

theorem placeAll_first {ranges : List Block} {first requests : List SubnetRequest}
    {subnets : List Subnet} (hfirst : first <+: bySize requests)
    (h : allocate ranges requests = .ok subnets) :
    (Cursor.start ranges).placeAll first = .ok (subnets.take first.length) := by
  rcases hfirst with ⟨later, hlater⟩
  unfold allocate at h
  rw [← hlater] at h
  exact Cursor.placeAll_of_append h

theorem allocate_of_sublist {ranges : List Block} {fewer requests : List SubnetRequest}
    {subnets : List Subnet} (hfewer : fewer.Sublist requests)
    (h : allocate ranges requests = .ok subnets) :
    exists served, allocate ranges fewer = .ok served :=
  Cursor.placeAll_of_sublist (bySize_sublist hfewer)
    (Cursor.Behind.refl (Cursor.entered_start ranges)) h

theorem Selection.take_untouched {ranges : List Block} {selection : Selection}
    {subnets served : List Subnet} (hall : allocate ranges selection.all = .ok subnets)
    (hkept : allocate ranges selection.kept = .ok served) :
    List.Forall₂ SubnetRequest.ServedBy selection.untouched
        (subnets.take selection.untouched.length) ∧
      served.take selection.untouched.length = subnets.take selection.untouched.length := by
  have hfirst := placeAll_first selection.untouched_prefix_all hall
  have hsame := placeAll_first selection.untouched_prefix_kept hkept
  rw [hfirst, Except.ok.injEq] at hsame
  exact And.intro (Cursor.placeAll_servedBy hfirst) hsame.symm

theorem allocate_of_last {ranges : List Block} {before after : List SubnetRequest}
    {request : SubnetRequest} {subnets more : List Subnet}
    (hbefore : forall r, r ∈ before -> r.prefixLength ≤ request.prefixLength)
    (hafter : forall r, r ∈ after -> r.prefixLength < request.prefixLength)
    (h : allocate ranges (before ++ after) = .ok subnets)
    (hmore : allocate ranges (before ++ request :: after) = .ok more) :
    exists added, request.ServedBy added ∧ more = subnets ++ [added] := by
  have hlast := bySize_of_last hbefore hafter
  have hfirst : bySize (before ++ after) <+: bySize (before ++ request :: after) := by
    rw [hlast]
    exact List.prefix_append _ _
  have hsubnets : subnets = more.take (bySize (before ++ after)).length :=
    Except.ok.inj (h.symm.trans (placeAll_first hfirst hmore))
  have hserved := List.forall₂_drop (bySize (before ++ after)).length
    (Cursor.placeAll_servedBy hmore)
  rw [hlast, List.drop_left] at hserved
  rcases List.forall₂_cons_left_iff.mp hserved with ⟨added, none, hadded, hnone, hrest⟩
  rw [List.forall₂_nil_left_iff.mp hnone] at hrest
  refine ⟨added, hadded, ?_⟩
  rw [hsubnets, ← hrest, List.take_append_drop]

theorem SubnetDocument.requests_shared_sublist (document : SubnetDocument) {shared without : Settings}
    (hwithout : without.sharedBastionIp? = none) :
    (document.requests shared).Sublist (document.requests without) := by
  have hall : document.requests without = document.descriptions.map SubnetDescription.request := by
    unfold SubnetDocument.requests
    rw [hwithout]
    exact List.filter_eq_self.mpr fun _ _ => rfl
  rw [hall]
  exact List.filter_sublist

/-- Leaving out requests never makes an allocation fail, and the subnets that are served before the
first request that is left out stay as they are.  So a request that is served last moves no subnet,
and an allocation that has room for the local bastion succeeds without it. -/
theorem allocate_fewer (ranges : List Block) :
    (forall (requests fewer : List SubnetRequest) (subnets : List Subnet),
      fewer.Sublist requests -> allocate ranges requests = .ok subnets ->
      exists served, allocate ranges fewer = .ok served ∧
        forall selection : Selection, selection.all = requests -> selection.kept = fewer ->
          List.Forall₂ SubnetRequest.ServedBy selection.untouched
              (subnets.take selection.untouched.length) ∧
            served.take selection.untouched.length =
              subnets.take selection.untouched.length) ∧
    (forall (before : List SubnetRequest) (request : SubnetRequest) (after : List SubnetRequest)
      (subnets more : List Subnet),
      (forall r, r ∈ before -> r.prefixLength ≤ request.prefixLength) ->
      (forall r, r ∈ after -> r.prefixLength < request.prefixLength) ->
      allocate ranges (before ++ after) = .ok subnets ->
      allocate ranges (before ++ request :: after) = .ok more ->
      exists added, request.ServedBy added ∧ more = subnets ++ [added]) ∧
    (forall (document : SubnetDocument) (shared without : Settings) (subnets : List Subnet),
      without.sharedBastionIp? = none ->
      allocate ranges (document.requests without) = .ok subnets ->
      exists served, allocate ranges (document.requests shared) = .ok served) := by
  refine ⟨?_, ?_, ?_⟩
  · intro requests fewer subnets hfewer h
    rcases allocate_of_sublist hfewer h with ⟨served, hserved⟩
    refine ⟨served, hserved, ?_⟩
    intro selection hall hkept
    rw [← hall] at h
    rw [← hkept] at hserved
    exact selection.take_untouched h hserved
  · intro before request after subnets more hbefore hafter h hmore
    exact allocate_of_last hbefore hafter h hmore
  · intro document shared without subnets hwithout h
    exact allocate_of_sublist (document.requests_shared_sublist hwithout) h

/-- The bastion is left out of four requests.  The two subnets served before it stay, the one served
after it moves; had it been asked for after that one, nothing would have moved. -/
theorem allocate_fewer_without_bastion :
    let ranges : List Block :=
      [⟨.ofOctets 10 0 0 0, 29, by decide⟩, ⟨.ofOctets 10 0 1 0, 28, by decide⟩]
    let a : SubnetRequest := ⟨"snet-a", "a", 30, none⟩
    let b : SubnetRequest := ⟨"snet-b", "b", 29, none⟩
    let c : SubnetRequest := ⟨"snet-c", "c", 30, none⟩
    let bastion : SubnetRequest := ⟨"snet-bastion", bastionAlias, 30, none⟩
    let first : Subnet := ⟨"snet-b", "b", ⟨.ofOctets 10 0 0 0, 29, by decide⟩⟩
    let second : Subnet := ⟨"snet-a", "a", ⟨.ofOctets 10 0 1 0, 30, by decide⟩⟩
    let third : Subnet := ⟨"snet-bastion", bastionAlias, ⟨.ofOctets 10 0 1 4, 30, by decide⟩⟩
    let fourth : Subnet := ⟨"snet-c", "c", ⟨.ofOctets 10 0 1 8, 30, by decide⟩⟩
    let moved : Subnet := ⟨"snet-c", "c", ⟨.ofOctets 10 0 1 4, 30, by decide⟩⟩
    let last : Subnet := ⟨"snet-bastion", bastionAlias, ⟨.ofOctets 10 0 1 8, 30, by decide⟩⟩
    let selection : Selection := [(a, true), (bastion, false), (b, true), (c, true)]
    let without : Settings := Settings.record.initial
    let shared : Settings :=
      { without with network := { without.network with sharedBastionIp := "10.9.0.4" } }
    let document : SubnetDocument := ⟨defaultModulesName, defaultLockKind,
      [⟨"snet-a", some "a", none, 30, []⟩, ⟨"snet-bastion", some bastionAlias, none, 30, []⟩,
        ⟨"snet-b", none, some "b", 29, []⟩, ⟨"snet-c", some "c", none, 30, []⟩]⟩
    allocate ranges selection.all = .ok [first, second, third, fourth] ∧
    allocate ranges selection.kept = .ok [first, second, moved] ∧
    selection.untouched = [b, a] ∧
    (exists served, allocate ranges selection.kept = .ok served ∧
      served.take 2 = [first, second]) ∧
    allocate ranges [a, c, bastion, b] = .ok [first, second, moved, last] ∧
    (exists added, bastion.ServedBy added ∧
      [first, second, moved, last] = [first, second, moved] ++ [added]) ∧
    (document.requests shared).length = 3 ∧
    (exists served, allocate ranges (document.requests shared) = .ok served) := by
  intro ranges a b c bastion first second third fourth moved last selection without shared document
  have hall : allocate ranges selection.all = .ok [first, second, third, fourth] := by
    cbv
  have hkept : allocate ranges selection.kept = .ok [first, second, moved] := by
    cbv
  have huntouched : selection.untouched = [b, a] := by
    cbv
  have hmore : allocate ranges [a, c, bastion, b] = .ok [first, second, moved, last] := by
    cbv
  have hdocument : allocate ranges (document.requests without) =
      .ok [first, second, third, fourth] := by
    cbv
  have hfewer := allocate_fewer ranges
  refine ⟨hall, hkept, huntouched, ?_, hmore, ?_, ?_, ?_⟩
  · rcases hfewer.left _ _ _ selection.kept_sublist_all hall with ⟨served, hserved, hsame⟩
    have hfirst := (hsame selection rfl rfl).right
    rw [huntouched] at hfirst
    exact ⟨served, hserved, hfirst⟩
  · have hbefore : forall r, r ∈ [a, c] -> r.prefixLength ≤ bastion.prefixLength := by
      decide
    have hafter : forall r, r ∈ [b] -> r.prefixLength < bastion.prefixLength := by
      decide
    have hless : allocate ranges ([a, c] ++ [b]) = .ok [first, second, moved] := by
      cbv
    exact hfewer.right.left [a, c] bastion [b] _ _ hbefore hafter hless hmore
  · cbv
  · exact hfewer.right.right document shared without _ rfl hdocument

end NetworkPlan
