import Mathlib.Data.List.Permutation
import NetworkPlan.Proofs.Subnet.Cursor

/-!
# Reordering requests

The allocator sorts the requests and then reads nothing of them but their prefix lengths, so the
order in which they are made decides only which of several requests of one length gets which of
their blocks.
-/

namespace NetworkPlan

/-- Requests of one length stand in the same order in both lists. -/
def SameTies (requests reordered : List SubnetRequest) : Prop :=
  forall length : Nat, reordered.filter (fun r => r.prefixLength = length) =
    requests.filter (fun r => r.prefixLength = length)

theorem sameTies_swap {first second : SubnetRequest}
    (hlength : first.prefixLength ≠ second.prefixLength) (rest : List SubnetRequest) :
    SameTies (first :: second :: rest) (second :: first :: rest) := by
  intro length
  by_cases hfirst : first.prefixLength = length
  · have hsecond : second.prefixLength ≠ length := by
      rw [← hfirst]
      exact hlength.symm
    simp [hfirst, hsecond]
  · simp [List.filter_cons, hfirst]

/-!
## The order of service
-/

theorem prefixLength_bySize_of_perm {requests reordered : List SubnetRequest}
    (hperm : reordered.Perm requests) :
    (bySize reordered).map (·.prefixLength) = (bySize requests).map (·.prefixLength) := by
  have hlengths : ((bySize reordered).map (·.prefixLength)).Perm
      ((bySize requests).map (·.prefixLength)) :=
    ((bySize_perm reordered).trans (hperm.trans (bySize_perm requests).symm)).map _
  exact List.Perm.eq_of_pairwise (fun _ _ _ _ => Nat.le_antisymm)
    (List.pairwise_map.mpr (bySize_ascending reordered))
    (List.pairwise_map.mpr (bySize_ascending requests)) hlengths

theorem bySize_of_sameTies {requests reordered : List SubnetRequest}
    (hties : SameTies requests reordered) : bySize reordered = bySize requests := by
  apply eq_of_ascending (bySize_ascending reordered) (bySize_ascending requests)
  intro length
  rw [filter_bySize, filter_bySize]
  exact hties length

/-!
## Runs
-/

namespace Cursor

/-- The step lemma: two requests of one length get the same block. -/
theorem place_of_prefixLength_eq {cursor after : Cursor} {first second : SubnetRequest}
    {subnet : Subnet} (hlength : first.prefixLength = second.prefixLength)
    (h : cursor.place first = some (subnet, after)) :
    cursor.place second = some (⟨second.name, second.aliasName, subnet.block⟩, after) := by
  rcases place_eq_some_iff.mp h with ⟨hshort, _hname, _halias, htake⟩
  rw [hlength] at hshort htake
  exact place_eq_some_iff.mpr ⟨hshort, rfl, rfl, htake⟩

/-- The run lemma: requests of the same lengths get the same blocks. -/
theorem placeAll_of_prefixLengths_eq {cursor : Cursor} {first second : List SubnetRequest}
    {subnets : List Subnet}
    (hlengths : first.map (·.prefixLength) = second.map (·.prefixLength))
    (h : cursor.placeAll first = .ok subnets) :
    exists others, cursor.placeAll second = .ok others ∧
      others.map (·.block) = subnets.map (·.block) := by
  induction first generalizing cursor second subnets with
  | nil =>
      cases h
      rw [List.map_nil, eq_comm, List.map_eq_nil_iff] at hlengths
      subst hlengths
      exact ⟨[], rfl, rfl⟩
  | cons request rest ih =>
      rcases List.map_eq_cons_iff.mp hlengths.symm with
        ⟨other, others, rfl, hlength, hothers⟩
      rcases placeAll_cons_eq_ok_iff.mp h with ⟨subnet, after, served, hplace, hrest, rfl⟩
      rcases ih hothers.symm hrest with ⟨found, hfound, hblocks⟩
      refine ⟨⟨other.name, other.aliasName, subnet.block⟩ :: found, ?_, ?_⟩
      · exact placeAll_cons_eq_ok_iff.mpr
          ⟨_, after, found, place_of_prefixLength_eq hlength.symm hplace, hfound, rfl⟩
      · rw [List.map_cons, List.map_cons, hblocks]

end Cursor

/-!
## Allocations
-/

theorem allocate_of_perm {ranges : List Block} {requests reordered : List SubnetRequest}
    {subnets : List Subnet} (hperm : reordered.Perm requests)
    (h : allocate ranges requests = .ok subnets) :
    exists others, allocate ranges reordered = .ok others ∧
      others.map (·.block) = subnets.map (·.block) :=
  Cursor.placeAll_of_prefixLengths_eq (prefixLength_bySize_of_perm hperm).symm h

/-- Reordered requests can be allocated exactly if the requests can, and the blocks come out in the
same order.  If requests of one length keep their order, the result is the same altogether, be it
the subnets or the request that does not fit. -/
theorem allocate_reordered {ranges : List Block} {requests reordered : List SubnetRequest}
    (hperm : reordered.Perm requests) :
    ((exists subnets, allocate ranges requests = .ok subnets) ↔
      exists subnets, allocate ranges reordered = .ok subnets) ∧
    (forall subnets others, allocate ranges requests = .ok subnets ->
      allocate ranges reordered = .ok others ->
      others.map (·.block) = subnets.map (·.block)) ∧
    (SameTies requests reordered ->
      allocate ranges reordered = allocate ranges requests) := by
  refine ⟨?_, ?_, ?_⟩
  · constructor
    · intro h
      rcases h with ⟨subnets, hsubnets⟩
      rcases allocate_of_perm hperm hsubnets with ⟨others, hothers, _⟩
      exact ⟨others, hothers⟩
    · intro h
      rcases h with ⟨others, hothers⟩
      rcases allocate_of_perm hperm.symm hothers with ⟨subnets, hsubnets, _⟩
      exact ⟨subnets, hsubnets⟩
  · intro subnets others hsubnets hothers
    rcases allocate_of_perm hperm hsubnets with ⟨others', hothers', hblocks⟩
    rw [hothers, Except.ok.injEq] at hothers'
    rw [hothers', hblocks]
  · intro hties
    rw [allocate, allocate, bySize_of_sameTies hties]

/-- Two requests of one length change places: the blocks stay in their order and go to other
subnets.  A request that only changes places with a longer block changes nothing, and neither does
it where one request too many is made. -/
theorem allocate_reordered_ties :
    let ranges : List Block :=
      [⟨.ofOctets 10 0 1 0, 30, by decide⟩, ⟨.ofOctets 10 0 0 0, 28, by decide⟩]
    let a : SubnetRequest := ⟨"snet-a", "a", 30, none⟩
    let b : SubnetRequest := ⟨"snet-b", "b", 29, none⟩
    let c : SubnetRequest := ⟨"snet-c", "c", 30, none⟩
    let first : Block := ⟨.ofOctets 10 0 0 0, 29, by decide⟩
    let second : Block := ⟨.ofOctets 10 0 0 8, 30, by decide⟩
    let third : Block := ⟨.ofOctets 10 0 0 12, 30, by decide⟩
    [c, b, a].Perm [a, b, c] ∧ ¬ SameTies [a, b, c] [c, b, a] ∧
    allocate ranges [a, b, c] =
      .ok [⟨"snet-b", "b", first⟩, ⟨"snet-a", "a", second⟩, ⟨"snet-c", "c", third⟩] ∧
    (exists others, allocate ranges [c, b, a] = .ok others ∧
      others.map (·.block) = [first, second, third]) ∧
    SameTies [a, b, c, a] [b, a, c, a] ∧ allocate ranges [a, b, c, a] = .error a ∧
    allocate ranges [b, a, c, a] = .error a := by
  intro ranges a b c first second third
  have hswapped : [c, b, a].Perm [a, b, c] := by
    decide
  have hserved : allocate ranges [a, b, c] =
      .ok [⟨"snet-b", "b", first⟩, ⟨"snet-a", "a", second⟩, ⟨"snet-c", "c", third⟩] := by
    cbv
  have hfailed : allocate ranges [a, b, c, a] = .error a := by
    cbv
  have hties : SameTies [a, b, c, a] [b, a, c, a] :=
    sameTies_swap (by decide) [c, a]
  rcases (allocate_reordered hswapped).left.mp ⟨_, hserved⟩ with ⟨others, hothers⟩
  have hmoved : [b, a, c, a].Perm [a, b, c, a] := by
    decide
  refine ⟨hswapped, ?_, hserved, ⟨others, hothers, ?_⟩, hties, hfailed, ?_⟩
  · intro h
    have hnames := congrArg (List.map (·.name)) (h 30)
    revert hnames
    decide
  · exact (allocate_reordered hswapped).right.left _ _ hserved hothers
  · rw [(allocate_reordered hmoved).right.right hties, hfailed]

end NetworkPlan
