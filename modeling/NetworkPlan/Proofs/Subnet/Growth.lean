import NetworkPlan.Proofs.Subnet.Removal

/-!
# Adding ranges

An operator extends a network by ranges at the end of the list.  A run enters them only when it has
left all the others, so where it found a place without them it finds the same one, and the first
request that differs is the one that had none.
-/

namespace NetworkPlan
namespace Cursor

/-- The cursor with more ranges after its own. -/
def extend (cursor : Cursor) (more : List Block) : Cursor :=
  { cursor with ranges := cursor.ranges ++ more }

variable {more : List Block}

/-!
## Steps
-/

theorem take_extend {length : Nat} {ranges : List Block} {next : Nat} {block : Block}
    {after : Cursor} (h : take length ranges next = some (block, after)) :
    take length (ranges ++ more) next = some (block, after.extend more) := by
  induction ranges generalizing next with
  | nil =>
      cases h
  | cons range rest ih =>
      rw [List.cons_append]
      by_cases hfits : Fits length range next
      · rw [take_of_fits hfits] at h ⊢
        cases h
        rfl
      · rw [take_of_not_fits hfits] at h ⊢
        cases rest with
        | nil =>
            cases h
        | cons later rest =>
            exact ih h

theorem place_extend {cursor after : Cursor} {request : SubnetRequest} {subnet : Subnet}
    (h : cursor.place request = some (subnet, after)) :
    (cursor.extend more).place request = some (subnet, after.extend more) := by
  rcases place_eq_some_iff.mp h with ⟨hlength, hname, halias, htake⟩
  exact place_eq_some_iff.mpr ⟨hlength, hname, halias, take_extend htake⟩

/-!
## Runs
-/

theorem placeAll_extend {cursor : Cursor} {requests : List SubnetRequest} {subnets : List Subnet}
    (h : cursor.placeAll requests = .ok subnets) :
    (cursor.extend more).placeAll requests = .ok subnets := by
  induction requests generalizing cursor subnets with
  | nil =>
      exact h
  | cons request rest ih =>
      rcases placeAll_cons_eq_ok_iff.mp h with ⟨subnet, after, others, hplace, hrest, rfl⟩
      exact placeAll_cons_eq_ok_iff.mpr
        ⟨subnet, after.extend more, others, place_extend hplace, ih hrest, rfl⟩

theorem placeAll_start_append {ranges : List Block} {requests : List SubnetRequest}
    {subnets : List Subnet} (h : (start ranges).placeAll requests = .ok subnets) :
    (start (ranges ++ more)).placeAll requests = .ok subnets := by
  cases ranges with
  | nil =>
      -- The added ranges start elsewhere, but without any range no request was served.
      cases requests with
      | nil =>
          exact h
      | cons request rest =>
          rcases placeAll_cons_eq_ok_iff.mp h with ⟨_, _, _, hplace, _, _⟩
          rcases place_eq_some_iff.mp hplace with ⟨_, _, _, htake⟩
          cases htake
  | cons range rest =>
      exact placeAll_extend h

end Cursor

/-!
## Allocations
-/

theorem allocate_of_ascending {ranges : List Block} {requests : List SubnetRequest}
    (h : requests.Pairwise fun a b => a.prefixLength ≤ b.prefixLength) :
    allocate ranges requests = (Cursor.start ranges).placeAll requests := by
  rw [allocate, bySize_of_ascending h]

/-- More ranges at the end of the list move no subnet.  Where a request had no place without them,
those served before it get what they would get alone. -/
theorem allocate_more_ranges (ranges more : List Block) (requests : List SubnetRequest) :
    (forall subnets, allocate ranges requests = .ok subnets ->
      allocate (ranges ++ more) requests = .ok subnets) ∧
    (forall failed subnets, allocate ranges requests = .error failed ->
      allocate (ranges ++ more) requests = .ok subnets ->
      exists before after served,
        StablySorted requests (before ++ failed :: after) ∧
        allocate ranges before = .ok served ∧
        allocate ranges (before ++ [failed]) = .error failed ∧
        List.Forall₂ SubnetRequest.ServedBy before served ∧
        subnets.take before.length = served) := by
  constructor
  · intro subnets h
    exact Cursor.placeAll_start_append h
  · intro failed subnets hfailed h
    rcases Cursor.exists_served_of_placeAll_eq_error hfailed with
      ⟨before, after, served, hsplit, hserved, hnext⟩
    have hordered := bySize_ascending requests
    rw [hsplit] at hordered
    have hbefore := hordered.sublist (List.sublist_append_left before (failed :: after))
    have hupTo := hordered.sublist
      (List.Sublist.append_left (List.singleton_sublist.mpr List.mem_cons_self) before)
    refine ⟨before, after, served, ?_, ?_, ?_, Cursor.placeAll_servedBy hserved, ?_⟩
    · rw [← hsplit]
      exact stablySorted_bySize requests
    · rw [allocate_of_ascending hbefore, hserved]
    · rw [allocate_of_ascending hupTo, hnext]
    · have hfirst := placeAll_first ⟨failed :: after, hsplit.symm⟩ h
      rw [Cursor.placeAll_start_append hserved, Except.ok.injEq] at hfirst
      exact hfirst.symm

/-- A third request is made where there is room for two.  With a range more it gets its block there,
and the blocks of the other two stay. -/
theorem allocate_more_ranges_third :
    let ranges : List Block :=
      [⟨.ofOctets 10 0 0 0, 29, by decide⟩, ⟨.ofOctets 10 0 0 8, 30, by decide⟩]
    let more : List Block := [⟨.ofOctets 10 0 1 0, 28, by decide⟩]
    let a : SubnetRequest := ⟨"snet-a", "a", 30, none⟩
    let b : SubnetRequest := ⟨"snet-b", "b", 29, none⟩
    let c : SubnetRequest := ⟨"snet-c", "c", 30, none⟩
    let first : Subnet := ⟨"snet-b", "b", ⟨.ofOctets 10 0 0 0, 29, by decide⟩⟩
    let second : Subnet := ⟨"snet-a", "a", ⟨.ofOctets 10 0 0 8, 30, by decide⟩⟩
    let third : Subnet := ⟨"snet-c", "c", ⟨.ofOctets 10 0 1 0, 30, by decide⟩⟩
    allocate ranges [a, b] = .ok [first, second] ∧
    allocate (ranges ++ more) [a, b] = .ok [first, second] ∧
    allocate ranges [a, b, c] = .error c ∧
    allocate (ranges ++ more) [a, b, c] = .ok [first, second, third] ∧
    exists before after served, StablySorted [a, b, c] (before ++ c :: after) ∧
      allocate ranges before = .ok served ∧
      [first, second, third].take before.length = served := by
  intro ranges more a b c first second third
  have hboth : allocate ranges [a, b] = .ok [first, second] := by
    cbv
  have hfull : allocate ranges [a, b, c] = .error c := by
    cbv
  have hmore : allocate (ranges ++ more) [a, b, c] = .ok [first, second, third] := by
    cbv
  refine ⟨hboth, (allocate_more_ranges ranges more [a, b]).left _ hboth, hfull, hmore, ?_⟩
  rcases (allocate_more_ranges ranges more [a, b, c]).right c _ hfull hmore with
    ⟨before, after, served, hsorted, hserved, _, _, hsame⟩
  exact ⟨before, after, served, hsorted, hserved, hsame⟩

end NetworkPlan
