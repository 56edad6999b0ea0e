import NetworkPlan.Subnet.Allocation

/-!
# The order of service

Requests are served by ascending prefix length, and requests of one length in the order in which
they were made.  A list is determined by these two facts, so leaving items out and sorting can be
done in either order.
-/

namespace NetworkPlan

/-!
## Sorting by a number
-/

section Sorting

variable {α : Type} {key : α → Nat}

private theorem key_le_trans (a b c : α) (hab : decide (key a ≤ key b) = true)
    (hbc : decide (key b ≤ key c) = true) : decide (key a ≤ key c) = true :=
  decide_eq_true (Nat.le_trans (of_decide_eq_true hab) (of_decide_eq_true hbc))

private theorem key_le_total (a b : α) :
    (decide (key a ≤ key b) || decide (key b ≤ key a)) = true := by
  simp only [Bool.or_eq_true, decide_eq_true_eq]
  exact Nat.le_total _ _

theorem ascending_mergeSort (items : List α) :
    (items.mergeSort fun a b => key a ≤ key b).Pairwise fun a b => key a ≤ key b := by
  have hsorted := List.pairwise_mergeSort (@key_le_trans α key) key_le_total items
  simpa only [decide_eq_true_eq] using hsorted

theorem filter_key_mergeSort (items : List α) (n : Nat) :
    (items.mergeSort fun a b => key a ≤ key b).filter (fun a => key a = n) =
      items.filter (fun a => key a = n) := by
  -- The items with one number are in order already, so sorting keeps them as a sublist.
  have hordered : (items.filter (fun a => key a = n)).Pairwise
      (fun a b => decide (key a ≤ key b) = true) := by
    apply List.pairwise_of_forall_mem_list
    intro a ha b hb
    have hakey := of_decide_eq_true (List.mem_filter.mp ha).right
    have hbkey := of_decide_eq_true (List.mem_filter.mp hb).right
    exact decide_eq_true (by omega)
  have hkept := List.sublist_mergeSort key_le_trans key_le_total hordered List.filter_sublist
  have hfiltered := hkept.filter (fun a => decide (key a = n))
  rw [List.filter_filter] at hfiltered
  simp only [Bool.and_self] at hfiltered
  have hcount : ((items.mergeSort fun a b => key a ≤ key b).filter (fun a => key a = n)).length =
      (items.filter (fun a => key a = n)).length :=
    ((List.mergeSort_perm items _).filter _).length_eq
  exact (hfiltered.eq_of_length hcount.symm).symm

private theorem mem_of_filter_key_eq {xs ys : List α}
    (h : forall n, xs.filter (fun a => key a = n) = ys.filter (fun a => key a = n)) {a : α}
    (ha : a ∈ xs) : a ∈ ys := by
  have hmem : a ∈ xs.filter (fun b => key b = key a) :=
    List.mem_filter.mpr ⟨ha, decide_eq_true rfl⟩
  rw [h (key a)] at hmem
  exact (List.mem_filter.mp hmem).left

private theorem key_head_le {x y : α} {ys : List α}
    (h : (y :: ys).Pairwise fun a b => key a ≤ key b) (hx : x ∈ y :: ys) : key y ≤ key x := by
  rcases List.mem_cons.mp hx with rfl | hmem
  · exact Nat.le_refl _
  · exact (List.pairwise_cons.mp h).left x hmem

/-- An ascending list is determined by its items with each number, in their order. -/
theorem eq_of_ascending {xs ys : List α} (hxs : xs.Pairwise fun a b => key a ≤ key b)
    (hys : ys.Pairwise fun a b => key a ≤ key b)
    (h : forall n, xs.filter (fun a => key a = n) = ys.filter (fun a => key a = n)) :
    xs = ys := by
  induction xs generalizing ys with
  | nil =>
      cases ys with
      | nil =>
          rfl
      | cons y ys =>
          cases mem_of_filter_key_eq (fun n => (h n).symm) List.mem_cons_self
  | cons x xs ih =>
      cases ys with
      | nil =>
          cases mem_of_filter_key_eq h List.mem_cons_self
      | cons y ys =>
          -- Each of the two first items stands in the other list, so neither number is larger.
          have hyx : key y ≤ key x :=
            key_head_le hys (mem_of_filter_key_eq h List.mem_cons_self)
          have hxy : key x ≤ key y :=
            key_head_le hxs (mem_of_filter_key_eq (fun n => (h n).symm) List.mem_cons_self)
          have hkey : key y = key x := Nat.le_antisymm hyx hxy
          have hfirst := h (key x)
          rw [List.filter_cons, List.filter_cons, if_pos (decide_eq_true rfl),
            if_pos (decide_eq_true hkey), List.cons.injEq] at hfirst
          rcases hfirst with ⟨rfl, _⟩
          have hrest : forall n, xs.filter (fun a => key a = n) =
              ys.filter (fun a => key a = n) := by
            intro n
            have hn := h n
            rw [List.filter_cons, List.filter_cons] at hn
            split at hn
            · exact (List.cons.inj hn).right
            · exact hn
          exact congrArg (x :: ·)
            (ih (List.pairwise_cons.mp hxs).right (List.pairwise_cons.mp hys).right hrest)

private theorem filter_filter_swap (p q : α → Bool) (items : List α) :
    (items.filter p).filter q = (items.filter q).filter p := by
  rw [List.filter_filter, List.filter_filter]
  exact congrArg (items.filter ·) (funext fun a => Bool.and_comm _ _)

/-- Items may be left out before or after sorting. -/
theorem filter_mergeSort (p : α → Bool) (items : List α) :
    (items.mergeSort fun a b => key a ≤ key b).filter p =
      (items.filter p).mergeSort fun a b => key a ≤ key b := by
  apply eq_of_ascending ((ascending_mergeSort items).filter p) (ascending_mergeSort _)
  intro n
  rw [filter_key_mergeSort, filter_filter_swap, filter_key_mergeSort, filter_filter_swap]

end Sorting

/-!
## Requests
-/

/-- The second list is the first one by ascending prefix length; requests of one length have kept
their order. -/
structure StablySorted (requests order : List SubnetRequest) : Prop where
  perm : order.Perm requests
  ascending : order.Pairwise fun a b => a.prefixLength ≤ b.prefixLength
  stable : forall length : Nat,
    order.filter (fun r => r.prefixLength = length) =
      requests.filter (fun r => r.prefixLength = length)

theorem bySize_perm (requests : List SubnetRequest) : (bySize requests).Perm requests :=
  List.mergeSort_perm _ _

theorem bySize_ascending (requests : List SubnetRequest) :
    (bySize requests).Pairwise fun a b => a.prefixLength ≤ b.prefixLength :=
  ascending_mergeSort requests

theorem filter_bySize (requests : List SubnetRequest) (length : Nat) :
    (bySize requests).filter (fun r => r.prefixLength = length) =
      requests.filter (fun r => r.prefixLength = length) :=
  filter_key_mergeSort requests length

/-- Requests that are in order stay where they are. -/
theorem bySize_of_ascending {requests : List SubnetRequest}
    (h : requests.Pairwise fun a b => a.prefixLength ≤ b.prefixLength) :
    bySize requests = requests :=
  eq_of_ascending (bySize_ascending requests) h (filter_bySize requests)

theorem stablySorted_bySize (requests : List SubnetRequest) :
    StablySorted requests (bySize requests) where
  perm := bySize_perm requests
  ascending := bySize_ascending requests
  stable := filter_bySize requests

/-- There is one order of service. -/
theorem StablySorted.eq_bySize {requests order : List SubnetRequest}
    (h : StablySorted requests order) : order = bySize requests := by
  apply eq_of_ascending h.ascending (bySize_ascending requests)
  intro length
  rw [h.stable length, filter_bySize requests length]

end NetworkPlan
