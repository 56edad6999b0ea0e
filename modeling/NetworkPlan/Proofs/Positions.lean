import Mathlib.Data.List.Forall2

/-!
# Positions

What a check reports about a list is described by the positions that it reports: a list of all
positions of a kind, each once and in order, beside the list of reports.
-/

namespace NetworkPlan

variable {α β : Type}

/-- A list has the values with a property, each once, in the order of `before`. -/
structure Enumerates (before : α -> α -> Prop) (p : α -> Prop) (xs : List α) : Prop where
  ordered : xs.Pairwise before
  mem_iff : forall x, x ∈ xs ↔ p x

namespace Enumerates

variable {before : α -> α -> Prop} {p q : α -> Prop} {xs ys : List α}

theorem nil (h : forall x, ¬ p x) : Enumerates before p [] :=
  ⟨List.Pairwise.nil, fun x => iff_of_false List.not_mem_nil (h x)⟩

theorem congr (hxs : Enumerates before p xs) (h : forall x, p x ↔ q x) :
    Enumerates before q xs :=
  ⟨hxs.ordered, fun x => (hxs.mem_iff x).trans (h x)⟩

theorem append (hxs : Enumerates before p xs) (hys : Enumerates before q ys)
    (h : forall x y, p x -> q y -> before x y) :
    Enumerates before (fun z => p z ∨ q z) (xs ++ ys) := by
  constructor
  case ordered =>
    refine List.pairwise_append.mpr ⟨hxs.ordered, hys.ordered, fun x hx y hy => ?_⟩
    exact h x y ((hxs.mem_iff x).mp hx) ((hys.mem_iff y).mp hy)
  case mem_iff =>
    intro z
    rw [List.mem_append, hxs.mem_iff, hys.mem_iff]

theorem singleton (x : α) : Enumerates before (fun y => y = x) [x] :=
  ⟨List.pairwise_singleton before x, fun _ => List.mem_singleton⟩

theorem cons {x : α} (hxs : Enumerates before p xs) (h : forall y, p y -> before x y) :
    Enumerates before (fun y => y = x ∨ p y) (x :: xs) :=
  (singleton x).append hxs fun _ y hx hy => hx ▸ h y hy

theorem map (before' : β -> β -> Prop) (f : α -> β) (hxs : Enumerates before p xs)
    (h : forall x y, before x y -> before' (f x) (f y)) :
    Enumerates before' (fun z => exists x, p x ∧ f x = z) (xs.map f) := by
  constructor
  case ordered =>
    exact hxs.ordered.map f fun x y => h x y
  case mem_iff =>
    intro z
    simp only [List.mem_map, hxs.mem_iff]

end Enumerates

/-- A filter keeps the elements at certain positions, in order. -/
theorem exists_positions_filter (p : α -> Bool) (xs : List α) :
    exists positions,
      Enumerates (· < ·) (fun i : Nat => exists x, xs[i]? = some x ∧ p x = true) positions ∧
        List.Forall₂ (fun (i : Nat) x => xs[i]? = some x) positions (xs.filter p) := by
  induction xs with
  | nil =>
      refine ⟨[], Enumerates.nil ?_, List.Forall₂.nil⟩
      simp
  | cons x rest ih =>
      rcases ih with ⟨positions, hpositions, helements⟩
      have hlater := hpositions.map (· < ·) Nat.succ fun _ _ => Nat.succ_lt_succ
      have helements' : List.Forall₂ (fun (i : Nat) y => (x :: rest)[i]? = some y)
          (positions.map Nat.succ) (rest.filter p) :=
        List.forall₂_map_left_iff.mpr helements
      by_cases hx : p x = true
      · refine ⟨0 :: positions.map Nat.succ, (hlater.cons ?_).congr ?_, ?_⟩
        · intro i hi
          rcases hi with ⟨j, _, rfl⟩
          exact Nat.succ_pos j
        · intro i
          cases i <;> simp [hx]
        · rw [List.filter_cons_of_pos hx]
          exact List.Forall₂.cons rfl helements'
      · refine ⟨positions.map Nat.succ, hlater.congr ?_, ?_⟩
        · intro i
          cases i <;> simp [hx]
        · rw [List.filter_cons_of_neg hx]
          exact helements'

end NetworkPlan
