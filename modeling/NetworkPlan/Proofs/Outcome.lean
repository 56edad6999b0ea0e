import Mathlib.Data.List.Forall2

/-!
# Outcomes

Every stage of the plan gives a value or the first error.  These lemmas take a sequence of stages
apart, from its value or from its error.  A stage that handles a list item by item gives a list
that matches it; what is known of one of two matching lists carries over to the other.
-/

namespace NetworkPlan

variable {α β ε δ : Type}

theorem bind_eq_ok {x : Except ε α} {f : α -> Except ε β} {b : β} :
    (x >>= f) = .ok b ↔ exists a, x = .ok a ∧ f a = .ok b := by
  cases x <;> simp [Bind.bind, Except.bind]

theorem bind_eq_error {x : Except ε α} {f : α -> Except ε β} {e : ε} :
    (x >>= f) = .error e ↔ x = .error e ∨ exists a, x = .ok a ∧ f a = .error e := by
  cases x <;> simp [Bind.bind, Except.bind]

theorem pure_eq_ok {a b : α} : (pure a : Except ε α) = .ok b ↔ a = b := by
  simp [pure, Except.pure]

theorem pure_ne_error {a : α} {e : ε} : (pure a : Except ε α) ≠ .error e := by
  simp [pure, Except.pure]

theorem throw_ne_ok {e : ε} {a : α} : (throw e : Except ε α) ≠ .ok a := by
  simp [throw, throwThe, MonadExceptOf.throw]

theorem map_eq_ok {x : Except ε α} {f : α -> β} {b : β} :
    x.map f = .ok b ↔ exists a, x = .ok a ∧ f a = b := by
  cases x <;> simp [Except.map]

theorem map_eq_error {x : Except ε α} {f : α -> β} {e : ε} :
    x.map f = .error e ↔ x = .error e := by
  cases x <;> simp [Except.map]

theorem mapError_eq_ok {x : Except ε α} {f : ε -> δ} {a : α} :
    x.mapError f = .ok a ↔ x = .ok a := by
  cases x <;> simp [Except.mapError]

theorem mapError_eq_error {x : Except ε α} {f : ε -> δ} {d : δ} :
    x.mapError f = .error d ↔ exists e, x = .error e ∧ f e = d := by
  cases x <;> simp [Except.mapError]

/-!
## Matching lists
-/

theorem exists_right_of_forall₂ {R : α -> β -> Prop} {as : List α} {bs : List β}
    (h : List.Forall₂ R as bs) {a : α} (ha : a ∈ as) : exists b, b ∈ bs ∧ R a b := by
  induction h with
  | nil =>
      cases ha
  | @cons a' b as bs hhead _ ih =>
      rcases List.mem_cons.mp ha with rfl | hrest
      · exact ⟨b, List.mem_cons_self, hhead⟩
      · rcases ih hrest with ⟨b', hb', hR⟩
        exact ⟨b', List.mem_cons_of_mem b hb', hR⟩

theorem exists_left_of_forall₂ {R : α -> β -> Prop} {as : List α} {bs : List β}
    (h : List.Forall₂ R as bs) {b : β} (hb : b ∈ bs) : exists a, a ∈ as ∧ R a b :=
  exists_right_of_forall₂ h.flip hb

/-- Matching lists have the same image under functions that take matching items to the same
value. -/
theorem map_eq_map_of_forall₂ {R : α -> β -> Prop} {as : List α} {bs : List β} {f : α -> δ}
    {g : β -> δ} (h : List.Forall₂ R as bs)
    (hsame : forall a, a ∈ as -> forall b, R a b -> f a = g b) : as.map f = bs.map g := by
  induction h with
  | nil =>
      rfl
  | cons hhead _ ih =>
      rcases List.forall_mem_cons.mp hsame with ⟨hfirst, hrest⟩
      rw [List.map_cons, List.map_cons, hfirst _ hhead, ih hrest]

/-- A list has a matching one if every item has a match. -/
theorem exists_forall₂_iff {R : α -> β -> Prop} {as : List α} :
    (exists bs, List.Forall₂ R as bs) ↔ forall a, a ∈ as -> exists b, R a b := by
  constructor
  · intro h a ha
    rcases h with ⟨bs, h⟩
    rcases exists_right_of_forall₂ h ha with ⟨b, _, hb⟩
    exact ⟨b, hb⟩
  · intro h
    induction as with
    | nil =>
        exact ⟨[], List.Forall₂.nil⟩
    | cons a as ih =>
        rcases List.forall_mem_cons.mp h with ⟨⟨b, hb⟩, hrest⟩
        rcases ih hrest with ⟨bs, hbs⟩
        exact ⟨b :: bs, List.Forall₂.cons hb hbs⟩

end NetworkPlan
