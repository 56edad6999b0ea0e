/-!
# Splitting at a separator

Lists, of characters for the most part, cut at the first separator, or at every one.
-/

namespace NetworkPlan
namespace Text

variable {α : Type} [DecidableEq α]

/-- What comes before and after the first `sep`, if there is one. -/
def cutAt? (sep : α) : List α → Option (List α × List α)
  | [] => none
  | c :: cs =>
      if c = sep then some ([], cs)
      else (cutAt? sep cs).map fun (before, after) => (c :: before, after)

/-- The pieces between separators: one more than there are separators. -/
def splitAll (sep : α) : List α → List (List α)
  | [] => [[]]
  | c :: cs =>
      if c = sep then [] :: splitAll sep cs
      else
        match splitAll sep cs with
        | [] => [[c]]
        | piece :: pieces => (c :: piece) :: pieces

theorem cutAt?_cons_self (sep : α) (cs : List α) : cutAt? sep (sep :: cs) = some ([], cs) :=
  if_pos rfl

theorem cutAt?_cons_of_ne {sep c : α} (h : c ≠ sep) (cs : List α) :
    cutAt? sep (c :: cs) = (cutAt? sep cs).map fun (before, after) => (c :: before, after) :=
  if_neg h

theorem splitAll_cons_self (sep : α) (cs : List α) :
    splitAll sep (sep :: cs) = [] :: splitAll sep cs :=
  if_pos rfl

theorem splitAll_cons_of_ne {sep c : α} (h : c ≠ sep) {cs piece : List α} {pieces : List (List α)}
    (hcs : splitAll sep cs = piece :: pieces) :
    splitAll sep (c :: cs) = (c :: piece) :: pieces := by
  rw [splitAll, if_neg h, hcs]

theorem splitAll_ne_nil (sep : α) (cs : List α) : splitAll sep cs ≠ [] := by
  induction cs with
  | nil => exact List.cons_ne_nil _ _
  | cons c cs ih =>
      by_cases h : c = sep
      · rw [h, splitAll_cons_self]
        exact List.cons_ne_nil _ _
      · obtain ⟨piece, pieces, hcs⟩ := List.exists_cons_of_ne_nil ih
        rw [splitAll_cons_of_ne h hcs]
        exact List.cons_ne_nil _ _

theorem cutAt?_eq_none_iff (sep : α) (cs : List α) : cutAt? sep cs = none ↔ sep ∉ cs := by
  induction cs with
  | nil => simp [cutAt?]
  | cons c cs ih =>
      by_cases h : c = sep
      · simp [h, cutAt?_cons_self]
      · simp [cutAt?_cons_of_ne h, ih, Ne.symm h]

/-- Cutting loses nothing: the two parts and the separator between them are the text. -/
theorem append_of_cutAt? {sep : α} {cs before after : List α}
    (h : cutAt? sep cs = some (before, after)) :
    cs = before ++ sep :: after ∧ sep ∉ before := by
  induction cs generalizing before with
  | nil => cases h
  | cons c cs ih =>
      by_cases hc : c = sep
      · rw [hc, cutAt?_cons_self] at h
        cases h
        simp [hc]
      · rw [cutAt?_cons_of_ne hc, Option.map_eq_some_iff] at h
        obtain ⟨⟨b, a⟩, hcut, heq⟩ := h
        cases heq
        obtain ⟨rfl, hb⟩ := ih hcut
        exact ⟨rfl, by simp [hb, Ne.symm hc]⟩

theorem cutAt?_append {sep : α} {before : List α} (h : sep ∉ before) (after : List α) :
    cutAt? sep (before ++ sep :: after) = some (before, after) := by
  induction before with
  | nil => exact cutAt?_cons_self sep after
  | cons c cs ih =>
      rw [List.mem_cons, not_or] at h
      rw [List.cons_append, cutAt?_cons_of_ne (Ne.symm h.1), ih h.2]
      rfl

theorem splitAll_append {sep : α} {before : List α} (h : sep ∉ before) (after : List α) :
    splitAll sep (before ++ sep :: after) = before :: splitAll sep after := by
  induction before with
  | nil => exact splitAll_cons_self sep after
  | cons c cs ih =>
      rw [List.mem_cons, not_or] at h
      exact splitAll_cons_of_ne (Ne.symm h.1) (ih h.2)

theorem splitAll_of_not_mem {sep : α} {cs : List α} (h : sep ∉ cs) : splitAll sep cs = [cs] := by
  induction cs with
  | nil => rfl
  | cons c cs ih =>
      rw [List.mem_cons, not_or] at h
      exact splitAll_cons_of_ne (Ne.symm h.1) (ih h.2)

end Text
end NetworkPlan
