import Mathlib.Data.List.Forall2

/-!
# Texts that show where they end

Two texts are written one behind the other without a length, so a reader has to see where the
first one ends.  Here this is a property of a pair of texts: if both are followed by the same stop
and the whole texts agree, then they agree from the stop on, and what the two stand for is the
same.  The property passes to texts with a common start, to one text behind another and to lines
one below the other.
-/

namespace NetworkPlan
namespace Text

/-- Followed by the stop, two texts can agree only if what they stand for is the same and they end
at the same place. -/
def Delimited (stop : Char) (same : Prop) (cs ds : List Char) : Prop :=
  forall rest others, cs ++ stop :: rest = ds ++ stop :: others -> same ∧ rest = others

namespace Delimited

variable {stop mid : Char} {P Q : Prop} {cs ds cs' ds' : List Char}

theorem refl (stop : Char) (cs : List Char) : Delimited stop True cs cs :=
  fun _ _ h => ⟨trivial, (List.cons.inj (List.append_cancel_left h)).right⟩

theorem of_not_mem (hcs : stop ∉ cs) (hds : stop ∉ ds) : Delimited stop (cs = ds) cs ds := by
  induction cs generalizing ds with
  | nil =>
      intro rest others h
      cases ds with
      | nil =>
          exact And.intro rfl (List.cons.inj h).right
      | cons d ds =>
          exact absurd ((List.cons.inj h).left ▸ List.mem_cons_self) hds
  | cons c cs ih =>
      intro rest others h
      cases ds with
      | nil =>
          exact absurd ((List.cons.inj h).left ▸ List.mem_cons_self) hcs
      | cons d ds =>
          rcases List.cons.inj h with ⟨rfl, htail⟩
          have hrest := ih (List.not_mem_of_not_mem_cons hcs) (List.not_mem_of_not_mem_cons hds)
          rcases hrest rest others htail with ⟨rfl, hsame⟩
          exact And.intro rfl hsame

theorem imp (h : Delimited stop P cs ds) (himp : P -> Q) : Delimited stop Q cs ds :=
  fun rest others heq => (h rest others heq).imp_left himp

/-- A common start changes nothing. -/
theorem cons (c : Char) (h : Delimited stop P cs ds) : Delimited stop P (c :: cs) (c :: ds) := by
  intro rest others heq
  rw [List.cons_append, List.cons_append, List.cons.injEq] at heq
  exact h rest others heq.right

theorem append_left (start : List Char) (h : Delimited stop P cs ds) :
    Delimited stop P (start ++ cs) (start ++ ds) := by
  induction start with
  | nil =>
      exact h
  | cons c start ih =>
      exact ih.cons c

/-- One text behind another, with a stop between them. -/
theorem followed (h : Delimited mid P cs ds) (h' : Delimited stop Q cs' ds') :
    Delimited stop (P ∧ Q) (cs ++ mid :: cs') (ds ++ mid :: ds') := by
  intro rest others heq
  rw [List.append_assoc, List.append_assoc, List.cons_append, List.cons_append] at heq
  rcases h _ _ heq with ⟨hP, htail⟩
  rcases h' rest others htail with ⟨hQ, hrest⟩
  exact ⟨⟨hP, hQ⟩, hrest⟩

theorem same_of_eq (h : Delimited stop P cs ds) (heq : cs = ds) : P :=
  (h [] [] (by rw [heq])).left

end Delimited

/-!
## Lines
-/

/-- Texts one below the other, each on a line of its own. -/
def lines (texts : List String) : List Char :=
  texts.flatMap fun text => text.toList ++ ['\n']

theorem lines_cons (text : String) (texts : List String) :
    lines (text :: texts) = text.toList ++ '\n' :: lines texts := by
  rw [lines, lines, List.flatMap_cons, List.append_assoc]
  rfl

theorem toList_intercalate_newline (texts : List String) :
    ("\n".intercalate (texts ++ [""])).toList = lines texts := by
  induction texts with
  | nil =>
      rfl
  | cons text texts ih =>
      rw [List.cons_append, String.intercalate_cons_of_ne_nil (by simp), lines_cons, ← ih]
      simp

/-- Lines that each show where they end, below them a closing text that is no start of a line. -/
theorem Delimited.lines {α : Type} {R : α -> α -> Prop} {line : α -> String}
    {closing : List Char} {xs ys : List α}
    (hlines : forall x, x ∈ xs -> forall y, y ∈ ys ->
      Delimited '\n' (R x y) (line x).toList (line y).toList)
    (hclosing : forall z rest others, closing ++ '\n' :: rest ≠ (line z).toList ++ others) :
    Delimited '\n' (List.Forall₂ R xs ys)
      (Text.lines (xs.map line) ++ closing) (Text.lines (ys.map line) ++ closing) := by
  induction xs generalizing ys with
  | nil =>
      intro rest others h
      cases ys with
      | nil =>
          rw [List.append_cancel_left_eq, List.cons.injEq] at h
          exact And.intro List.Forall₂.nil h.right
      | cons y ys =>
          rw [List.append_assoc, List.append_assoc, List.map_cons, lines_cons,
            List.append_assoc] at h
          exact absurd h (hclosing y rest _)
  | cons x xs ih =>
      cases ys with
      | nil =>
          intro rest others h
          rw [List.append_assoc, List.append_assoc, List.map_cons, lines_cons,
            List.append_assoc] at h
          exact absurd h.symm (hclosing x others _)
      | cons y ys =>
          have hfirst := hlines x List.mem_cons_self y List.mem_cons_self
          have hrest := ih fun x' hx y' hy =>
            hlines x' (List.mem_cons_of_mem x hx) y' (List.mem_cons_of_mem y hy)
          rw [List.map_cons, List.map_cons, lines_cons, lines_cons, List.append_assoc,
            List.append_assoc, List.cons_append, List.cons_append]
          exact (hfirst.followed hrest).imp fun h => List.Forall₂.cons h.left h.right

end Text
end NetworkPlan
