import NetworkPlan.Proofs.Text.Delimited
import NetworkPlan.Text.Splitting

/-!
# Lines of a text

A text is cut into its lines at the line ends, and it is moved to the right by blanks behind every
line end.  Both go piece by piece, so for texts one below the other it is enough to know what
becomes of each of them.
-/

namespace NetworkPlan
namespace Text

/-!
## Moving lines to the right
-/

/-- A text with so many blanks inserted behind every line end. -/
def indented (k : Nat) (cs : List Char) : List Char :=
  cs.flatMap fun c => if c = '\n' then '\n' :: List.replicate k ' ' else [c]

theorem indented_append (k : Nat) (cs ds : List Char) :
    indented k (cs ++ ds) = indented k cs ++ indented k ds :=
  List.flatMap_append

theorem indented_newline (k : Nat) (cs : List Char) :
    indented k ('\n' :: cs) = '\n' :: (List.replicate k ' ' ++ indented k cs) :=
  List.flatMap_cons

theorem indented_of_not_mem {cs : List Char} (h : '\n' ∉ cs) (k : Nat) : indented k cs = cs := by
  induction cs with
  | nil =>
      rfl
  | cons c cs ih =>
      rw [List.mem_cons, not_or] at h
      have hcs : indented k cs = cs := ih h.right
      rw [indented, List.flatMap_cons, if_neg (Ne.symm h.left)]
      exact congrArg (List.cons c) hcs

/-- Texts one below the other, with a line end above them: each of them is moved. -/
theorem indented_lines {α : Type} {line moved : α -> String} {closing : List Char} {k : Nat}
    {xs : List α} (hclosing : '\n' ∉ closing)
    (hmoved : forall x, x ∈ xs ->
      (moved x).toList = List.replicate k ' ' ++ indented k (line x).toList) :
    indented k ('\n' :: (lines (xs.map line) ++ closing)) =
      '\n' :: (lines (xs.map moved) ++ (List.replicate k ' ' ++ closing)) := by
  induction xs with
  | nil =>
      rw [indented_newline]
      exact congrArg (fun cs => '\n' :: (List.replicate k ' ' ++ cs))
        (indented_of_not_mem hclosing k)
  | cons x xs ih =>
      rcases List.forall_mem_cons.mp hmoved with ⟨hfirst, hrest⟩
      rw [List.map_cons, List.map_cons, lines_cons, lines_cons, indented_newline, List.append_assoc,
        List.append_assoc, indented_append, List.cons_append, List.cons_append, ih hrest, hfirst,
        List.append_assoc]

/-!
## Cutting into lines
-/

theorem splitAll_append_cons {α : Type} [DecidableEq α] (sep : α) (before after : List α) :
    splitAll sep (before ++ sep :: after) = splitAll sep before ++ splitAll sep after := by
  induction before with
  | nil =>
      exact splitAll_cons_self sep after
  | cons c cs ih =>
      by_cases hc : c = sep
      · rw [hc, List.cons_append, splitAll_cons_self, splitAll_cons_self, ih, List.cons_append]
      · rcases List.exists_cons_of_ne_nil (splitAll_ne_nil sep cs) with ⟨piece, pieces, hpieces⟩
        rw [hpieces, List.cons_append] at ih
        rw [List.cons_append, splitAll_cons_of_ne hc ih, splitAll_cons_of_ne hc hpieces,
          List.cons_append]

/-- What stands in front of a text without a separator belongs to the first piece. -/
theorem splitAll_append_of_not_mem {α : Type} [DecidableEq α] {sep : α} {start cs first : List α}
    {pieces : List (List α)} (hstart : sep ∉ start) (hcs : splitAll sep cs = first :: pieces) :
    splitAll sep (start ++ cs) = (start ++ first) :: pieces := by
  induction start with
  | nil =>
      exact hcs
  | cons c start ih =>
      rw [List.mem_cons, not_or] at hstart
      exact splitAll_cons_of_ne (Ne.symm hstart.left) (ih hstart.right)

theorem splitAll_lines (texts : List String) (closing : List Char) :
    splitAll '\n' (lines texts ++ closing) =
      texts.flatMap (fun text => splitAll '\n' text.toList) ++ splitAll '\n' closing := by
  induction texts with
  | nil =>
      rfl
  | cons text texts ih =>
      rw [lines_cons, List.append_assoc, List.cons_append, splitAll_append_cons, ih,
        List.flatMap_cons, List.append_assoc]

end Text
end NetworkPlan
