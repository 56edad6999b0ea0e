import Mathlib.Data.List.Forall2

/-!
# Comma separated values

A reader for one line of values with commas between them.  It passes over the spaces before a field;
a field in double quotes may hold anything, and in it a doubled quote stands for one.  Values in
quotes whose own quotes are not doubled are read back as long as they have none, and the first value
that has one is never read as itself.
-/

namespace NetworkPlan
namespace Csv

/-- Where the reader stands: before a field, in a field without quotes, in a quoted field, or behind
a quote that ends the field unless another quote follows.  What was read of the field is kept. -/
inductive Position where
  | start
  | plain (text : List Char)
  | quoted (text : List Char)
  | closed (text : List Char)

namespace Position

/-- The field that ends here, if one can. -/
def field? : Position → Option (List Char)
  | start => some []
  | plain text => some text
  | quoted _ => none
  | closed text => some text

/-- The position behind a character of the field. -/
def next : Position → Char → Option Position
  | start, c => some (if c = ' ' then start else if c = '"' then quoted [] else plain [c])
  | plain text, c => some (plain (text ++ [c]))
  | quoted text, c => some (if c = '"' then closed text else quoted (text ++ [c]))
  | closed text, c => if c = '"' then some (quoted (text ++ [c])) else none

end Position

/-- The fields of a line from a position on.  There are none if the line ends in a quoted field, or
if anything but a comma follows one. -/
def fieldsFrom (p : Position) : List Char → Option (List String)
  | [] => p.field?.map fun text => [String.ofList text]
  | c :: cs =>
      match p.field?.filter fun _ => c = ',' with
      | some text => (fieldsFrom .start cs).map (String.ofList text :: ·)
      | none => (p.next c).bind fun p' => fieldsFrom p' cs

/-- The fields of a line. -/
def fields? (line : String) : Option (List String) :=
  fieldsFrom .start line.toList

/-!
## Steps
-/

variable {p p' : Position} {c : Char} {cs text tail : List Char}

theorem fieldsFrom_comma (h : p.field? = some text) (cs : List Char) :
    fieldsFrom p (',' :: cs) = (fieldsFrom .start cs).map (String.ofList text :: ·) := by
  rw [fieldsFrom, h]
  rfl

theorem fieldsFrom_next (hnext : p.next c = some p') (hin : p.field? = none ∨ c ≠ ',')
    (cs : List Char) : fieldsFrom p (c :: cs) = fieldsFrom p' cs := by
  have hfield : (p.field?.filter fun _ => c = ',') = none := by
    rcases hin with hnone | hcomma
    · rw [hnone, Option.filter_none]
    · simp [hcomma]
  rw [fieldsFrom, hfield, hnext]
  rfl

theorem fieldsFrom_spaces (n : Nat) (cs : List Char) :
    fieldsFrom .start (List.replicate n ' ' ++ cs) = fieldsFrom .start cs := by
  induction n with
  | zero =>
      rfl
  | succ n ih =>
      rw [List.replicate_succ, List.cons_append, fieldsFrom_next rfl (Or.inr (by decide))]
      exact ih

/-!
## Quoted fields
-/

/-- A text with its quotes doubled. -/
def doubled (text : List Char) : List Char :=
  text.flatMap fun c => if c = '"' then ['"', '"'] else [c]

theorem doubled_cons_quote (text : List Char) :
    doubled ('"' :: text) = '"' :: '"' :: doubled text :=
  rfl

theorem doubled_cons_of_ne (hc : c ≠ '"') (text : List Char) :
    doubled (c :: text) = c :: doubled text := by
  rw [doubled, List.flatMap_cons, if_neg hc]
  rfl

theorem doubled_of_not_mem (h : '"' ∉ text) : doubled text = text := by
  induction text with
  | nil =>
      rfl
  | cons c text ih =>
      rw [List.mem_cons, not_or] at h
      rw [doubled_cons_of_ne (Ne.symm h.left), ih h.right]

/-- A text with doubled quotes is read as the text. -/
theorem fieldsFrom_doubled (read text tail : List Char) :
    fieldsFrom (.quoted read) (doubled text ++ '"' :: tail) =
      fieldsFrom (.closed (read ++ text)) tail := by
  induction text generalizing read with
  | nil =>
      rw [List.append_nil]
      exact fieldsFrom_next rfl (Or.inl rfl) tail
  | cons c text ih =>
      have happend : read ++ c :: text = read ++ [c] ++ text := by
        simp
      rw [happend, ← ih]
      by_cases hc : c = '"'
      · subst hc
        rw [doubled_cons_quote, List.cons_append, List.cons_append,
          fieldsFrom_next rfl (Or.inl rfl)]
        exact fieldsFrom_next rfl (Or.inr (by decide)) _
      · rw [doubled_cons_of_ne hc, List.cons_append]
        refine fieldsFrom_next ?_ (Or.inl rfl) _
        rw [Position.next, if_neg hc]

/-- A field ends here: the line ends, or a comma follows. -/
inductive AtEnd : List Char -> Prop
  | line : AtEnd []
  | comma (rest : List Char) : AtEnd (',' :: rest)

/-- Behind a quote the field ends, or another quote continues it. -/
theorem atEnd_or_quote {read : List Char} {fields : List String}
    (h : fieldsFrom (.closed read) cs = some fields) :
    AtEnd cs ∨ exists rest, cs = '"' :: rest ∧
      fieldsFrom (.quoted (read ++ ['"'])) rest = some fields := by
  cases cs with
  | nil =>
      exact Or.inl AtEnd.line
  | cons c rest =>
      by_cases hcomma : c = ','
      · rw [hcomma]
        exact Or.inl (AtEnd.comma rest)
      · by_cases hquote : c = '"'
        · subst hquote
          rw [fieldsFrom_next rfl (Or.inr (by decide))] at h
          exact Or.inr ⟨rest, rfl, h⟩
        · simp [fieldsFrom, Position.next, hcomma, hquote] at h

/-- What is read of a quoted field stands in the line with doubled quotes. -/
theorem exists_doubled {read : List Char} {fields : List String}
    (h : fieldsFrom (.quoted read) cs = some fields) :
    exists text tail, cs = doubled text ++ '"' :: tail ∧ AtEnd tail ∧
      fieldsFrom (.closed (read ++ text)) tail = some fields := by
  -- A doubled quote takes two characters, so the recursion is on the length.
  induction hlength : cs.length using Nat.strongRecOn generalizing cs read with
  | ind n ih =>
      cases cs with
      | nil =>
          cases h
      | cons c cs =>
          by_cases hc : c = '"'
          · subst hc
            rw [fieldsFrom_next rfl (Or.inl rfl)] at h
            change fieldsFrom (.closed read) cs = some fields at h
            rcases atEnd_or_quote h with hend | ⟨rest, rfl, hrest⟩
            · refine ⟨[], cs, rfl, hend, ?_⟩
              rw [List.append_nil]
              exact h
            · rcases ih rest.length (by simp at hlength; omega) hrest rfl with
                ⟨text, tail, rfl, hend, htail⟩
              refine ⟨'"' :: text, tail, rfl, hend, ?_⟩
              rw [List.append_assoc] at htail
              exact htail
          · have hnext : Position.next (.quoted read) c = some (.quoted (read ++ [c])) := by
              rw [Position.next, if_neg hc]
            rw [fieldsFrom_next hnext (Or.inl rfl)] at h
            rcases ih cs.length (by simp at hlength; omega) h rfl with
              ⟨text, tail, rfl, hend, htail⟩
            refine ⟨c :: text, tail, ?_, hend, ?_⟩
            · rw [doubled_cons_of_ne hc]
              rfl
            · rw [List.append_assoc] at htail
              exact htail

theorem head_of_atEnd {fields : List String} (hend : AtEnd tail)
    (h : fieldsFrom (.closed text) tail = some fields) :
    fields.head? = some (String.ofList text) := by
  cases hend with
  | line =>
      cases h
      rfl
  | comma rest =>
      rw [fieldsFrom_comma rfl] at h
      rcases Option.map_eq_some_iff.mp h with ⟨_, _, rfl⟩
      rfl

/-- A text does not get as far as its own form with doubled quotes: there is a quote too many. -/
theorem append_quote_ne_doubled {tail' : List Char} (hend : AtEnd tail) (n : Nat) :
    text ++ '"' :: tail ≠ '"' :: (List.replicate n '"' ++ (doubled text ++ '"' :: tail')) := by
  -- Every quote of the text that is passed leaves one more of the doubled ones in front.
  induction text generalizing n with
  | nil =>
      intro h
      have hhead := congrArg List.head? (List.cons.inj h).right
      cases hend with
      | line => cases n <;> cases hhead
      | comma rest => cases n <;> simp [doubled, List.replicate_succ] at hhead
  | cons c text ih =>
      intro h
      have hshift : forall rest : List Char,
          List.replicate n '"' ++ '"' :: rest = '"' :: (List.replicate n '"' ++ rest) := by
        intro rest
        rw [← List.cons_append, ← List.replicate_succ, List.replicate_succ', List.append_assoc]
        rfl
      rw [List.cons_append, List.cons.injEq] at h
      rcases h with ⟨rfl, htail⟩
      apply ih (n + 1)
      rw [htail, doubled_cons_quote, List.cons_append, List.cons_append, hshift, hshift]
      rfl

theorem quote_not_mem_of_doubled {tail' : List Char} (hend : AtEnd tail)
    (h : text ++ '"' :: tail = doubled text ++ '"' :: tail') : '"' ∉ text := by
  induction text with
  | nil =>
      exact List.not_mem_nil
  | cons c text ih =>
      by_cases hc : c = '"'
      · subst hc
        rw [doubled_cons_quote, List.cons_append, List.cons_append, List.cons.injEq] at h
        exact absurd h.right (append_quote_ne_doubled hend 0)
      · rw [doubled_cons_of_ne hc, List.cons_append, List.cons_append, List.cons.injEq] at h
        rw [List.mem_cons, not_or]
        exact ⟨Ne.symm hc, ih h.right⟩

/-!
## Values in quotes
-/

/-- There are no double quotes in the value. -/
def Unquoted (value : String) : Prop :=
  '"' ∉ value.toList

instance (value : String) : Decidable (Unquoted value) :=
  inferInstanceAs (Decidable ('"' ∉ value.toList))

theorem unquoted_empty : Unquoted "" := by
  decide

theorem unquoted_append_iff {s t : String} : Unquoted (s ++ t) ↔ Unquoted s ∧ Unquoted t := by
  rw [Unquoted, String.toList_append, List.mem_append, not_or]
  rfl

/-- The field is the value in quotes, with spaces before it. -/
def Shows (value field : String) : Prop :=
  exists n, field.toList = List.replicate n ' ' ++ '"' :: (value.toList ++ ['"'])

variable {value field : String} {values fields : List String}

theorem Shows.fieldsFrom_eq (h : Shows value field) (tail : List Char) :
    fieldsFrom .start (field.toList ++ tail) =
      fieldsFrom (.quoted []) (value.toList ++ '"' :: tail) := by
  rcases h with ⟨n, h⟩
  rw [h, List.append_assoc, fieldsFrom_spaces, List.cons_append, List.append_assoc]
  exact fieldsFrom_next rfl (Or.inr (by decide)) _

theorem Shows.fieldsFrom_of_unquoted (h : Shows value field) (hquote : Unquoted value)
    (tail : List Char) :
    fieldsFrom .start (field.toList ++ tail) = fieldsFrom (.closed value.toList) tail := by
  rw [h.fieldsFrom_eq]
  have hdoubled := fieldsFrom_doubled [] value.toList tail
  rw [doubled_of_not_mem hquote] at hdoubled
  exact hdoubled

/-- A value that is read as itself has no quotes. -/
theorem Shows.unquoted (h : Shows value field) {read : List String} (hend : AtEnd tail)
    (hread : fieldsFrom .start (field.toList ++ tail) = some read)
    (hhead : read.head? = some value) : Unquoted value := by
  rw [h.fieldsFrom_eq] at hread
  rcases exists_doubled hread with ⟨text, tail', hline, hend', htail⟩
  have hfirst := (head_of_atEnd hend' htail).symm.trans hhead
  rw [List.nil_append, Option.some.injEq] at hfirst
  have htext : text = value.toList := by
    rw [← hfirst, String.toList_ofList]
  rw [htext] at hline
  exact quote_not_mem_of_doubled hend hline

theorem fields?_intercalate_cons {field' : String} :
    fields? (",".intercalate (field :: field' :: fields)) =
      fieldsFrom .start (field.toList ++ ',' :: (",".intercalate (field' :: fields)).toList) := by
  rw [fields?, String.intercalate_cons_cons, String.toList_append, String.toList_append,
    List.append_assoc]
  rfl

/-- Values without quotes are read back. -/
theorem fields?_of_shows (h : List.Forall₂ Shows values fields) (hne : values ≠ [])
    (hquotes : forall value, value ∈ values -> Unquoted value) :
    fields? (",".intercalate fields) = some values := by
  induction h with
  | nil =>
      exact absurd rfl hne
  | @cons value field values fields hshows hrest ih =>
      rcases List.forall_mem_cons.mp hquotes with ⟨hquote, hquotes⟩
      cases hrest with
      | nil =>
          have hread := hshows.fieldsFrom_of_unquoted hquote []
          rw [List.append_nil] at hread
          rw [String.intercalate_singleton, fields?, hread]
          simp [fieldsFrom, Position.field?]
      | cons _ _ =>
          rw [fields?_intercalate_cons, hshows.fieldsFrom_of_unquoted hquote, fieldsFrom_comma rfl,
            String.ofList_toList]
          exact Option.map_eq_some_iff.mpr ⟨_, ih (List.cons_ne_nil _ _) hquotes, rfl⟩

/-- If no value before it has quotes, a value is read as itself only if it has none. -/
theorem unquoted_of_fields? {read : List String} {k : Nat}
    (h : List.Forall₂ Shows values fields)
    (hread : fields? (",".intercalate fields) = some read)
    (hbefore : forall value, value ∈ values.take k -> Unquoted value)
    (hvalue : values[k]? = some value) (hsame : read[k]? = some value) : Unquoted value := by
  induction h generalizing k read with
  | nil =>
      cases hvalue
  | @cons first field values fields hshows hrest ih =>
      cases k with
      | zero =>
          cases hvalue
          rw [← List.head?_eq_getElem?] at hsame
          cases hrest with
          | nil =>
              rw [String.intercalate_singleton, fields?] at hread
              refine hshows.unquoted AtEnd.line ?_ hsame
              rw [List.append_nil]
              exact hread
          | cons _ _ =>
              rw [fields?_intercalate_cons] at hread
              exact hshows.unquoted (AtEnd.comma _) hread hsame
      | succ k =>
          rw [List.take_succ_cons, List.forall_mem_cons] at hbefore
          cases hrest with
          | nil =>
              cases hvalue
          | cons _ _ =>
              rw [fields?_intercalate_cons, hshows.fieldsFrom_of_unquoted hbefore.left,
                fieldsFrom_comma rfl] at hread
              rcases Option.map_eq_some_iff.mp hread with ⟨others, hothers, rfl⟩
              exact ih hothers hbefore.right hvalue hsame

end Csv
end NetworkPlan
