import NetworkPlan.Proofs.Validation.Duplicates

/-!
# What the members of a section say

A check of one member reports nothing exactly if the member says what it should, and then gives what
the member says.  The sections that consist of many such members are put together from these
statements.
-/

namespace NetworkPlan

namespace Json

/-- The integer that a value is, in the signed 64-bit range.  No integer of a document lies below
that range. -/
def integer? : Json -> Option Int
  | number (.integer n) => if n < Section.integerBound then some n else none
  | _ => none

def bool? : Json -> Option Bool
  | bool b => some b
  | _ => none

def string? : Json -> Option String
  | string text => some text
  | _ => none

/-- An array of texts of one sort, item by item. -/
theorem exists_strings_iff {items : List Json} {p : String -> Prop} :
    (exists texts, array items = strings texts ∧ forall text, text ∈ texts -> p text) ↔
      forall item, item ∈ items -> exists text, item = string text ∧ p text := by
  simp only [strings, array.injEq]
  constructor
  · rintro ⟨texts, rfl, htexts⟩ item hitem
    rcases List.mem_map.mp hitem with ⟨text, htext, rfl⟩
    exact ⟨text, rfl, htexts text htext⟩
  · intro h
    induction items with
    | nil =>
        exact ⟨[], rfl, by simp⟩
    | cons item rest ih =>
        rcases List.forall_mem_cons.mp h with ⟨⟨text, rfl, htext⟩, hrest⟩
        rcases ih hrest with ⟨texts, rfl, htexts⟩
        exact ⟨text :: texts, rfl, List.forall_mem_cons.mpr ⟨htext, htexts⟩⟩

end Json

namespace Section

/-- The text of a member without the blanks around it, unless nothing is left of it. -/
def trimmed? (s : Section) (key : String) : Option String :=
  (s.get? key).bind Validation.trimmed?

def integer? (s : Section) (key : String) : Option Int :=
  (s.get? key).bind Json.integer?

def bool? (s : Section) (key : String) : Option Bool :=
  (s.get? key).bind Json.bool?

def string? (s : Section) (key : String) : Option String :=
  (s.get? key).bind Json.string?

/-- A member names one of the allowed texts. -/
def Chooses (s : Section) (key : String) (allowed : List String) : Prop :=
  exists text, s.trimmed? key = some text ∧ text ∈ allowed

/-- A member gives an integer with a property. -/
def Counts (s : Section) (key : String) (p : Int -> Prop) : Prop :=
  exists n, s.integer? key = some n ∧ p n

/-- A member is true or false. -/
def Decides (s : Section) (key : String) : Prop :=
  exists b, s.bool? key = some b

/-- A member is true. -/
def Affirms (s : Section) (key : String) : Prop :=
  s.bool? key = some true

/-- The section that a member is. -/
def child? (s : Section) (key : String) : Option Section :=
  match s.get? key with
  | some (.object members) => some ⟨s.pathTo key, some members⟩
  | _ => none

end Section

namespace Checked

variable {α β : Type}

theorem eq_pure_unit_iff {x : Checked Unit} : x = pure () ↔ x.findings = [] := by
  rw [eq_pure_iff]
  exact and_iff_right rfl

/-- A check that is made under a condition, in front of others. -/
theorem findings_ite_bind {c : Prop} [Decidable c] {x : Checked Unit} {y : Checked β} :
    (if c then x >>= fun _ => y else y).findings =
      (if c then x.findings else []) ++ y.findings := by
  split <;> rfl

theorem findings_report_ite_eq_nil_iff {c : Prop} [Decidable c] {path problem : String} :
    (if c then report path problem else pure ()).findings = [] ↔ ¬ c := by
  split <;> simp [*]

theorem findings_oneOf_eq_nil_iff {value : Option String} {path : String}
    {allowed : List String} :
    (oneOf value path allowed).findings = [] ↔
      forall text, value = some text -> text ∈ allowed := by
  cases value with
  | none =>
      simp [oneOf]
  | some text =>
      by_cases hallowed : text ∈ allowed <;> simp [oneOf, hallowed]

theorem findings_inRange_eq_nil_iff {value : Option Int} {path : String} {least greatest : Int} :
    (inRange value path least greatest).findings = [] ↔
      forall n, value = some n -> least ≤ n ∧ n ≤ greatest := by
  rw [← eq_pure_unit_iff, inRange_eq_pure]

theorem findings_atLeast_eq_nil_iff {value : Option Int} {path : String} {least : Int} :
    (atLeast value path least).findings = [] ↔ forall n, value = some n -> least ≤ n := by
  cases value with
  | none =>
      simp [atLeast]
  | some n =>
      by_cases hleast : least ≤ n <;> simp [atLeast, hleast]

/-- A check of items that does not depend on their place. -/
theorem findings_eachItem_eq_nil_iff {check : Option Json -> String -> Checked Unit}
    {p : Json -> Prop} (hcheck : forall item path, (check (some item) path).findings = [] ↔ p item)
    {path : String} {index : Nat} {items : List Json} :
    (eachItem check path index items).findings = [] ↔ forall item, item ∈ items -> p item := by
  induction items generalizing index with
  | nil =>
      simp [eachItem]
  | cons item rest ih =>
      rw [eachItem, findings_bind, List.append_eq_nil_iff, hcheck, ih, List.forall_mem_cons]

/-- A check of items that takes texts of one sort only. -/
theorem findings_eachText_eq_nil_iff {check : Option Json -> String -> Checked Unit}
    {p : String -> Prop}
    (hcheck : forall item path,
      (check (some item) path).findings = [] ↔ exists text, item = .string text ∧ p text)
    {path : String} {index : Nat} {items : List Json} :
    (eachItem check path index items).findings = [] ↔
      exists texts, Json.array items = Json.strings texts ∧
        forall text, text ∈ texts -> p text := by
  rw [findings_eachItem_eq_nil_iff hcheck, Json.exists_strings_iff]

end Checked

/-!
## Checks of one member
-/

namespace Checked

variable {α : Type}

/-- The value that was read, or a report that there is none. -/
def ofMember (value : Option α) (path problem : String) : Checked (Option α) :=
  match value with
  | some a => pure (some a)
  | none => missing path problem

variable {value : Option α} {path problem : String}

theorem value_ofMember : (ofMember value path problem).value = value := by
  cases value <;> rfl

theorem findings_ofMember_eq_nil_iff :
    (ofMember value path problem).findings = [] ↔ exists a, value = some a := by
  cases value <;> simp [ofMember, missing]

end Checked

namespace Section

open Checked

variable {s : Section} {key : String}

theorem nonBlank_eq_ofMember :
    s.nonBlank key = ofMember (s.trimmed? key) (s.pathTo key) "must be a non-empty string" := by
  unfold nonBlank trimmed?
  cases s.get? key with
  | none =>
      rfl
  | some value =>
      cases value with
      | string text =>
          cases htext : Text.nonBlank? text <;> simp [Validation.trimmed?, htext, ofMember]
      | _ =>
          rfl

theorem bool_eq_ofMember :
    s.bool key = ofMember (s.bool? key) (s.pathTo key) "must be true or false" := by
  unfold bool bool?
  cases s.get? key with
  | none =>
      rfl
  | some value =>
      cases value <;> rfl

theorem string_eq_ofMember {hint : String} :
    s.string key hint = ofMember (s.string? key) (s.pathTo key) s!"must be a string{hint}" := by
  unfold string string?
  cases s.get? key with
  | none =>
      rfl
  | some value =>
      cases value <;> rfl

theorem exists_int_eq_ofMember :
    exists problem, s.int key = ofMember (s.integer? key) (s.pathTo key) problem := by
  unfold int integer?
  cases s.get? key with
  | none =>
      exact ⟨_, rfl⟩
  | some value =>
      cases value with
      | number x =>
          cases x with
          | integer n =>
              by_cases hn : n < integerBound
              · exact ⟨"", by simp [hn, Json.integer?, ofMember]⟩
              · exact ⟨"integer out of range", by simp [hn, Json.integer?, ofMember]⟩
          | double x =>
              exact ⟨_, rfl⟩
      | _ =>
          exact ⟨_, rfl⟩

theorem value_nonBlank : (s.nonBlank key).value = s.trimmed? key := by
  rw [nonBlank_eq_ofMember, value_ofMember]

theorem value_bool : (s.bool key).value = s.bool? key := by
  rw [bool_eq_ofMember, value_ofMember]

theorem value_string {hint : String} : (s.string key hint).value = s.string? key := by
  rw [string_eq_ofMember, value_ofMember]

theorem value_int : (s.int key).value = s.integer? key := by
  rcases @exists_int_eq_ofMember s key with ⟨problem, heq⟩
  rw [heq, value_ofMember]

theorem findings_nonBlank_eq_nil_iff :
    (s.nonBlank key).findings = [] ↔ exists text, s.trimmed? key = some text := by
  rw [nonBlank_eq_ofMember, findings_ofMember_eq_nil_iff]

theorem findings_bool_eq_nil_iff : (s.bool key).findings = [] ↔ s.Decides key := by
  rw [bool_eq_ofMember, findings_ofMember_eq_nil_iff, Decides]

theorem findings_string_eq_nil_iff {hint : String} :
    (s.string key hint).findings = [] ↔ exists text, s.string? key = some text := by
  rw [string_eq_ofMember, findings_ofMember_eq_nil_iff]

theorem findings_int_eq_nil_iff :
    (s.int key).findings = [] ↔ exists n, s.integer? key = some n := by
  rcases @exists_int_eq_ofMember s key with ⟨problem, heq⟩
  rw [heq, findings_ofMember_eq_nil_iff]

section OptionalSection

variable {required : Bool} {reason : String}

theorem optionalSection_eq :
    s.optionalSection key required reason =
      match s.child? key with
      | some child => pure (some child)
      | none =>
          if required then missing (s.pathTo key) s!"must be an object ({reason})"
          else pure none := by
  unfold optionalSection child?
  cases s.get? key with
  | none =>
      rfl
  | some value =>
      cases value <;> rfl

theorem value_optionalSection :
    (s.optionalSection key required reason).value = s.child? key := by
  rw [optionalSection_eq]
  cases s.child? key with
  | none =>
      cases required <;> rfl
  | some child =>
      rfl

theorem findings_optionalSection_eq_nil_iff :
    (s.optionalSection key required reason).findings = [] ↔
      (required = true -> exists child, s.child? key = some child) := by
  rw [optionalSection_eq]
  cases s.child? key <;> cases required <;> simp [missing]

end OptionalSection

/-!
### Members that are read and then judged
-/

theorem findings_nonBlank_and_iff {p : String -> Prop} :
    ((s.nonBlank key).findings = [] ∧ forall text, s.trimmed? key = some text -> p text) ↔
      exists text, s.trimmed? key = some text ∧ p text := by
  rw [findings_nonBlank_eq_nil_iff]
  cases s.trimmed? key <;> simp

theorem findings_int_and_iff {p : Int -> Prop} :
    ((s.int key).findings = [] ∧ forall n, s.integer? key = some n -> p n) ↔ s.Counts key p := by
  rw [findings_int_eq_nil_iff, Counts]
  cases s.integer? key <;> simp

theorem findings_string_and_iff (hint : String) {p : String -> Prop} :
    ((s.string key hint).findings = [] ∧ forall text, s.string? key = some text -> p text) ↔
      exists text, s.string? key = some text ∧ p text := by
  rw [findings_string_eq_nil_iff]
  cases s.string? key <;> simp

end Section
end NetworkPlan
