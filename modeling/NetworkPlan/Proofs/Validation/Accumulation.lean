import Mathlib
import NetworkPlan.Proofs.Json.Integers
import NetworkPlan.Proofs.Validation.Members
import NetworkPlan.Proofs.Validation.Ranges

/-!
# Checks only add to the report

A validation is a course of checks on the documents and on the sections that the checks come to.
One check reports at most one problem, at the path of what it looks at, and where it gives no value
although one is due it has reported that; by induction on the course, the report is what the checks
have to say one after the other, and every section lies in a document.
-/

namespace NetworkPlan

/-!
## One check
-/

/-- One check of a validation together with what it is made on. -/
inductive FieldCheck where
  | subsection (s : Section) (key : String)
  | element (path : String) (index : Nat) (value : Json)
  | optionalSection (s : Section) (key : String) (required : Bool) (reason : String)
  | bool (s : Section) (key : String)
  | nonBlank (s : Section) (key : String)
  | string (s : Section) (key hint : String)
  | int (s : Section) (key : String)
  | block (s : Section) (key : String)
  | blockValue (value : Option Json) (path : String)
  | optionalAddress (s : Section) (key : String)
  | optionalAddressValue (value : Option Json) (path : String)
  | optionalAddressOrBlock (s : Section) (key : String)
  | array (s : Section) (key hint : String)
  | oneOf (value : Option String) (path : String) (allowed : List String)
  | inRange (value : Option Int) (path : String) (least greatest : Int)
  | atLeast (value : Option Int) (path : String) (least : Int)

/-- What a check gives. -/
inductive Answer where
  | child (s : Section)
  | optionalChild (s? : Option Section)
  | bool (b? : Option Bool)
  | text (t? : Option String)
  | int (n? : Option Int)
  | block (b? : Option Block)
  | items (items? : Option (List Json))
  | nothing

namespace Answer

/-- The sections that a check has come to. -/
def sections : Answer -> List Section
  | child s => [s]
  | optionalChild (some s) => [s]
  | _ => []

/-- There is no value, or a section without members in place of one. -/
def isMissing : Answer -> Bool
  | child s => !s.isObject
  | optionalChild s? => s?.isNone
  | bool b? => b?.isNone
  | text t? => t?.isNone
  | int n? => n?.isNone
  | block b? => b?.isNone
  | items items? => items?.isNone
  | nothing => false

end Answer

namespace Json

def items? : Json -> Option (List Json)
  | array items => some items
  | _ => none

def members? : Json -> Option (List (String × Json))
  | object members => some members
  | _ => none

end Json

namespace FieldCheck

/-- Makes a check. -/
def perform : FieldCheck -> Checked Answer
  | subsection s key => .child <$> s.subsection key
  | element path index value => .child <$> Section.element path index value
  | optionalSection s key required reason =>
      .optionalChild <$> s.optionalSection key required reason
  | bool s key => .bool <$> s.bool key
  | nonBlank s key => .text <$> s.nonBlank key
  | string s key hint => .text <$> s.string key hint
  | int s key => .int <$> s.int key
  | block s key => .block <$> s.block key
  | blockValue value path => .block <$> Section.blockValue value path
  | optionalAddress s key => (fun _ => .nothing) <$> s.optionalAddress key
  | optionalAddressValue value path =>
      (fun _ => .nothing) <$> Section.optionalAddressValue value path
  | optionalAddressOrBlock s key => (fun _ => .nothing) <$> s.optionalAddressOrBlock key
  | array s key hint => .items <$> s.array key hint
  | oneOf value path allowed => (fun _ => .nothing) <$> Checked.oneOf value path allowed
  | inRange value path least greatest =>
      (fun _ => .nothing) <$> Checked.inRange value path least greatest
  | atLeast value path least => (fun _ => .nothing) <$> Checked.atLeast value path least

def answer (check : FieldCheck) : Answer :=
  check.perform.value

/-- The lines that a check adds to the report. -/
def lines (check : FieldCheck) : List String :=
  check.perform.findings.map Finding.line

/-- The path of what a check looks at. -/
def path : FieldCheck -> String
  | subsection s key | optionalSection s key _ _ | bool s key | nonBlank s key | string s key _
  | int s key | block s key | optionalAddress s key | optionalAddressOrBlock s key
  | array s key _ => s.pathTo key
  | element path index _ => s!"{path}[{index}]"
  | blockValue _ path | optionalAddressValue _ path | oneOf _ path _ | inRange _ path _ _
  | atLeast _ path _ => path

/-- The check looks for something that has to be there. -/
def IsDue : FieldCheck -> Prop
  | subsection .. | element .. | bool .. | nonBlank .. | string .. | int .. | block ..
  | blockValue .. | array .. => True
  | optionalSection _ _ required _ => required = true
  | optionalAddress .. | optionalAddressValue .. | optionalAddressOrBlock .. | oneOf ..
  | inRange .. | atLeast .. => False

/-- What the documents say where a check looks. -/
def said : FieldCheck -> Answer
  | subsection s key => .child ⟨s.pathTo key, (s.get? key).bind Json.members?⟩
  | element path index value => .child ⟨s!"{path}[{index}]", value.members?⟩
  | optionalSection s key _ _ => .optionalChild (s.child? key)
  | bool s key => .bool (s.bool? key)
  | nonBlank s key => .text (s.trimmed? key)
  | string s key _ => .text (s.string? key)
  | int s key => .int (s.integer? key)
  | block s key => .block ((s.get? key).bind Validation.block?)
  | blockValue value _ => .block (value.bind Validation.block?)
  | array s key _ => .items ((s.get? key).bind Json.items?)
  | optionalAddress .. | optionalAddressValue .. | optionalAddressOrBlock .. | oneOf ..
  | inRange .. | atLeast .. => .nothing

end FieldCheck

/-!
### What a check may report
-/

namespace Checked

variable {α β : Type} {path problem : String}

@[simp] theorem findings_map (f : α -> β) (x : Checked α) : (f <$> x).findings = x.findings :=
  List.append_nil _

/-- Nothing is reported, or one problem at a path. -/
def ReportsOnce (path : String) (x : Checked α) : Prop :=
  x.findings = [] ∨ exists problem, x.findings = [⟨path, problem⟩]

@[simp] theorem reportsOnce_pure (a : α) : (pure a : Checked α).ReportsOnce path :=
  Or.inl rfl

@[simp] theorem reportsOnce_report : (report path problem).ReportsOnce path :=
  Or.inr ⟨problem, rfl⟩

theorem ReportsOnce.map {x : Checked α} (h : x.ReportsOnce path) (f : α -> β) :
    (f <$> x).ReportsOnce path := by
  rw [ReportsOnce, findings_map]
  exact h

theorem reportsOnce_oneOf {value : Option String} {allowed : List String} :
    (oneOf value path allowed).ReportsOnce path := by
  unfold oneOf
  split
  · split <;> simp
  · simp

theorem reportsOnce_inRange {value : Option Int} {least greatest : Int} :
    (inRange value path least greatest).ReportsOnce path := by
  unfold inRange
  split
  · split <;> simp
  · simp

theorem reportsOnce_atLeast {value : Option Int} {least : Int} :
    (atLeast value path least).ReportsOnce path := by
  unfold atLeast
  split
  · split <;> simp
  · simp

/-- There is a value and nothing is reported, or there is none and one problem is reported at a
path. -/
def GivesOrReports (path : String) (x : Checked (Option α)) : Prop :=
  (exists a, x = pure (some a)) ∨ exists problem, x = missing path problem

@[simp] theorem givesOrReports_pure (a : α) : (pure (some a) : Checked _).GivesOrReports path :=
  Or.inl ⟨a, rfl⟩

@[simp] theorem givesOrReports_missing :
    (missing path problem : Checked (Option α)).GivesOrReports path :=
  Or.inr ⟨problem, rfl⟩

namespace GivesOrReports

variable {x : Checked (Option α)}

theorem reportsOnce (h : x.GivesOrReports path) : x.ReportsOnce path := by
  rcases h with ⟨a, rfl⟩ | ⟨problem, rfl⟩
  · exact reportsOnce_pure _
  · exact Or.inr ⟨problem, rfl⟩

theorem isNone_iff (h : x.GivesOrReports path) : x.value.isNone = true ↔ x.findings ≠ [] := by
  rcases h with ⟨a, rfl⟩ | ⟨problem, rfl⟩ <;> simp [missing]

end GivesOrReports
end Checked

namespace Section

open Checked

variable {s : Section} {key hint path : String} {value : Option Json}

theorem givesOrReports_bool : (s.bool key).GivesOrReports (s.pathTo key) := by
  unfold Section.bool
  split <;> simp

theorem givesOrReports_nonBlank : (s.nonBlank key).GivesOrReports (s.pathTo key) := by
  unfold Section.nonBlank
  split
  · split <;> simp
  · simp

theorem givesOrReports_string : (s.string key hint).GivesOrReports (s.pathTo key) := by
  unfold Section.string
  split <;> simp

theorem givesOrReports_int : (s.int key).GivesOrReports (s.pathTo key) := by
  unfold Section.int
  split
  · split <;> simp
  · simp

theorem givesOrReports_blockValue : (blockValue value path).GivesOrReports path := by
  unfold Section.blockValue
  split
  · split
    · simp
    · split <;> simp
  · simp

theorem givesOrReports_array : (s.array key hint).GivesOrReports (s.pathTo key) := by
  unfold Section.array
  split <;> simp

theorem givesOrReports_optionalSection {reason : String} :
    (s.optionalSection key true reason).GivesOrReports (s.pathTo key) := by
  unfold Section.optionalSection
  split <;> simp

theorem reportsOnce_optionalSection {required : Bool} {reason : String} :
    (s.optionalSection key required reason).ReportsOnce (s.pathTo key) := by
  cases required with
  | false =>
      unfold Section.optionalSection
      split <;> simp
  | true =>
      exact givesOrReports_optionalSection.reportsOnce

theorem reportsOnce_optionalAddressValue : (optionalAddressValue value path).ReportsOnce path := by
  unfold Section.optionalAddressValue
  split
  · simp
  · split <;> simp
  · simp

theorem reportsOnce_optionalAddressOrBlock :
    (s.optionalAddressOrBlock key).ReportsOnce (s.pathTo key) := by
  unfold Section.optionalAddressOrBlock
  split
  · simp
  · split <;> simp
  · simp

theorem value_subsection :
    (s.subsection key).value = ⟨s.pathTo key, (s.get? key).bind Json.members?⟩ := by
  unfold Section.subsection
  cases s.get? key with
  | none =>
      rfl
  | some value =>
      cases value <;> rfl

/-- A section that is not there is reported and counts as empty. -/
theorem findings_subsection :
    (s.subsection key).findings =
      if ((s.get? key).bind Json.members?).isSome then []
      else [⟨s.pathTo key, "must be an object"⟩] := by
  unfold Section.subsection
  cases s.get? key with
  | none =>
      rfl
  | some value =>
      cases value <;> rfl

variable {index : Nat} {item : Json}

theorem value_element :
    (element path index item).value = ⟨s!"{path}[{index}]", item.members?⟩ := by
  unfold Section.element
  cases item <;> rfl

theorem findings_element :
    (element path index item).findings =
      if item.members?.isSome then [] else [⟨s!"{path}[{index}]", "must be an object"⟩] := by
  unfold Section.element
  cases item <;> rfl

theorem value_array : (s.array key hint).value = (s.get? key).bind Json.items? := by
  unfold Section.array
  cases s.get? key with
  | none =>
      rfl
  | some value =>
      cases value <;> rfl

end Section

namespace FieldCheck

open Checked Section

theorem answer_eq_said (check : FieldCheck) : check.answer = check.said := by
  cases check with
  | subsection s key =>
      exact congrArg Answer.child value_subsection
  | element path index value =>
      exact congrArg Answer.child value_element
  | optionalSection s key required reason =>
      exact congrArg Answer.optionalChild value_optionalSection
  | bool s key =>
      exact congrArg Answer.bool value_bool
  | nonBlank s key =>
      exact congrArg Answer.text value_nonBlank
  | string s key hint =>
      exact congrArg Answer.text value_string
  | int s key =>
      exact congrArg Answer.int value_int
  | block s key =>
      exact congrArg Answer.block (Validation.value_blockValue _ _)
  | blockValue value path =>
      exact congrArg Answer.block (Validation.value_blockValue _ _)
  | array s key hint =>
      exact congrArg Answer.items value_array
  | _ =>
      rfl

/-- The step lemma: a check adds at most one line, about the path of what it looks at. -/
theorem reportsOnce_perform (check : FieldCheck) : check.perform.ReportsOnce check.path := by
  cases check with
  | subsection s key =>
      apply ReportsOnce.map
      rw [ReportsOnce, findings_subsection]
      split
      · exact Or.inl rfl
      · exact Or.inr ⟨_, rfl⟩
  | element path index value =>
      apply ReportsOnce.map
      rw [ReportsOnce, findings_element]
      split
      · exact Or.inl rfl
      · exact Or.inr ⟨_, rfl⟩
  | optionalSection s key required reason =>
      exact reportsOnce_optionalSection.map _
  | bool s key =>
      exact givesOrReports_bool.reportsOnce.map _
  | nonBlank s key =>
      exact givesOrReports_nonBlank.reportsOnce.map _
  | string s key hint =>
      exact givesOrReports_string.reportsOnce.map _
  | int s key =>
      exact givesOrReports_int.reportsOnce.map _
  | block s key =>
      exact givesOrReports_blockValue.reportsOnce.map _
  | blockValue value path =>
      exact givesOrReports_blockValue.reportsOnce.map _
  | optionalAddress s key =>
      exact reportsOnce_optionalAddressValue.map _
  | optionalAddressValue value path =>
      exact reportsOnce_optionalAddressValue.map _
  | optionalAddressOrBlock s key =>
      exact reportsOnce_optionalAddressOrBlock.map _
  | array s key hint =>
      exact givesOrReports_array.reportsOnce.map _
  | oneOf value path allowed =>
      exact reportsOnce_oneOf.map _
  | inRange value path least greatest =>
      exact reportsOnce_inRange.map _
  | atLeast value path least =>
      exact reportsOnce_atLeast.map _

theorem length_lines_le (check : FieldCheck) : check.lines.length ≤ 1 := by
  rw [lines, List.length_map]
  rcases check.reportsOnce_perform with hnone | ⟨problem, hone⟩
  · rw [hnone]
    exact Nat.zero_le 1
  · rw [hone]
    exact Nat.le_refl 1

theorem exists_problem_of_mem_lines {check : FieldCheck} {line : String} (h : line ∈ check.lines) :
    exists problem, line = check.path ++ ": " ++ problem := by
  rw [lines] at h
  rcases check.reportsOnce_perform with hnone | ⟨problem, hone⟩
  · rw [hnone] at h
    cases h
  · rw [hone] at h
    exact ⟨problem, List.mem_singleton.mp h⟩

/-- What is due and missing is reported, and only that. -/
theorem isMissing_answer_iff {check : FieldCheck} (h : check.IsDue) :
    check.answer.isMissing = true ↔ check.lines ≠ [] := by
  rw [lines, Ne, List.map_eq_nil_iff]
  cases check with
  | subsection s key =>
      rw [answer_eq_said, perform, findings_map, findings_subsection]
      cases hmembers : (s.get? key).bind Json.members? <;>
        simp [said, Answer.isMissing, Section.isObject, hmembers]
  | element path index value =>
      rw [answer_eq_said, perform, findings_map, findings_element]
      cases hmembers : value.members? <;>
        simp [said, Answer.isMissing, Section.isObject, hmembers]
  | optionalSection s key required reason =>
      cases h
      rw [perform, findings_map]
      exact givesOrReports_optionalSection.isNone_iff
  | bool s key =>
      rw [perform, findings_map]
      exact givesOrReports_bool.isNone_iff
  | nonBlank s key =>
      rw [perform, findings_map]
      exact givesOrReports_nonBlank.isNone_iff
  | string s key hint =>
      rw [perform, findings_map]
      exact givesOrReports_string.isNone_iff
  | int s key =>
      rw [perform, findings_map]
      exact givesOrReports_int.isNone_iff
  | block s key =>
      rw [perform, findings_map]
      exact givesOrReports_blockValue.isNone_iff
  | blockValue value path =>
      rw [perform, findings_map]
      exact givesOrReports_blockValue.isNone_iff
  | array s key hint =>
      rw [perform, findings_map]
      exact givesOrReports_array.isNone_iff
  | _ =>
      cases h

end FieldCheck

/-!
## A course of checks
-/

namespace Checked

/-- The lines of the report so far. -/
def lines {α : Type} (x : Checked α) : List String :=
  x.findings.map Finding.line

/-- One more check: the sections that it comes to are at hand from then on. -/
def followedBy (so : Checked (List Section)) (check : FieldCheck) : Checked (List Section) := do
  let sections ← so
  let answer ← check.perform
  return sections ++ answer.sections

theorem value_followedBy (so : Checked (List Section)) (check : FieldCheck) :
    (so.followedBy check).value = so.value ++ check.answer.sections := rfl

theorem lines_followedBy (so : Checked (List Section)) (check : FieldCheck) :
    (so.followedBy check).lines = so.lines ++ check.lines := by
  simp [lines, followedBy, FieldCheck.lines]

end Checked

/-- A check is made on a section that is at hand or, to come to the item of an array, on a value
that stands in one of the documents.  Values that are checked by themselves may come from
anywhere. -/
def FieldCheck.MadeOn (documents : List Json) (sections : List Section) : FieldCheck -> Prop
  | subsection s _ | optionalSection s _ _ _ | bool s _ | nonBlank s _ | string s _ _ | int s _
  | block s _ | optionalAddress s _ | optionalAddressOrBlock s _ | array s _ _ => s ∈ sections
  | element _ _ value => exists doc, doc ∈ documents ∧ value.StandsIn doc
  | blockValue .. | optionalAddressValue .. | oneOf .. | inRange .. | atLeast .. => True

/-- Checks that are made one after the other in one validation of some documents, and what comes of
them: the sections at hand and the report so far. -/
inductive Course (documents : List Json) : List FieldCheck -> Checked (List Section) -> Prop where
  | start : Course documents [] (pure (documents.map Section.root))
  | check {done : List FieldCheck} {so : Checked (List Section)} (check : FieldCheck) :
      Course documents done so -> check.MadeOn documents so.value ->
      Course documents (done ++ [check]) (so.followedBy check)

namespace Course

variable {documents : List Json} {done : List FieldCheck} {so : Checked (List Section)}

/-- The run lemma of the report: it is what the checks have to say, one after the other. -/
theorem lines_eq (h : Course documents done so) : so.lines = done.flatMap FieldCheck.lines := by
  induction h with
  | start =>
      rfl
  | check _ _ _ ih =>
      rw [Checked.lines_followedBy, ih, List.flatMap_append, List.flatMap_singleton]

end Course

/-!
### Sections lie in the documents
-/

/-- The members of a section are those of an object in one of the documents, if it has any. -/
def Section.LiesIn (documents : List Json) (s : Section) : Prop :=
  forall members, s.members = some members ->
    exists doc, doc ∈ documents ∧ (Json.object members).StandsIn doc

namespace Section

variable {documents : List Json} {s : Section} {key : String}

theorem liesIn_root {doc : Json} (h : doc ∈ documents) : (root doc).LiesIn documents := by
  intro members hmembers
  cases doc with
  | object found =>
      cases hmembers
      exact ⟨_, h, .self⟩
  | _ =>
      cases hmembers

/-- The value of a member stands in the document that the section lies in. -/
theorem LiesIn.standsIn_of_get? (h : s.LiesIn documents) {value : Json}
    (hget : s.get? key = some value) : exists doc, doc ∈ documents ∧ value.StandsIn doc := by
  rcases Option.bind_eq_some_iff.mp hget with ⟨members, hmembers, hvalue⟩
  rcases h members hmembers with ⟨doc, hdoc, hstands⟩
  exact ⟨doc, hdoc, (Json.standsIn_of_get? hvalue).trans hstands⟩

theorem liesIn_of_members? {value : Json} {path : String}
    (h : exists doc, doc ∈ documents ∧ value.StandsIn doc) :
    (⟨path, value.members?⟩ : Section).LiesIn documents := by
  intro members hmembers
  cases value with
  | object found =>
      cases hmembers
      exact h
  | _ =>
      cases hmembers

/-- The section that a member is, if the member has members at all. -/
theorem LiesIn.member (h : s.LiesIn documents) {path : String} :
    (⟨path, (s.get? key).bind Json.members?⟩ : Section).LiesIn documents := by
  intro members hmembers
  rcases Option.bind_eq_some_iff.mp hmembers with ⟨value, hget, hvalue⟩
  have hlies : (⟨path, value.members?⟩ : Section).LiesIn documents :=
    liesIn_of_members? (h.standsIn_of_get? hget)
  exact hlies members hvalue

theorem LiesIn.child? (h : s.LiesIn documents) {child : Section}
    (hchild : s.child? key = some child) : child.LiesIn documents := by
  unfold Section.child? at hchild
  split at hchild
  next members hget =>
    cases hchild
    intro found hfound
    cases hfound
    exact h.standsIn_of_get? hget
  next =>
    cases hchild

end Section

/-- The step lemma of the sections: where those at hand lie in the documents, so do the ones that a
check comes to. -/
theorem FieldCheck.MadeOn.liesIn {documents : List Json} {sections : List Section}
    {check : FieldCheck} (h : check.MadeOn documents sections)
    (hsections : forall s, s ∈ sections -> s.LiesIn documents) {s : Section}
    (hs : s ∈ check.answer.sections) : s.LiesIn documents := by
  rw [answer_eq_said] at hs
  cases check with
  | subsection parent key =>
      cases List.mem_singleton.mp hs
      exact (hsections parent h).member
  | element path index value =>
      cases List.mem_singleton.mp hs
      exact Section.liesIn_of_members? h
  | optionalSection parent key required reason =>
      cases hchild : parent.child? key with
      | none =>
          rw [said, hchild] at hs
          cases hs
      | some child =>
          rw [said, hchild] at hs
          cases List.mem_singleton.mp hs
          exact (hsections parent h).child? hchild
  | _ =>
      cases hs

/-- The run lemma of the sections. -/
theorem Course.liesIn {documents : List Json} {done : List FieldCheck}
    {so : Checked (List Section)} (h : Course documents done so) {s : Section}
    (hs : s ∈ so.value) : s.LiesIn documents := by
  induction h generalizing s with
  | start =>
      rcases List.mem_map.mp hs with ⟨doc, hdoc, rfl⟩
      exact Section.liesIn_root hdoc
  | check _ _ hmade ih =>
      rw [Checked.value_followedBy] at hs
      rcases List.mem_append.mp hs with hbefore | hnew
      · exact ih hbefore
      · exact hmade.liesIn (fun _ => ih) hnew

/-!
### Integers
-/

theorem Section.integer?_eq_some_iff {s : Section} {key : String} {n : Int} :
    s.integer? key = some n ↔
      s.get? key = some (.number (.integer n)) ∧ n < 9223372036854775808 := by
  rw [Section.integer?, Option.bind_eq_some_iff]
  constructor
  · rintro ⟨value, hget, hvalue⟩
    unfold Json.integer? at hvalue
    split at hvalue
    next m =>
      split at hvalue
      next hm =>
        cases hvalue
        exact ⟨hget, hm⟩
      next =>
        cases hvalue
    next =>
      cases hvalue
  · rintro ⟨hget, hn⟩
    exact ⟨_, hget, if_pos hn⟩

/-- Where the integers of the documents fit in 64 bits, the integers of a section that are accepted
are the ones in the signed range. -/
theorem Section.LiesIn.integer?_eq_some_iff {documents : List Json} {s : Section}
    (h : s.LiesIn documents) (hfit : forall doc, doc ∈ documents -> doc.IntegersFit) {key : String}
    {n : Int} :
    s.integer? key = some n ↔ s.get? key = some (.number (.integer n)) ∧
      -9223372036854775808 ≤ n ∧ n < 9223372036854775808 := by
  rw [Section.integer?_eq_some_iff]
  constructor
  · rintro ⟨hget, hn⟩
    rcases h.standsIn_of_get? hget with ⟨doc, hdoc, hstands⟩
    exact ⟨hget, (hfit doc hdoc n hstands).left, hn⟩
  · rintro ⟨hget, _, hn⟩
    exact ⟨hget, hn⟩

/-!
## The report only grows
-/

/-- At any point of a validation, the report is what the checks so far had to say, and one more
check keeps it and adds at most one line, at the path of what it looks at.  The check gives what the
documents say there, and where that is due and missing there is a line about it.  As to the size of
integers, no document has one below the signed range, and those above it count as missing. -/
theorem checks_only_add_lines {documents : List Json} {done : List FieldCheck}
    {so : Checked (List Section)} {check : FieldCheck} (hcourse : Course documents done so)
    (hmade : check.MadeOn documents so.value) :
    so.lines = done.flatMap FieldCheck.lines ∧
    (so.followedBy check).lines = so.lines ++ check.lines ∧
    check.lines.length ≤ 1 ∧
    (forall line, line ∈ check.lines -> exists problem, line = check.path ++ ": " ++ problem) ∧
    check.answer = check.said ∧
    (check.IsDue -> (check.answer.isMissing = true ↔ check.lines ≠ [])) ∧
    (forall text doc, Json.parse text = .ok doc -> doc.IntegersFit) ∧
    ((forall doc, doc ∈ documents -> doc.IntegersFit) ->
      forall s key n, check = .int s key ->
        (check.answer = .int (some n) ↔ s.get? key = some (.number (.integer n)) ∧
          -9223372036854775808 ≤ n ∧ n < 9223372036854775808)) := by
  refine ⟨hcourse.lines_eq, Checked.lines_followedBy so check, check.length_lines_le,
    fun _ => FieldCheck.exists_problem_of_mem_lines, check.answer_eq_said,
    FieldCheck.isMissing_answer_iff, fun _ _ => Json.integersFit_of_parse, ?_⟩
  rintro hfit s key n rfl
  have hlies : s.LiesIn documents := hcourse.liesIn hmade
  rw [FieldCheck.answer_eq_said, FieldCheck.said, Answer.int.injEq]
  exact hlies.integer?_eq_some_iff hfit

/-!
A document whose report has a line about an item that is no object and one about an integer just
above the signed range.  The integer at the lower end of the range is given.
-/

def limitsText : String :=
  "\x7b\"limits\": \x7b\"most\": 9223372036854775808, \"least\": -9223372036854775808\x7d, "
    ++ "\"zones\": [1]\x7d"

def limitsMembers : List (String × Json) := [
  ("most", .number (.integer 9223372036854775808)),
  ("least", .number (.integer (-9223372036854775808)))]

def limitsDocument : Json :=
  .object [("limits", .object limitsMembers), ("zones", .array [.number (.integer 1)])]

def limitsSection : Section :=
  ⟨"limits", some limitsMembers⟩

def limitsChecks : List FieldCheck := [
  .subsection (.root limitsDocument) "limits", .array (.root limitsDocument) "zones" "",
  .element "zones" 0 (.number (.integer 1))]

def limitsReport : Checked (List Section) :=
  limitsChecks.foldl Checked.followedBy (pure [.root limitsDocument])

theorem parse_limitsText : Json.parse limitsText = .ok limitsDocument := by
  cbv

theorem course_limitsReport : Course [limitsDocument] limitsChecks limitsReport := by
  have hitem : Json.StandsIn (.number (.integer 1)) limitsDocument :=
    .member (List.mem_cons_of_mem _ List.mem_cons_self) (.item List.mem_cons_self .self)
  exact .check _ (.check _ (.check _ .start List.mem_cons_self) List.mem_cons_self)
    ⟨_, List.mem_cons_self, hitem⟩

theorem lines_added_of_limits :
    Course [limitsDocument] limitsChecks limitsReport ∧
    (FieldCheck.int limitsSection "most").MadeOn [limitsDocument] limitsReport.value ∧
    (limitsReport.followedBy (.int limitsSection "most")).lines =
      ["zones[0]: must be an object", "limits.most: integer out of range"] ∧
    (FieldCheck.int limitsSection "most").answer.isMissing = true ∧
    (FieldCheck.int limitsSection "least").answer = .int (some (-9223372036854775808)) := by
  have hmost : (FieldCheck.int limitsSection "most").MadeOn [limitsDocument] limitsReport.value :=
    List.mem_cons_of_mem _ List.mem_cons_self
  have hleast : (FieldCheck.int limitsSection "least").MadeOn [limitsDocument] limitsReport.value :=
    hmost
  rcases checks_only_add_lines course_limitsReport hmost with ⟨hlines, hadded, _, _, _, hmissing, _⟩
  rcases checks_only_add_lines course_limitsReport hleast with ⟨_, _, _, _, _, _, hfits, hrange⟩
  refine ⟨course_limitsReport, hmost, ?_, ?_, ?_⟩
  · rw [hadded, hlines]
    rfl
  · exact (hmissing trivial).mpr (by decide)
  · refine (hrange ?_ _ _ _ rfl).mpr ⟨rfl, by decide, by decide⟩
    exact List.forall_mem_singleton.mpr (hfits limitsText limitsDocument parse_limitsText)

end NetworkPlan
