import NetworkPlan.Json.Basic
import NetworkPlan.Address.Notation
import NetworkPlan.Text.Quoted

/-!
# Findings

Validation goes through a whole document and collects everything that is wrong with it. A check
gives a value together with the findings it makes; running checks one after the other joins
their findings in order, so no check can take back what an earlier one found.
-/

namespace NetworkPlan

/-- Something wrong at a place in a document. -/
structure Finding where
  path : String
  problem : String
deriving DecidableEq

/-- The line that reports a finding. -/
def Finding.line (f : Finding) : String :=
  s!"{f.path}: {f.problem}"

/-- A value and what was found on the way to it. -/
structure Checked (α : Type) where
  value : α
  findings : List Finding

namespace Checked

variable {α β : Type}

instance : Monad Checked where
  pure a := ⟨a, []⟩
  bind x f := ⟨(f x.value).value, x.findings ++ (f x.value).findings⟩

/-- Reports one finding. -/
def report (path problem : String) : Checked Unit :=
  ⟨(), [⟨path, problem⟩]⟩

/-- Reports one finding in place of a value. -/
def missing (path problem : String) : Checked (Option α) :=
  ⟨none, [⟨path, problem⟩]⟩

/-- Runs a check on each element of a list, in order. -/
def each (check : α → Checked Unit) : List α → Checked Unit
  | [] => pure ()
  | a :: rest => do
      check a
      each check rest

@[simp] theorem value_pure (a : α) : (pure a : Checked α).value = a := rfl

@[simp] theorem findings_pure (a : α) : (pure a : Checked α).findings = [] := rfl

@[simp] theorem value_bind (x : Checked α) (f : α → Checked β) :
    (x >>= f).value = (f x.value).value := rfl

@[simp] theorem findings_bind (x : Checked α) (f : α → Checked β) :
    (x >>= f).findings = x.findings ++ (f x.value).findings := rfl

@[simp] theorem findings_report (path problem : String) :
    (report path problem).findings = [⟨path, problem⟩] := rfl

end Checked

/-- An object in a document under validation, with the path to it. Where the document has
something else, or nothing, there are no members. -/
structure Section where
  path : String
  members : Option (List (String × Json))

namespace Section

/-- The section of a whole document. -/
def root (doc : Json) : Section :=
  match doc with
  | .object members => ⟨"", some members⟩
  | _ => ⟨"", none⟩

def isObject (s : Section) : Bool :=
  s.members.isSome

/-- The value of a member. -/
def get? (s : Section) (key : String) : Option Json :=
  s.members.bind (Entries.get? key)

/-- The path of a member. -/
def pathTo (s : Section) (key : String) : String :=
  if s.path = "" then key else s!"{s.path}.{key}"

end Section
end NetworkPlan
