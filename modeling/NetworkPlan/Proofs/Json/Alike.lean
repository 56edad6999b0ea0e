import NetworkPlan.Json.Basic
import NetworkPlan.Proofs.Outcome

/-!
# Values that are written alike

Two numbers with the same text cannot be told apart in a document, whatever they are in memory.
Values are alike if they differ in nothing but such numbers.
-/

namespace NetworkPlan
namespace Json

/-- What holds of a value if it holds of the values inside it holds of every value. -/
@[elab_as_elim]
theorem induction {motive : Json -> Prop} (null : motive .null)
    (bool : forall b, motive (.bool b)) (number : forall n, motive (.number n))
    (string : forall s, motive (.string s))
    (array : forall items, (forall item, item ∈ items -> motive item) -> motive (.array items))
    (object : forall members, (forall member, member ∈ members -> motive member.2) ->
      motive (.object members))
    (value : Json) : motive value :=
  @Json.rec motive (fun items => forall item, item ∈ items -> motive item)
    (fun members => forall member, member ∈ members -> motive member.2)
    (fun member => motive member.2)
    null bool number string array object
    (List.forall_mem_nil _) (fun _ _ hitem hrest => List.forall_mem_cons.mpr ⟨hitem, hrest⟩)
    (List.forall_mem_nil _) (fun _ _ hmember hrest => List.forall_mem_cons.mpr ⟨hmember, hrest⟩)
    (fun _ _ hvalue => hvalue) value

/-- The same value, except that numbers need only have the same text. -/
inductive Alike : Json -> Json -> Prop where
  | null : Alike .null .null
  | bool (b : Bool) : Alike (.bool b) (.bool b)
  | number {m n : Number} (htext : m.toText = n.toText) : Alike (.number m) (.number n)
  | string (s : String) : Alike (.string s) (.string s)
  | array {items others : List Json} (hitems : List.Forall₂ Alike items others) :
      Alike (.array items) (.array others)
  | object {members others : List (String × Json)}
      (hnames : Entries.keys members = Entries.keys others)
      (hvalues : List.Forall₂ (fun member other => Alike member.2 other.2) members others) :
      Alike (.object members) (.object others)

/-- Members with the same name and values that are alike. -/
def SameMember (member other : String × Json) : Prop :=
  member.1 = other.1 ∧ Alike member.2 other.2

theorem alike_object_iff {members others : List (String × Json)} :
    Alike (.object members) (.object others) ↔ List.Forall₂ SameMember members others := by
  constructor
  · intro h
    cases h with
    | object hnames hvalues =>
        induction hvalues with
        | nil =>
            exact .nil
        | cons hvalue _ ih =>
            rcases List.cons.inj hnames with ⟨hname, hrest⟩
            exact .cons ⟨hname, hvalue⟩ (ih hrest)
  · intro h
    have hnames : Entries.keys members = Entries.keys others :=
      map_eq_map_of_forall₂ h fun _ _ _ hmember => hmember.left
    exact .object hnames (h.imp fun _ _ hmember => hmember.right)

end Json
end NetworkPlan
