import NetworkPlan.Proofs.Text.Trim
import NetworkPlan.Validation.Checks

/-!
# Checks that find nothing

A check that finds nothing is a pure value.  What a document must look like for that is stated
here once for each kind of member; the sections follow by taking their checks apart.
-/

namespace NetworkPlan
namespace Checked

variable {α β : Type}

theorem eq_pure_iff {x : Checked α} {a : α} : x = pure a ↔ x.value = a ∧ x.findings = [] := by
  cases x with
  | mk value findings =>
      exact Checked.mk.injEq value findings a [] ▸ Iff.rfl

theorem bind_eq_pure {x : Checked α} {f : α -> Checked β} {b : β} :
    (x >>= f) = pure b ↔ exists a, x = pure a ∧ f a = pure b := by
  simp only [eq_pure_iff, value_bind, findings_bind, List.append_eq_nil_iff]
  constructor
  · intro h
    exact ⟨x.value, ⟨rfl, h.right.left⟩, h.left, h.right.right⟩
  · intro h
    rcases h with ⟨a, ⟨rfl, hx⟩, hvalue, hf⟩
    exact ⟨hvalue, hx, hf⟩

theorem pure_eq_pure {a b : α} : (pure a : Checked α) = pure b ↔ a = b := by
  simp [eq_pure_iff]

theorem report_ne_pure {path problem : String} {u : Unit} : report path problem ≠ pure u := by
  simp [eq_pure_iff]

theorem missing_ne_pure {path problem : String} {a : Option α} :
    missing path problem ≠ pure a := by
  simp [eq_pure_iff, missing]

/-- A report in front of a value is a finding. -/
theorem report_bind_ne_pure {path problem : String} {f : Unit -> Checked α} {a : α} :
    (report path problem >>= f) ≠ pure a := by
  simp [eq_pure_iff]

theorem inRange_eq_pure {value : Option Int} {path : String} {least greatest : Int} {u : Unit} :
    inRange value path least greatest = pure u ↔
      forall v, value = some v -> least ≤ v ∧ v ≤ greatest := by
  cases value with
  | none =>
      simp [inRange]
  | some v =>
      by_cases hrange : least ≤ v ∧ v ≤ greatest <;> simp [inRange, hrange, report_ne_pure]

theorem each_eq_pure {check : α -> Checked Unit} {items : List α} {u : Unit} :
    each check items = pure u ↔ forall item, item ∈ items -> check item = pure () := by
  induction items with
  | nil =>
      simp [each]
  | cons item rest ih =>
      rw [each, bind_eq_pure, List.forall_mem_cons, ← ih]
      constructor
      · intro h
        rcases h with ⟨_, hitem, hrest⟩
        exact ⟨hitem, hrest⟩
      · intro h
        exact ⟨(), h.left, h.right⟩

theorem eachItem_eq_pure {check : Option Json -> String -> Checked Unit} {path : String}
    {index : Nat} {items : List Json} {u : Unit} (h : eachItem check path index items = pure u)
    {item : Json} (hitem : item ∈ items) : exists place, check (some item) place = pure () := by
  induction items generalizing index with
  | nil =>
      cases hitem
  | cons first rest ih =>
      rw [eachItem, bind_eq_pure] at h
      rcases h with ⟨_, hfirst, hrest⟩
      rcases List.mem_cons.mp hitem with rfl | hlater
      · exact ⟨_, hfirst⟩
      · exact ih hrest hlater

end Checked

namespace Section

open Checked

variable {s : Section} {key : String}

theorem subsection_eq_pure {child : Section} :
    s.subsection key = pure child ↔
      exists members, s.get? key = some (.object members) ∧
        (⟨s.pathTo key, some members⟩ : Section) = child := by
  unfold subsection
  cases hget : s.get? key with
  | none =>
      simp [report_bind_ne_pure]
  | some value =>
      cases value <;> simp [report_bind_ne_pure, pure_eq_pure]

theorem element_eq_pure {path : String} {index : Nat} {value : Json} {child : Section} :
    element path index value = pure child ↔
      exists members, value = .object members ∧
        (⟨s!"{path}[{index}]", some members⟩ : Section) = child := by
  unfold element
  cases value <;> simp [report_bind_ne_pure, pure_eq_pure]

theorem bool_eq_pure {b? : Option Bool} :
    s.bool key = pure b? ↔ exists b, s.get? key = some (.bool b) ∧ some b = b? := by
  unfold bool
  cases hget : s.get? key with
  | none =>
      simp [missing_ne_pure]
  | some value =>
      cases value <;> simp [missing_ne_pure, pure_eq_pure]

theorem nonBlank_eq_pure {t? : Option String} :
    s.nonBlank key = pure t? ↔
      exists text t, s.get? key = some (.string text) ∧ Text.nonBlank? text = some t ∧
        some t = t? := by
  unfold nonBlank
  cases hget : s.get? key with
  | none =>
      simp [missing_ne_pure]
  | some value =>
      cases value with
      | string text =>
          cases htext : Text.nonBlank? text <;>
            simp [htext, missing_ne_pure, pure_eq_pure]
      | _ =>
          simp [missing_ne_pure]

theorem int_eq_pure {n? : Option Int} :
    s.int key = pure n? ↔
      exists n, s.get? key = some (.number (.integer n)) ∧ n < integerBound ∧ some n = n? := by
  unfold int
  cases hget : s.get? key with
  | none =>
      simp [missing_ne_pure]
  | some value =>
      cases value with
      | number x =>
          cases x with
          | integer n =>
              by_cases hn : n < integerBound <;>
                simp [hn, missing_ne_pure, pure_eq_pure]
          | double x =>
              simp [missing_ne_pure]
      | _ =>
          simp [missing_ne_pure]

theorem array_eq_pure {hint : String} {items? : Option (List Json)} :
    s.array key hint = pure items? ↔
      exists items, s.get? key = some (.array items) ∧ some items = items? := by
  unfold array
  cases hget : s.get? key with
  | none =>
      simp [missing_ne_pure]
  | some value =>
      cases value <;> simp [missing_ne_pure, pure_eq_pure]

theorem blockValue_eq_pure {value : Option Json} {path : String} {block? : Option Block} :
    blockValue value path = pure block? ↔
      exists text block, value = some (.string text) ∧ (Text.nonBlank? text).isSome ∧
        Block.parseNetwork text = .ok block ∧ some block = block? := by
  unfold blockValue
  cases value with
  | none =>
      simp [missing_ne_pure]
  | some value =>
      cases value with
      | string text =>
          cases htext : Text.nonBlank? text <;> cases hblock : Block.parseNetwork text <;>
            simp [htext, hblock, missing_ne_pure, pure_eq_pure]
      | _ =>
          simp [missing_ne_pure]

theorem optionalAddressValue_eq_pure {value : Option Json} {path : String} {u : Unit} :
    optionalAddressValue value path = pure u ↔
      value = none ∨ exists text, value = some (.string text) ∧
        (text = "" ∨ (Address.parse text).isOk = true) := by
  unfold optionalAddressValue
  cases value with
  | none =>
      simp
  | some value =>
      cases value with
      | string text =>
          by_cases htext : text = "" <;> cases hparse : (Address.parse text).isOk <;>
            simp [htext, hparse, report_ne_pure]
      | _ =>
          simp [report_ne_pure]

theorem optionalAddressOrBlock_eq_pure {u : Unit} :
    s.optionalAddressOrBlock key = pure u ↔
      s.get? key = none ∨ exists text, s.get? key = some (.string text) ∧
        (text = "" ∨ Block.isAddressOrNetwork text = true) := by
  unfold optionalAddressOrBlock
  cases hget : s.get? key with
  | none =>
      simp
  | some value =>
      cases value with
      | string text =>
          by_cases htext : text = "" <;> cases hparse : Block.isAddressOrNetwork text <;>
            simp [htext, hparse, report_ne_pure]
      | _ =>
          simp [report_ne_pure]

end Section
end NetworkPlan
