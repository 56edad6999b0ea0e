import NetworkPlan.Proofs.Json.Draft
import NetworkPlan.Proofs.Json.Reading

/-!
# The integers of a document

A number of a document is an integer only if it fits in 64 bits, with or without sign; one that does
not is a double.  So a check that refuses what is too large for the signed range need not look for
what is too small.
-/

namespace NetworkPlan

namespace Entries

variable {α : Type} {key name : String} {value other : α} {entries : Entries α}

theorem mem_of_get? (h : get? key entries = some value) : (key, value) ∈ entries := by
  induction entries with
  | nil =>
      cases h
  | cons entry rest ih =>
      rcases entry with ⟨first, found⟩
      rw [get?] at h
      split at h
      next hkey =>
        cases h
        rw [hkey]
        exact List.mem_cons_self
      next =>
        exact List.mem_cons_of_mem _ (ih h)

theorem mem_put (h : (name, other) ∈ put key value entries) :
    other = value ∨ (name, other) ∈ entries := by
  induction entries with
  | nil =>
      cases List.mem_singleton.mp h
      exact Or.inl rfl
  | cons entry rest ih =>
      rcases entry with ⟨first, found⟩
      rw [put] at h
      split at h
      next =>
        rcases List.mem_cons.mp h with hsame | hrest
        · cases hsame
          exact Or.inl rfl
        · exact Or.inr (List.mem_cons_of_mem _ hrest)
      next =>
        rcases List.mem_cons.mp h with hsame | hrest
        · exact Or.inr (hsame ▸ List.mem_cons_self)
        · exact (ih hrest).imp_right (List.mem_cons_of_mem _)

end Entries

namespace Json

/-!
## Values inside a value
-/

/-- A value stands in another one: it is that value, or it stands in an item or a member of it. -/
inductive StandsIn (value : Json) : Json -> Prop where
  | self : StandsIn value value
  | item {items : List Json} {item : Json} : item ∈ items -> StandsIn value item ->
      StandsIn value (.array items)
  | member {members : List (String × Json)} {key : String} {inner : Json} :
      (key, inner) ∈ members -> StandsIn value inner -> StandsIn value (.object members)

theorem StandsIn.trans {inner middle outer : Json} (hinner : inner.StandsIn middle)
    (hmiddle : middle.StandsIn outer) : inner.StandsIn outer := by
  induction hmiddle with
  | self =>
      exact hinner
  | item hmem _ ih =>
      exact .item hmem ih
  | member hmem _ ih =>
      exact .member hmem ih

theorem standsIn_of_get? {key : String} {members : List (String × Json)} {value : Json}
    (h : Entries.get? key members = some value) : value.StandsIn (.object members) :=
  .member (Entries.mem_of_get? h) .self

/-- Every integer in a value fits in 64 bits, with or without sign. -/
def IntegersFit (value : Json) : Prop :=
  forall n, (number (.integer n)).StandsIn value ->
    -9223372036854775808 ≤ n ∧ n < 18446744073709551616

theorem integersFit_array {items : List Json} (h : forall item, item ∈ items -> item.IntegersFit) :
    (array items).IntegersFit := by
  intro n hn
  cases hn with
  | item hmem hinner =>
      exact h _ hmem n hinner

theorem integersFit_object {members : List (String × Json)}
    (h : forall key value, (key, value) ∈ members -> value.IntegersFit) :
    (object members).IntegersFit := by
  intro n hn
  cases hn with
  | member hmem hinner =>
      exact h _ _ hmem n hinner

end Json

/-!
## Integers that are read
-/

theorem Literal.fits_of_value? {l : Literal} {n : Int} (h : l.value? = some (.integer n)) :
    -9223372036854775808 ≤ n ∧ n < 18446744073709551616 := by
  have hdouble : l.double?.map Number.double ≠ some (.integer n) := by
    intro hx
    rcases Option.map_eq_some_iff.mp hx with ⟨x, _, hx⟩
    cases hx
  have hcount : wordCount = 18446744073709551616 := rfl
  unfold Literal.value? at h
  cases hnegative : l.negative with
  | false =>
      simp only [hnegative, Bool.false_eq_true, if_false] at h
      split at h
      next hinteger =>
        rw [Bool.and_eq_true, decide_eq_true_eq] at hinteger
        cases h
        omega
      next =>
        exact absurd h hdouble
  | true =>
      simp only [hnegative, if_true] at h
      split at h
      next hinteger =>
        simp only [Bool.and_eq_true, decide_eq_true_eq] at hinteger
        cases h
        omega
      next =>
        exact absurd h hdouble

namespace Draft

theorem exists_mem_of_toItems {items : List Draft} {index : Nat} {stop : Option ListStop}
    {values : List Json} (h : toItems index stop items = .ok values) {value : Json}
    (hvalue : value ∈ values) : exists d, d ∈ items ∧ d.toJson = .ok value := by
  induction items generalizing index values with
  | nil =>
      cases stop <;> cases h
      cases hvalue
  | cons item rest ih =>
      rcases toItems_cons_eq_ok h with ⟨first, others, hfirst, hothers, rfl⟩
      rcases List.mem_cons.mp hvalue with rfl | hlater
      · exact ⟨item, List.mem_cons_self, hfirst⟩
      · rcases ih hothers hlater with ⟨d, hd, hread⟩
        exact ⟨d, List.mem_cons_of_mem _ hd, hread⟩

theorem exists_mem_of_toMembers {members : List (Except SyntaxError String × Draft)}
    {stop : Option ObjectStop} {done values : List (String × Json)}
    (h : toMembers stop done members = .ok values) {key : String} {value : Json}
    (hvalue : (key, value) ∈ values) :
    (key, value) ∈ done ∨ exists member, member ∈ members ∧ member.2.toJson = .ok value := by
  induction members generalizing done with
  | nil =>
      cases stop <;> cases h
      exact Or.inl hvalue
  | cons member rest ih =>
      rcases member with ⟨name?, d⟩
      cases name? with
      | error e =>
          cases h
      | ok name =>
          rcases toMembers_cons_eq_ok h with ⟨first, hfirst, hothers⟩
          rcases ih hothers with hdone | ⟨member, hmember, hread⟩
          · rcases Entries.mem_put hdone with rfl | hbefore
            · exact Or.inr ⟨_, List.mem_cons_self, hfirst⟩
            · exact Or.inl hbefore
          · exact Or.inr ⟨member, List.mem_cons_of_mem _ hmember, hread⟩

/-- The value of the draft, if it has one, has integers of 64 bits only. -/
def Fits (d : Draft) : Prop :=
  forall value, d.toJson = .ok value -> value.IntegersFit

theorem readingInvariant_fits :
    ReadingInvariant Fits (fun items => forall d, d ∈ items -> d.Fits)
      (fun members => forall member, member ∈ members -> member.2.Fits) where
  null := by
    rintro _ ⟨⟩ n ⟨⟩
  bool b := by
    rintro _ ⟨⟩ n ⟨⟩
  number l := by
    intro value h n hn
    cases hread : l.value? with
    | none =>
        rw [hread] at h
        cases h
    | some x =>
        rw [hread] at h
        cases h
        cases hn
        exact Literal.fits_of_value? hread
  string {cs _} _ := by
    intro value h n hn
    cases hread : Json.stringValue cs with
    | error e =>
        rw [hread] at h
        cases h
    | ok s =>
        rw [hread] at h
        cases h
        cases hn
  broken _ _ := by
    rintro _ ⟨⟩
  noColon _ := by
    rintro _ ⟨⟩
  array _ _ hitems := by
    intro value h
    rcases toJson_array_eq_ok.mp h with ⟨_, values, hvalues, rfl⟩
    apply Json.integersFit_array
    intro item hitem
    rcases exists_mem_of_toItems hvalues hitem with ⟨d, hd, hread⟩
    exact hitems d hd item hread
  object _ _ hmembers := by
    intro value h
    rcases toJson_object_eq_ok.mp h with ⟨_, values, hvalues, rfl⟩
    apply Json.integersFit_object
    intro key item hitem
    rcases exists_mem_of_toMembers hvalues hitem with hnone | ⟨member, hmember, hread⟩
    · cases hnone
    · exact hmembers member hmember item hread
  noItems := List.forall_mem_nil _
  item hd hrest := List.forall_mem_cons.mpr ⟨hd, hrest⟩
  noMembers := List.forall_mem_nil _
  member _ hd hrest := List.forall_mem_cons.mpr ⟨hd, hrest⟩

end Draft

/-- Every integer of a document that was read fits in 64 bits. -/
theorem Json.integersFit_of_parse {text : String} {doc : Json} (h : Json.parse text = .ok doc) :
    doc.IntegersFit := by
  have hfits : (Draft.read text).1.Fits := Draft.readingInvariant_fits.read text
  unfold Json.parse at h
  rcases hread : Draft.read text with ⟨d, after⟩
  rw [hread] at h hfits
  simp only at h
  split at h
  next =>
    cases h
  next value hvalue =>
    split at h
    · cases h
      exact hfits doc hvalue
    · cases h

end NetworkPlan
