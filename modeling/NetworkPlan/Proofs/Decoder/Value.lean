import NetworkPlan.Decoder.Record
import NetworkPlan.Proofs.Outcome

/-!
# Decoding of values

What it takes for a decoder to succeed on a value that was read before.
-/

namespace NetworkPlan
namespace Decoder

variable {α β : Type}

/-- A decoder takes a value that was read before to `a`. -/
def Reads (decoder : Decoder α) (value : Json) (a : α) : Prop :=
  decoder .value (Draft.ofJson value) = .ok a

theorem Reads.unique {decoder : Decoder α} {value : Json} {a b : α} (ha : decoder.Reads value a)
    (hb : decoder.Reads value b) : a = b :=
  Except.ok.inj (ha.symm.trans hb)

theorem mismatch_ne_ok {expected : String} {d : Draft} {a : α} : mismatch expected d ≠ .ok a := by
  unfold mismatch
  split <;> simp

theorem within_eq_ok {way : Path} {r : Except Failure α} {a : α} :
    within way r = .ok a ↔ r = .ok a :=
  mapError_eq_ok

theorem reads_map {decoder : Decoder α} {f : α -> β} {value : Json} {b : β} :
    (decoder.map f).Reads value b ↔ exists a, decoder.Reads value a ∧ f a = b :=
  map_eq_ok

/-!
## Scalars
-/

theorem reads_string {value : Json} {s : String} :
    Reads string value s ↔ value = .string s := by
  cases value <;> simp [Reads, Draft.ofJson, string, mismatch_ne_ok]

theorem reads_bool {value : Json} {b : Bool} : Reads bool value b ↔ value = .bool b := by
  cases value <;> simp [Reads, Draft.ofJson, bool, mismatch_ne_ok]

theorem reads_natural {limit n : Nat} {type : String} {value : Json} :
    Reads (natural limit type) value n ↔ n < limit ∧ value = Json.ofNat n := by
  cases value with
  | number x =>
      cases x with
      | integer i =>
          simp only [Reads, Draft.ofJson, natural, Json.ofNat, Json.number.injEq,
            Number.integer.injEq]
          split
          · simp only [Except.ok.injEq]
            omega
          · simp only [reduceCtorEq, false_iff]
            omega
      | double x =>
          simp [Reads, Draft.ofJson, natural, mismatch_ne_ok, Json.ofNat]
  | _ =>
      simp [Reads, Draft.ofJson, natural, mismatch_ne_ok, Json.ofNat]

theorem reads_block {value : Json} {b : Block} :
    Reads block value b ↔ exists text, value = .string text ∧ Block.parseNetwork text = .ok b := by
  have hblock : Reads block value b ↔
      exists text, Reads string value text ∧ Block.parseNetwork text = .ok b := by
    unfold Reads block
    rw [bind_eq_ok]
    refine exists_congr fun text => and_congr_right fun _ => ?_
    cases Block.parseNetwork text <;> simp
  rw [hblock]
  simp only [reads_string]

theorem reads_option {decoder : Decoder α} {value : Json} {a? : Option α} :
    decoder.option.Reads value a? ↔
      (value = .null ∧ a? = none) ∨
        (value ≠ .null ∧ exists a, decoder.Reads value a ∧ some a = a?) := by
  cases value with
  | null =>
      simp [Reads, Draft.ofJson, option, eq_comm]
  | _ =>
      simp [Reads, Draft.ofJson, option, map_eq_ok]

/-!
## Lists
-/

theorem items_eq_ok {decoder : Decoder α} {index : Nat} {values : List Json} {as : List α} :
    items decoder .value none index (Draft.ofItems values) = .ok as ↔
      List.Forall₂ decoder.Reads values as := by
  induction values generalizing index as with
  | nil =>
      simp [Draft.ofItems, items, eq_comm]
  | cons value rest ih =>
      simp only [Draft.ofItems, items, bind_eq_ok, within_eq_ok, pure_eq_ok, ih,
        List.forall₂_cons_left_iff]
      constructor
      · intro h
        rcases h with ⟨a, ha, as, has, heq⟩
        exact ⟨a, as, ha, has, heq.symm⟩
      · intro h
        rcases h with ⟨a, as, ha, has, heq⟩
        exact ⟨a, ha, as, has, heq.symm⟩

/-- A list is read item by item. -/
theorem reads_list {decoder : Decoder α} {value : Json} {as : List α} :
    decoder.list.Reads value as ↔
      exists items, value = .array items ∧ List.Forall₂ decoder.Reads items as := by
  cases value <;> simp [Reads, Draft.ofJson, list, mismatch_ne_ok, items_eq_ok]

theorem exists_reads_list_iff {decoder : Decoder α} {items : List Json} :
    (exists as, decoder.list.Reads (.array items) as) ↔
      forall item, item ∈ items -> exists a, decoder.Reads item a := by
  simp only [reads_list, Json.array.injEq, exists_eq_left']
  exact exists_forall₂_iff

/-- A decoder gives one list for one list of values. -/
theorem reads_items_unique {decoder : Decoder α} {values : List Json} {as bs : List α}
    (has : List.Forall₂ decoder.Reads values as) (hbs : List.Forall₂ decoder.Reads values bs) :
    as = bs := by
  have hunique : Relator.RightUnique decoder.Reads := fun _ _ _ => Reads.unique
  exact List.right_unique_forall₂' hunique has hbs

/-!
## Objects with members of one type
-/

theorem exists_members_iff {decoder : Decoder α} {done : Entries α}
    {entries : List (String × Json)} :
    (exists as, members decoder .value none done (Draft.ofMembers entries) = .ok as) ↔
      forall entry, entry ∈ entries -> exists a, decoder.Reads entry.snd a := by
  induction entries generalizing done with
  | nil =>
      simp [Draft.ofMembers, members]
  | cons entry rest ih =>
      rcases entry with ⟨key, value⟩
      simp only [Draft.ofMembers, members, bind_eq_ok, within_eq_ok, List.forall_mem_cons]
      constructor
      · intro h
        rcases h with ⟨as, a, ha, has⟩
        exact ⟨⟨a, ha⟩, ih.mp ⟨as, has⟩⟩
      · intro h
        rcases h with ⟨⟨a, ha⟩, hrest⟩
        rcases ih.mpr hrest with ⟨as, has⟩
        exact ⟨as, a, ha, has⟩

theorem exists_reads_entries_iff {decoder : Decoder α} {entries : List (String × Json)} :
    (exists as, decoder.entries.Reads (.object entries) as) ↔
      forall entry, entry ∈ entries -> exists a, decoder.Reads entry.snd a := by
  rw [← @exists_members_iff α decoder [] entries]
  simp only [Reads, Draft.ofJson, Decoder.entries, Bool.false_eq_true, if_false]

end Decoder
end NetworkPlan
