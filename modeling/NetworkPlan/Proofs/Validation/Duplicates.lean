import NetworkPlan.Proofs.Positions
import NetworkPlan.Proofs.Validation.Checks
import NetworkPlan.Validation.Subnets

/-!
# Identifiers that repeat

A definition has a name, an alias and perhaps a token.  For each of the three the check reports
every definition whose identifier was given before, and cites the last definition before it that
has the same one.
-/

namespace NetworkPlan
namespace Validation

open Checked

/-!
## Identifiers
-/

/-- The trimmed form of a value, unless it is not a text or is blank. -/
def trimmed? : Json -> Option String
  | .string text => Text.nonBlank? text
  | _ => none

/-- The identifier that a member of a definition gives. -/
def identifier? (key : String) (item : Json) : Option String :=
  (item.get? key).bind trimmed?

/-- What must differ between definitions. -/
inductive IdentifierKind
  | name
  | aliasName
  | token
deriving DecidableEq

namespace IdentifierKind

def word : IdentifierKind -> String
  | name => "name"
  | aliasName => "alias"
  | token => "legacy token"

/-- The members that give it; the first one with an identifier counts. -/
def keys : IdentifierKind -> List String
  | name => ["name"]
  | aliasName => ["alias", "nsg-rule", "legacyToken", "name"]
  | token => ["nsg-rule", "legacyToken"]

def of? (kind : IdentifierKind) (item : Json) : Option String :=
  kind.keys.findSome? fun key => identifier? key item

/-- The member at which a report is placed. -/
def place (kind : IdentifierKind) (item : Json) : String :=
  match kind with
  | name => "name"
  | aliasName => "alias"
  | token => if (identifier? "nsg-rule" item).isSome then "nsg-rule" else "legacyToken"

def seen (kind : IdentifierKind) (all : SeenNames) : Entries Nat :=
  match kind with
  | name => all.names
  | aliasName => all.aliases
  | token => all.tokens

/-- The check of one definition for a repeated identifier. -/
def check (kind : IdentifierKind) (seen : Entries Nat) (index : Nat) (item : Json) :
    Checked (Entries Nat) :=
  checkNew seen s!"subnetDefinitions[{index}].{kind.place item}" kind.word index (kind.of? item)

/-- What the checks of all definitions report, counted from a position. -/
def reports (kind : IdentifierKind) (seen : Entries Nat) (index : Nat) : List Json -> List Finding
  | [] => []
  | item :: rest =>
      (kind.check seen index item).findings ++
        kind.reports (kind.check seen index item).value (index + 1) rest

def atPosition (kind : IdentifierKind) (items : List Json) (i : Nat) : Option String :=
  items[i]?.bind kind.of?

/-- The last position before another one with a given identifier. -/
structure IsLastBefore (kind : IdentifierKind) (items : List Json) (i : Nat) (value : String)
    (j : Nat) : Prop where
  lt : j < i
  same : kind.atPosition items j = some value
  last : forall k, j < k -> k < i -> kind.atPosition items k ≠ some value

/-- The definition at a position has an identifier that an earlier one has as well. -/
def Repeats (kind : IdentifierKind) (items : List Json) (i : Nat) : Prop :=
  exists value, kind.atPosition items i = some value ∧
    exists j, j < i ∧ kind.atPosition items j = some value

/-- A finding reports the definition at a position and cites the last earlier one with the same
identifier. -/
def Cites (kind : IdentifierKind) (items : List Json) (i : Nat) (f : Finding) : Prop :=
  exists item value j, items[i]? = some item ∧ kind.of? item = some value ∧
    kind.IsLastBefore items i value j ∧
    f = ⟨s!"subnetDefinitions[{i}].{kind.place item}",
      s!"duplicate {kind.word} '{value}' (also subnetDefinitions[{j}])"⟩

/-!
## Positions
-/

variable {kind : IdentifierKind} {items earlier later : List Json} {item : Json}
  {value : String} {i j : Nat}

theorem atPosition_append (h : i < earlier.length) :
    kind.atPosition (earlier ++ later) i = kind.atPosition earlier i := by
  rw [atPosition, List.getElem?_append_left h, atPosition]

theorem atPosition_length :
    kind.atPosition (earlier ++ item :: later) earlier.length = kind.of? item := by
  simp [atPosition]

theorem isLastBefore_append (h : i ≤ earlier.length) :
    kind.IsLastBefore (earlier ++ later) i value j ↔ kind.IsLastBefore earlier i value j := by
  have hat : forall {k}, k < i ->
      kind.atPosition (earlier ++ later) k = kind.atPosition earlier k :=
    fun hk => atPosition_append (Nat.lt_of_lt_of_le hk h)
  constructor
  · intro hlast
    exact ⟨hlast.lt, hat hlast.lt ▸ hlast.same,
      fun k hjk hki hsame => hlast.last k hjk hki ((hat hki).trans hsame)⟩
  · intro hlast
    exact ⟨hlast.lt, (hat hlast.lt).trans hlast.same,
      fun k hjk hki hsame => hlast.last k hjk hki ((hat hki).symm.trans hsame)⟩

/-- The last position before the next one is this one, or the last one before it. -/
theorem isLastBefore_succ :
    kind.IsLastBefore items (i + 1) value j ↔
      if kind.atPosition items i = some value then i = j
      else kind.IsLastBefore items i value j := by
  by_cases hsame : kind.atPosition items i = some value
  · rw [if_pos hsame]
    constructor
    · intro hlast
      have hnot : ¬ j < i := fun hji => hlast.last i hji (Nat.lt_succ_self i) hsame
      have hlt := hlast.lt
      omega
    · intro hij
      subst hij
      exact ⟨Nat.lt_succ_self i, hsame, fun k hik hki => by omega⟩
  · rw [if_neg hsame]
    constructor
    · intro hlast
      have hne : j ≠ i := fun hji => hsame (hji ▸ hlast.same)
      have hlt := hlast.lt
      exact ⟨by omega, hlast.same, fun k hjk hki => hlast.last k hjk (Nat.lt_succ_of_lt hki)⟩
    · intro hlast
      refine ⟨Nat.lt_succ_of_lt hlast.lt, hlast.same, fun k hjk hki => ?_⟩
      by_cases hk : k = i
      · rwa [hk]
      · exact hlast.last k hjk (by omega)

theorem exists_isLastBefore_iff :
    (exists j, kind.IsLastBefore items i value j) ↔
      exists j, j < i ∧ kind.atPosition items j = some value := by
  constructor
  · intro h
    rcases h with ⟨j, hlast⟩
    exact ⟨j, hlast.lt, hlast.same⟩
  · intro h
    rcases h with ⟨j, hji, hsame⟩
    induction i with
    | zero =>
        cases hji
    | succ i ih =>
        simp only [isLastBefore_succ]
        by_cases hlast : kind.atPosition items i = some value
        · exact ⟨i, by rw [if_pos hlast]⟩
        · have hne : j ≠ i := fun h => hlast (h ▸ hsame)
          simpa only [if_neg hlast] using ih (by omega)

/-!
## What has been seen
-/

/-- The position noted for an identifier is the last one that has it. -/
def Tracks (kind : IdentifierKind) (seen : Entries Nat) (earlier : List Json) : Prop :=
  forall value j, seen.get? value = some j ↔ kind.IsLastBefore earlier earlier.length value j

theorem tracks_nil (kind : IdentifierKind) : kind.Tracks [] [] := by
  intro value j
  constructor
  · intro h
    cases h
  · intro h
    cases h.lt

variable {seen : Entries Nat}

theorem check_of_none {index : Nat} (h : kind.of? item = none) :
    kind.check seen index item = pure seen := by
  rw [check, h, checkNew]

theorem value_check {index : Nat} (h : kind.of? item = some value) :
    (kind.check seen index item).value = seen.put value index := by
  cases hseen : seen.get? value <;> simp [check, checkNew, h, hseen]

theorem findings_check_of_new {index : Nat} (h : kind.of? item = some value)
    (hnew : seen.get? value = none) : (kind.check seen index item).findings = [] := by
  simp [check, checkNew, h, hnew]

theorem findings_check_of_seen {index : Nat} (h : kind.of? item = some value)
    (hseen : seen.get? value = some j) :
    (kind.check seen index item).findings =
      [⟨s!"subnetDefinitions[{index}].{kind.place item}",
        s!"duplicate {kind.word} '{value}' (also subnetDefinitions[{j}])"⟩] := by
  simp [check, checkNew, h, hseen]

/-- Noting one more definition keeps track. -/
theorem Tracks.check (h : kind.Tracks seen earlier) (item : Json) :
    kind.Tracks (kind.check seen earlier.length item).value (earlier ++ [item]) := by
  intro value j
  rw [List.length_append, List.length_singleton, isLastBefore_succ, atPosition_length,
    isLastBefore_append (Nat.le_refl _)]
  cases hitem : kind.of? item with
  | none =>
      rw [check_of_none hitem, value_pure, if_neg (by simp)]
      exact h value j
  | some noted =>
      simp only [value_check hitem, Entries.get?_put, Option.some.injEq]
      by_cases hsame : noted = value
      · rw [if_pos hsame, if_pos hsame, Option.some.injEq]
      · rw [if_neg hsame, if_neg hsame]
        exact h value j

/-- An identifier was seen exactly if an earlier definition has it. -/
theorem Tracks.repeats_iff (h : kind.Tracks seen earlier) (hitem : kind.of? item = some value) :
    kind.Repeats (earlier ++ item :: later) earlier.length ↔ exists j, seen.get? value = some j := by
  have hlast : (exists j, kind.IsLastBefore (earlier ++ item :: later) earlier.length value j) ↔
      exists j, seen.get? value = some j :=
    exists_congr fun j => (isLastBefore_append (Nat.le_refl _)).trans (h value j).symm
  rw [← hlast, exists_isLastBefore_iff]
  constructor
  · intro hrepeats
    rcases hrepeats with ⟨value', hvalue, hearlier⟩
    rw [atPosition_length, hitem, Option.some.injEq] at hvalue
    exact hvalue ▸ hearlier
  · intro hearlier
    exact ⟨value, atPosition_length.trans hitem, hearlier⟩

/-- The check of one definition reports it exactly if it repeats an earlier one. -/
theorem Tracks.findings_check (h : kind.Tracks seen earlier) (item : Json) (later : List Json) :
    ((kind.check seen earlier.length item).findings = [] ∧
        ¬ kind.Repeats (earlier ++ item :: later) earlier.length) ∨
      exists f, (kind.check seen earlier.length item).findings = [f] ∧
        kind.Repeats (earlier ++ item :: later) earlier.length ∧
        kind.Cites (earlier ++ item :: later) earlier.length f := by
  cases hitem : kind.of? item with
  | none =>
      left
      refine ⟨by rw [check_of_none hitem, findings_pure], ?_⟩
      intro hrepeats
      rcases hrepeats with ⟨value, hvalue, _⟩
      rw [atPosition_length, hitem] at hvalue
      cases hvalue
  | some value =>
      cases hseen : seen.get? value with
      | none =>
          left
          refine ⟨findings_check_of_new hitem hseen, ?_⟩
          rw [h.repeats_iff hitem, hseen]
          simp
      | some j =>
          right
          refine ⟨_, findings_check_of_seen hitem hseen, (h.repeats_iff hitem).mpr ⟨j, hseen⟩,
            item, value, j, by simp, hitem, ?_, rfl⟩
          exact (isLastBefore_append (Nat.le_refl _)).mpr ((h value j).mp hseen)

/-- All definitions that repeat an earlier one are reported, in order, each with the last one
before it. -/
theorem Tracks.exists_positions (h : kind.Tracks seen earlier) (items : List Json) :
    exists positions,
      Enumerates (· < ·) (fun i => earlier.length ≤ i ∧ kind.Repeats (earlier ++ items) i)
        positions ∧
      List.Forall₂ (kind.Cites (earlier ++ items)) positions
        (kind.reports seen earlier.length items) := by
  -- The definitions already checked move from `items` to `earlier`, and with them the positions.
  induction items generalizing seen earlier with
  | nil =>
      refine ⟨[], Enumerates.nil ?_, List.Forall₂.nil⟩
      intro i hi
      rcases hi with ⟨hle, value, hvalue, _⟩
      rw [List.append_nil, atPosition, List.getElem?_eq_none hle] at hvalue
      cases hvalue
  | cons item rest ih =>
      rcases ih (h.check item) with ⟨positions, hpositions, hcites⟩
      rw [List.length_append, List.length_singleton, List.append_assoc,
        List.singleton_append] at hpositions hcites
      have hsplit (i : Nat) : earlier.length ≤ i ↔ i = earlier.length ∨ earlier.length + 1 ≤ i := by
        omega
      rcases h.findings_check item rest with ⟨hnil, hnot⟩ | ⟨f, hf, hrepeats, hf'⟩
      · refine ⟨positions, hpositions.congr fun i => ?_, ?_⟩
        · rw [hsplit, or_and_right]
          refine (or_iff_right ?_).symm
          intro hi
          exact hnot (hi.left ▸ hi.right)
        · rw [reports, hnil, List.nil_append]
          exact hcites
      · refine ⟨earlier.length :: positions,
          (hpositions.cons fun i hi => hi.left).congr fun i => ?_, ?_⟩
        · rw [hsplit, or_and_right]
          refine or_congr_left (and_iff_left_of_imp ?_).symm
          intro hi
          exact hi ▸ hrepeats
        · rw [reports, hf, List.singleton_append]
          exact List.Forall₂.cons hf' hcites

theorem atPosition_eq_some_iff :
    kind.atPosition items i = some value ↔
      exists h : i < items.length, kind.of? items[i] = some value := by
  unfold atPosition
  by_cases hi : i < items.length
  · simp [hi]
  · simp [hi]

/-- No two definitions have the same identifier exactly if none repeats an earlier one. -/
theorem nodup_iff_forall_not_repeats :
    (items.filterMap kind.of?).Nodup ↔ forall i, ¬ kind.Repeats items i := by
  rw [List.Nodup, List.pairwise_filterMap, List.pairwise_iff_getElem]
  constructor
  · intro hdistinct i hi
    rcases hi with ⟨value, hvalue, j, hji, hvalue'⟩
    rcases atPosition_eq_some_iff.mp hvalue with ⟨hi, hvalue⟩
    rcases atPosition_eq_some_iff.mp hvalue' with ⟨hj, hvalue'⟩
    exact hdistinct j i hj hi hji value hvalue' value hvalue rfl
  · intro hnone j i hj hi hji value hvalue value' hvalue' hsame
    refine hnone i ⟨value, atPosition_eq_some_iff.mpr ⟨hi, hsame ▸ hvalue'⟩, j, hji, ?_⟩
    exact atPosition_eq_some_iff.mpr ⟨hj, hvalue⟩

variable (kind items)

theorem reports_described :
    exists positions, Enumerates (· < ·) (kind.Repeats items) positions ∧
      List.Forall₂ (kind.Cites items) positions (kind.reports [] 0 items) := by
  rcases (tracks_nil kind).exists_positions items with ⟨positions, hpositions, hcites⟩
  exact ⟨positions, hpositions.congr fun i => and_iff_right (Nat.zero_le i), hcites⟩

theorem reports_eq_nil_iff : kind.reports [] 0 items = [] ↔ (items.filterMap kind.of?).Nodup := by
  rcases reports_described kind items with ⟨positions, hpositions, hcites⟩
  rw [nodup_iff_forall_not_repeats]
  constructor
  · intro hnil i hi
    rw [hnil, List.forall₂_nil_right_iff] at hcites
    rw [← hpositions.mem_iff, hcites] at hi
    exact List.not_mem_nil hi
  · intro hnone
    have hnil : positions = [] :=
      List.eq_nil_iff_forall_not_mem.mpr fun i hi => hnone i ((hpositions.mem_iff i).mp hi)
    rwa [hnil, List.forall₂_nil_left_iff] at hcites

end IdentifierKind
end Validation
end NetworkPlan
