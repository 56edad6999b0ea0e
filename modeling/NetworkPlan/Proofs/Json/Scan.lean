import NetworkPlan.Proofs.Json.Draft
import NetworkPlan.Proofs.Json.Reading

/-!
# Scanning and using a text

A value that can be used can also be skipped.  The converse fails in four ways, all of them faults
that skipping does not look for: a number that is too large, a surrogate without its other half in
either place, and nesting that is too deep.
-/

namespace NetworkPlan

/-- The faults that skipping a value does not look for. -/
def SyntaxError.overlooked : List SyntaxError := [
  numberOutOfRange, loneSurrogate, unfinishedPair, nestedTooDeep]

/-!
## Strings
-/

namespace Json

theorem prepend_eq_error {c : Char} {r : Except SyntaxError (List Char × List Char)}
    {e : SyntaxError} : prepend c r = .error e ↔ r = .error e :=
  map_eq_error

/-- What is wrong with a string that can be skipped is a surrogate. -/
theorem unquote_error_of_skipString (cs : List Char) {after : List Char} {e : SyntaxError}
    (hskip : skipString cs = .ok after) (h : unquote cs = .error e) :
    e = .loneSurrogate ∨ e = .unfinishedPair := by
  fun_induction unquote cs generalizing after e
  all_goals simp_all [skipString, prepend_eq_error]
  case case18 hprintable ih =>
    rw [if_neg (by omega)] at hskip
    exact ih hskip

end Json

namespace Draft

/-- A text that can be used, or is wrong in its surrogates only. -/
def ScannedText (s : Except SyntaxError String) : Prop :=
  forall e, s = .error e -> e = .loneSurrogate ∨ e = .unfinishedPair

theorem scannedText_stringValue {cs after : List Char} (h : Json.skipString cs = .ok after) :
    ScannedText (Json.stringValue cs) := by
  intro e he
  exact Json.unquote_error_of_skipString cs h (map_eq_error.mp he)

mutual

/-- What is wrong with the strings in a draft, the names of members among them, are surrogates. -/
def Scanned : Draft -> Prop
  | string s => ScannedText s
  | array items _ _ => ScannedItems items
  | object members _ _ => ScannedMembers members
  | _ => True

def ScannedItems : List Draft -> Prop
  | [] => True
  | item :: rest => Scanned item ∧ ScannedItems rest

def ScannedMembers : List (Except SyntaxError String × Draft) -> Prop
  | [] => True
  | (key, value) :: rest => ScannedText key ∧ Scanned value ∧ ScannedMembers rest

end

/-!
## Drafts that are read off a text
-/

theorem readingInvariant_scanned : ReadingInvariant Scanned ScannedItems ScannedMembers where
  null := trivial
  bool _ := trivial
  number _ := trivial
  string := scannedText_stringValue
  broken _ _ := trivial
  noColon _ := trivial
  array _ _ := id
  object _ _ := id
  noItems := trivial
  item := And.intro
  noMembers := trivial
  member hskip hvalue hrest := ⟨scannedText_stringValue hskip, hvalue, hrest⟩

theorem scanned_of_read (text : String) : (read text).1.Scanned :=
  readingInvariant_scanned.read text

/-!
## What using finds wrong and skipping does not
-/

mutual

theorem skipError?_of_toJson (d : Draft) {value : Json} (h : d.toJson = .ok value) :
    d.skipError? = none := by
  cases d with
  | array items stop tooDeep =>
      rcases toJson_array_eq_ok.mp h with ⟨_, values, hvalues, _⟩
      rcases skipItemsError?_of_toItems items hvalues with ⟨hitems, rfl⟩
      rw [skipError?, hitems]
      rfl
  | object members stop tooDeep =>
      rcases toJson_object_eq_ok.mp h with ⟨_, values, hvalues, _⟩
      rcases skipMembersError?_of_toMembers members hvalues with ⟨hmembers, rfl⟩
      rw [skipError?, hmembers]
      rfl
  | broken start fault =>
      cases h
  | noColon e =>
      cases h
  | _ =>
      rfl

theorem skipItemsError?_of_toItems (items : List Draft) {index : Nat} {stop : Option ListStop}
    {values : List Json} (h : toItems index stop items = .ok values) :
    skipItemsError? items = none ∧ stop = none := by
  cases items with
  | nil =>
      cases stop <;> cases h
      exact ⟨rfl, rfl⟩
  | cons item rest =>
      rcases toItems_cons_eq_ok h with ⟨_, _, hvalue, hvalues, _⟩
      rcases skipItemsError?_of_toItems rest hvalues with ⟨hrest, hstop⟩
      rw [skipItemsError?, skipError?_of_toJson item hvalue, hrest]
      exact ⟨rfl, hstop⟩

theorem skipMembersError?_of_toMembers (members : List (Except SyntaxError String × Draft))
    {stop : Option ObjectStop} {done values : List (String × Json)}
    (h : toMembers stop done members = .ok values) :
    skipMembersError? members = none ∧ stop = none := by
  cases members with
  | nil =>
      cases stop <;> cases h
      exact ⟨rfl, rfl⟩
  | cons entry rest =>
      rcases entry with ⟨key?, d⟩
      cases key? with
      | error e =>
          cases h
      | ok key =>
          rcases toMembers_cons_eq_ok h with ⟨_, hvalue, hvalues⟩
          rcases skipMembersError?_of_toMembers rest hvalues with ⟨hrest, hstop⟩
          rw [skipMembersError?, skipError?_of_toJson d hvalue, hrest]
          exact ⟨rfl, hstop⟩

end

theorem ScannedText.mem_overlooked {s : Except SyntaxError String} (hs : ScannedText s)
    {e : SyntaxError} (h : s = .error e) : e ∈ SyntaxError.overlooked := by
  rcases hs e h with rfl | rfl <;> simp [SyntaxError.overlooked]

mutual

/-- Where a text can be skipped but not used, skipping has overlooked something. -/
theorem error_mem_overlooked (d : Draft) (hd : d.Scanned) (hskip : d.skipError? = none)
    {e : PlacedSyntaxError} (h : d.toJson = .error e) : e.error ∈ SyntaxError.overlooked := by
  cases d with
  | null =>
      cases h
  | bool b =>
      cases h
  | number n =>
      cases n <;> cases h
      simp [SyntaxError.overlooked]
  | string s =>
      cases s with
      | ok s =>
          cases h
      | error e' =>
          cases h
          exact ScannedText.mem_overlooked hd rfl
  | array items stop tooDeep =>
      rw [skipError?, Option.or_eq_none_iff, Option.map_eq_none_iff] at hskip
      rw [toJson] at h
      split at h
      next =>
        cases h
        simp [SyntaxError.overlooked]
      next =>
        rw [hskip.right] at h
        exact items_error_mem_overlooked items hd hskip.left (map_eq_error.mp h)
  | object members stop tooDeep =>
      rw [skipError?, Option.or_eq_none_iff, Option.map_eq_none_iff] at hskip
      rw [toJson] at h
      split at h
      next =>
        cases h
        simp [SyntaxError.overlooked]
      next =>
        rw [hskip.right] at h
        exact members_error_mem_overlooked members hd hskip.left (map_eq_error.mp h)
  | broken start fault =>
      cases hskip
  | noColon e' =>
      cases hskip

theorem items_error_mem_overlooked (items : List Draft) (hitems : ScannedItems items)
    (hskip : skipItemsError? items = none) {index : Nat} {e : PlacedSyntaxError}
    (h : toItems index none items = .error e) : e.error ∈ SyntaxError.overlooked := by
  cases items with
  | nil =>
      cases h
  | cons item rest =>
      rw [skipItemsError?, Option.or_eq_none_iff] at hskip
      rw [toItems] at h
      split at h
      next e' hitem =>
        cases h
        have hfault := error_mem_overlooked item hitems.left hskip.left hitem
        exact hfault
      next =>
        exact items_error_mem_overlooked rest hitems.right hskip.right (map_eq_error.mp h)

theorem members_error_mem_overlooked (members : List (Except SyntaxError String × Draft))
    (hmembers : ScannedMembers members) (hskip : skipMembersError? members = none)
    {done : List (String × Json)} {e : PlacedSyntaxError}
    (h : toMembers none done members = .error e) : e.error ∈ SyntaxError.overlooked := by
  cases members with
  | nil =>
      cases h
  | cons entry rest =>
      rcases entry with ⟨key?, d⟩
      rw [skipMembersError?, Option.or_eq_none_iff] at hskip
      cases key? with
      | error e' =>
          cases h
          exact ScannedText.mem_overlooked hmembers.left rfl
      | ok key =>
          rw [toMembers] at h
          split at h
          next e' hvalue =>
            cases h
            have hfault := error_mem_overlooked d hmembers.right.left hskip.left hvalue
            exact hfault
          next =>
            exact members_error_mem_overlooked rest hmembers.right.right hskip.right h

end

end Draft
end NetworkPlan
