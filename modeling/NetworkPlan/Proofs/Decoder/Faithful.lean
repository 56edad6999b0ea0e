import NetworkPlan.Proofs.Decoder.Acceptance
import NetworkPlan.Proofs.Json.Scan

/-!
# Decoding a text and decoding its value

A typed reader goes through a text once, without building the value first.  It is faithful if what
it takes from a text it also takes from the value of that text.  Every way of putting readers
together keeps that.
-/

namespace NetworkPlan
namespace Decoder

variable {α β : Type} {decoder : Decoder α}

/-- What a decoder takes from a text, it also takes from the value of the text.  It has looked at
the whole text by then, so that the text can be skipped. -/
structure Faithful (decoder : Decoder α) : Prop where
  skips : forall {d : Draft} {a : α}, decoder .text d = .ok a -> d.skipError? = none
  reads : forall {d : Draft} {a : α} {v : Json}, decoder .text d = .ok a -> d.toJson = .ok v ->
    decoder.Reads v a

namespace Faithful

/-- Where a decoder takes from texts only what stands for a value that it reads alike. -/
theorem of_value (h : forall {d : Draft} {a : α}, decoder .text d = .ok a ->
    exists v : Json, v.WellFormed ∧ d = Draft.ofJson v ∧ decoder.Reads v a) :
    decoder.Faithful where
  skips hread := by
    rcases h hread with ⟨v, _, rfl, _⟩
    exact Draft.skipError?_ofJson v
  reads hread hv := by
    rcases h hread with ⟨v', hnames, rfl, hreads⟩
    rw [Draft.toJson_ofJson v' hnames] at hv
    rw [← Except.ok.inj hv]
    exact hreads

theorem map (h : decoder.Faithful) (f : α -> β) : (decoder.map f).Faithful where
  skips hread := by
    rcases map_eq_ok.mp hread with ⟨a, ha, _⟩
    exact h.skips ha
  reads hread hv := by
    rcases map_eq_ok.mp hread with ⟨a, ha, rfl⟩
    exact reads_map.mpr ⟨a, h.reads ha hv, rfl⟩

/-!
## Scalars
-/

theorem string : Decoder.string.Faithful := by
  refine of_value ?_
  intro d s hread
  unfold Decoder.string at hread
  split at hread
  next s' =>
    exact ⟨.string s', trivial, rfl, hread⟩
  next =>
    exact absurd hread mismatch_ne_ok

theorem natural {limit : Nat} {type : String} : (Decoder.natural limit type).Faithful := by
  refine of_value ?_
  intro d n hread
  unfold Decoder.natural at hread
  split at hread
  next i =>
    exact ⟨.number (.integer i), trivial, rfl, hread⟩
  next =>
    exact absurd hread mismatch_ne_ok

/-- Any value. -/
theorem json : Decoder.json.Faithful where
  skips hread := Draft.skipError?_of_toJson _ (mapError_eq_ok.mp hread)
  reads hread hv := by
    rw [Decoder.json, mapError_eq_ok, hv] at hread
    rw [← Except.ok.inj hread]
    exact mapError_eq_ok.mpr (Draft.toJson_ofJson _ (Draft.wellFormed_of_toJson _ hv))

theorem bind (h : decoder.Faithful) (f : α -> Except Failure β) :
    Faithful (fun origin d => decoder origin d >>= f) where
  skips hread := by
    rcases bind_eq_ok.mp hread with ⟨a, ha, _⟩
    exact h.skips ha
  reads hread hv := by
    rcases bind_eq_ok.mp hread with ⟨a, ha, hf⟩
    exact bind_eq_ok.mpr ⟨a, h.reads ha hv, hf⟩

theorem block : Decoder.block.Faithful :=
  string.bind _

theorem option (h : decoder.Faithful) : decoder.option.Faithful where
  skips hread := by
    unfold Decoder.option at hread
    split at hread
    next => rfl
    next => cases hread
    next =>
      rcases map_eq_ok.mp hread with ⟨a, ha, _⟩
      exact h.skips ha
  reads hread hv := by
    unfold Decoder.option at hread
    split at hread
    next =>
      cases hread
      cases hv
      exact reads_option.mpr (Or.inl ⟨rfl, rfl⟩)
    next => cases hread
    next hnull _ =>
      rcases map_eq_ok.mp hread with ⟨a, ha, rfl⟩
      refine reads_option.mpr (Or.inr ⟨?_, a, h.reads ha hv, rfl⟩)
      rintro rfl
      exact hnull (Draft.eq_null_of_toJson hv)

/-!
## Lists
-/

section Items

variable {stop : Option ListStop} {index : Nat} {ds : List Draft} {as : List α}

theorem skips_items (h : decoder.Faithful) (hread : items decoder .text stop index ds = .ok as) :
    Draft.skipItemsError? ds = none ∧ stop = none := by
  induction ds generalizing index as with
  | nil =>
      cases stop <;> cases hread
      exact ⟨rfl, rfl⟩
  | cons d rest ih =>
      simp only [items, bind_eq_ok, within_eq_ok] at hread
      rcases hread with ⟨a, ha, as, has, _⟩
      rcases ih has with ⟨hrest, hstop⟩
      rw [Draft.skipItemsError?, h.skips ha, hrest]
      exact ⟨rfl, hstop⟩

theorem reads_items (h : decoder.Faithful) (hread : items decoder .text stop index ds = .ok as)
    {place : Nat} {values : List Json} (hvalues : Draft.toItems place stop ds = .ok values) :
    List.Forall₂ decoder.Reads values as := by
  induction ds generalizing index place as values with
  | nil =>
      cases stop <;> cases hread
      cases hvalues
      exact List.Forall₂.nil
  | cons d rest ih =>
      simp only [items, bind_eq_ok, within_eq_ok, pure_eq_ok] at hread
      rcases hread with ⟨a, ha, as, has, rfl⟩
      rcases Draft.toItems_cons_eq_ok hvalues with ⟨v, vs, hv, hvs, rfl⟩
      exact List.Forall₂.cons (h.reads ha hv) (ih has hvs)

end Items

theorem list_eq_ok {origin : Origin} {d : Draft} {as : List α}
    (h : Decoder.list decoder origin d = .ok as) :
    exists ds stop, d = .array ds stop false ∧ items decoder origin stop 0 ds = .ok as := by
  unfold Decoder.list at h
  split at h
  next ds stop tooDeep =>
    cases tooDeep with
    | false => exact ⟨ds, stop, rfl, h⟩
    | true => cases h
  next => exact absurd h mismatch_ne_ok

theorem list (h : decoder.Faithful) : decoder.list.Faithful where
  skips hread := by
    rcases list_eq_ok hread with ⟨ds, stop, rfl, hitems⟩
    rcases h.skips_items hitems with ⟨hskip, rfl⟩
    rw [Draft.skipError?, hskip]
    rfl
  reads hread hv := by
    rcases list_eq_ok hread with ⟨ds, stop, rfl, hitems⟩
    rcases Draft.toJson_array_eq_ok.mp hv with ⟨_, values, hvalues, rfl⟩
    exact reads_list.mpr ⟨values, rfl, h.reads_items hitems hvalues⟩

/-!
## Objects with members of one type
-/

/-- Members with the same names in the same places, each read off the other's value. -/
def Match (decoder : Decoder α) (values : List (String × Json)) (as : Entries α) : Prop :=
  List.Forall₂ (fun v a => v.1 = a.1 ∧ decoder.Reads v.2 a.2) values as

theorem Match.put {values : List (String × Json)} {as : Entries α} (h : Match decoder values as)
    {v : Json} {a : α} (hread : decoder.Reads v a) (key : String) :
    Match decoder (Entries.put key v values) (Entries.put key a as) := by
  induction h with
  | nil =>
      exact List.Forall₂.cons ⟨rfl, hread⟩ List.Forall₂.nil
  | @cons value entry values as hfirst hrest ih =>
      rcases value with ⟨name, value⟩
      rcases entry with ⟨name', b⟩
      rcases hfirst with ⟨rfl, hvalue⟩
      rw [Entries.put, Entries.put]
      split
      · exact List.Forall₂.cons ⟨rfl, hread⟩ hrest
      · exact List.Forall₂.cons ⟨rfl, hvalue⟩ ih

theorem Match.keys_eq {values : List (String × Json)} {as : Entries α}
    (h : Match decoder values as) : Entries.keys values = Entries.keys as :=
  map_eq_map_of_forall₂ h fun _ _ _ hentry => hentry.left

/-- The values of members with distinct names are read in order. -/
theorem Match.members {values : List (String × Json)} {as : Entries α}
    (h : Match decoder values as) {done : Entries α}
    (hnames : (Entries.keys (done ++ as)).Nodup) :
    members decoder .value none done (Draft.ofMembers values) = .ok (done ++ as) := by
  induction h generalizing done with
  | nil =>
      rw [List.append_nil]
      rfl
  | @cons value entry values as hfirst _ ih =>
      rcases value with ⟨name, value⟩
      rcases entry with ⟨name', a⟩
      rcases hfirst with ⟨rfl, hvalue⟩
      have hnew : name ∉ Entries.keys done := Entries.not_mem_keys_of_nodup hnames
      rw [List.append_cons] at hnames ⊢
      rw [Draft.ofMembers, Decoder.members]
      refine bind_eq_ok.mpr ⟨a, within_eq_ok.mpr hvalue, ?_⟩
      rw [Entries.put_of_not_mem a hnew]
      exact ih hnames

section Members

variable {stop : Option ObjectStop} {ms : List (Except SyntaxError String × Draft)}
  {done as : Entries α}

theorem skips_members (h : decoder.Faithful)
    (hread : members decoder .text stop done ms = .ok as) :
    Draft.skipMembersError? ms = none ∧ stop = none := by
  induction ms generalizing done with
  | nil =>
      cases stop <;> cases hread
      exact ⟨rfl, rfl⟩
  | cons entry rest ih =>
      rcases entry with ⟨key?, d⟩
      cases key? with
      | error e =>
          cases hread
      | ok key =>
          simp only [members, bind_eq_ok, within_eq_ok] at hread
          rcases hread with ⟨a, ha, hread⟩
          rcases ih hread with ⟨hrest, hstop⟩
          rw [Draft.skipMembersError?, h.skips ha, hrest]
          exact ⟨rfl, hstop⟩

theorem match_of_members (h : decoder.Faithful)
    (hread : members decoder .text stop done ms = .ok as) {before values : List (String × Json)}
    (hvalues : Draft.toMembers stop before ms = .ok values) (hbefore : Match decoder before done) :
    Match decoder values as := by
  induction ms generalizing done before with
  | nil =>
      cases stop <;> cases hread
      cases hvalues
      exact hbefore
  | cons entry rest ih =>
      rcases entry with ⟨key?, d⟩
      cases key? with
      | error e =>
          cases hread
      | ok key =>
          simp only [members, bind_eq_ok, within_eq_ok] at hread
          rcases hread with ⟨a, ha, hread⟩
          rcases Draft.toMembers_cons_eq_ok hvalues with ⟨v, hv, hvalues⟩
          exact ih hread hvalues (hbefore.put (h.reads ha hv) key)

end Members

theorem entries_eq_ok {origin : Origin} {d : Draft} {as : Entries α}
    (h : Decoder.entries decoder origin d = .ok as) :
    exists ms stop, d = .object ms stop false ∧ members decoder origin stop [] ms = .ok as := by
  unfold Decoder.entries at h
  split at h
  next ms stop tooDeep =>
    cases tooDeep with
    | false => exact ⟨ms, stop, rfl, h⟩
    | true => cases h
  next => exact absurd h mismatch_ne_ok

theorem entries (h : decoder.Faithful) : decoder.entries.Faithful where
  skips hread := by
    rcases entries_eq_ok hread with ⟨ms, stop, rfl, hmembers⟩
    rcases h.skips_members hmembers with ⟨hskip, rfl⟩
    rw [Draft.skipError?, hskip]
    rfl
  reads hread hv := by
    rcases entries_eq_ok hread with ⟨ms, stop, rfl, hmembers⟩
    have hnames := Draft.wellFormed_of_toJson _ hv
    rcases Draft.toJson_object_eq_ok.mp hv with ⟨_, values, hvalues, rfl⟩
    have hmatch := h.match_of_members hmembers hvalues List.Forall₂.nil
    show Decoder.entries decoder .value (.object (Draft.ofMembers values) none false) = _
    rw [Decoder.entries, if_neg Bool.false_ne_true]
    exact hmatch.members (hmatch.keys_eq ▸ hnames.left)

/-!
## Choices
-/

theorem nothing_eq_ok {d : Draft} {u : Unit} (h : nothing d = .ok u) : d = .null := by
  unfold nothing at h
  split at h
  next => rfl
  next => exact absurd h mismatch_ne_ok

/-- How a choice can stand in a text. -/
theorem choiceInText_eq_ok {choices : Entries α} {d : Draft} {a : α}
    (h : choiceInText choices d = .ok a) :
    exists name, variant choices name = .ok a ∧
      (d = .string (.ok name) ∨ d = .object [(.ok name, .null)] none false) := by
  unfold choiceInText at h
  split at h
  next name => exact ⟨name, h, Or.inl rfl⟩
  next => cases h
  next => cases h
  next => cases h
  next => cases h
  next ms stop tooDeep =>
    split at h
    next => cases h
    next hshallow =>
      rw [Bool.not_eq_true] at hshallow
      split at h
      next => split at h <;> cases h
      next => cases h
      next name d rest =>
        rcases bind_eq_ok.mp h with ⟨b, hb, h⟩
        rcases bind_eq_ok.mp h with ⟨_, hnothing, h⟩
        rw [within_eq_ok] at hnothing
        split at h
        next =>
          cases h
          rw [hshallow, nothing_eq_ok hnothing]
          exact ⟨name, hb, Or.inr rfl⟩
        next => cases h
        next => cases h
  next => cases h

theorem choice {choices : Entries α} : (Decoder.choice choices).Faithful := by
  refine of_value ?_
  intro d a hread
  rcases choiceInText_eq_ok hread with ⟨name, hname, rfl | rfl⟩
  · exact ⟨.string name, trivial, rfl, hname⟩
  · refine ⟨.object [(name, .null)], ⟨List.nodup_singleton name, trivial, trivial⟩, rfl, ?_⟩
    exact bind_eq_ok.mpr ⟨a, hname, rfl⟩

end Faithful
end Decoder

/-!
## Records
-/

namespace Record

open Decoder

variable {σ : Type} {r : Record σ}

/-- A member that the record does not know and does not keep either leaves no trace. -/
theorem readOther_eq_ok (hothers : forall put, r.others ≠ .kept put) {origin : Origin}
    {key : String} {d : Draft} {change : σ -> σ} (h : r.readOther origin key d = .ok change) :
    r.others = .skipped ∧ d.skipError? = none ∧ change = id := by
  unfold readOther at h
  split at h
  next hskipped =>
    split at h
    next hskip =>
      cases h
      exact ⟨hskipped, hskip, rfl⟩
    next => cases h
  next => cases h
  next put hkept => exact absurd hkept (hothers put)

section Members

variable (hfaithful : forall m, m ∈ r.members -> m.read.Faithful)
  (hothers : forall put, r.others ≠ .kept put)
include hfaithful hothers

theorem skips_readMembers {stop : Option ObjectStop}
    {ms : List (Except SyntaxError String × Draft)} {seen : List String} {record : σ}
    {read : List String × σ} (hread : r.readMembers .text stop seen record ms = .ok read) :
    Draft.skipMembersError? ms = none ∧ stop = none := by
  induction ms generalizing seen record with
  | nil =>
      cases stop <;> cases hread
      exact ⟨rfl, rfl⟩
  | cons entry rest ih =>
      rcases entry with ⟨key?, d⟩
      cases key? with
      | error e =>
          cases hread
      | ok key =>
          rw [Draft.skipMembersError?]
          rcases readMembers_ok_cons_eq_ok hread with
            ⟨m, change, hfound, _, hchange, hrest⟩ | ⟨change, _, hchange, hrest⟩
          · rw [(hfaithful m (List.mem_of_find?_eq_some hfound)).skips hchange, (ih hrest).left]
            exact ⟨rfl, (ih hrest).right⟩
          · rw [(readOther_eq_ok hothers hchange).right.left, (ih hrest).left]
            exact ⟨rfl, (ih hrest).right⟩

omit hfaithful hothers in
/-- The value of a member that is skipped makes no difference, be it a new member or not. -/
theorem readMembers_put (hskipped : r.others = .skipped) {key : String}
    (hkey : r.members.find? (·.answersTo key) = none) (v : Json)
    {members : List (String × Json)} {seen : List String} {record : σ} :
    r.readMembers .value none seen record (Draft.ofMembers (Entries.put key v members)) =
      r.readMembers .value none seen record (Draft.ofMembers members) := by
  have hother (v : Json) (rest : List (String × Json)) (seen : List String) (record : σ) :
      r.readMembers .value none seen record (Draft.ofMembers ((key, v) :: rest)) =
        r.readMembers .value none seen record (Draft.ofMembers rest) := by
    rw [Draft.ofMembers, readMembers, hkey]
    simp only [readOther, hskipped, Draft.skipError?_ofJson]
    rfl
  induction members generalizing seen record with
  | nil =>
      exact hother v [] seen record
  | cons entry rest ih =>
      rcases entry with ⟨name, value⟩
      rw [Entries.put]
      split
      next hname =>
        rw [hname, hother, hother]
      next =>
        rw [Draft.ofMembers, Draft.ofMembers, readMembers, readMembers]
        simp only [ih]

/-- The members that were read off the text so far are read alike off their values. -/
theorem reads_readMembers (hr : r.Unambiguous) {stop : Option ObjectStop}
    {ms : List (Except SyntaxError String × Draft)} {seen : List String} {record : σ}
    {read : List String × σ} (hread : r.readMembers .text stop seen record ms = .ok read)
    {before values : List (String × Json)}
    (hvalues : Draft.toMembers stop before ms = .ok values)
    (hbefore : r.readMembers .value none [] r.initial (Draft.ofMembers before) =
      .ok (seen, record)) :
    r.readMembers .value none [] r.initial (Draft.ofMembers values) = .ok read := by
  induction ms generalizing seen record before with
  | nil =>
      cases stop <;> cases hread
      cases hvalues
      exact hbefore
  | cons entry rest ih =>
      rcases entry with ⟨key?, d⟩
      cases key? with
      | error e =>
          cases hread
      | ok key =>
          rcases Draft.toMembers_cons_eq_ok hvalues with ⟨v, hv, hvalues⟩
          rcases readMembers_ok_cons_eq_ok hread with
            ⟨m, change, hfound, hunseen, hchange, hrest⟩ | ⟨change, hnone, hchange, hrest⟩
          · refine ih hrest hvalues ?_
            have hm := List.mem_of_find?_eq_some hfound
            have hnew : key ∉ Entries.keys before := by
              intro hkey
              apply hunseen
              rw [mem_seen_iff hr hbefore hm]
              refine Or.inr ⟨key, RecordMember.answersTo_iff.mp ?_, hkey⟩
              simpa using List.find?_some hfound
            have hreads := (hfaithful m hm).reads hchange hv
            rw [Entries.put_of_not_mem v hnew, Draft.ofMembers_append, readMembers_append, hbefore]
            show r.readMembers .value none seen record [(.ok key, Draft.ofJson v)] = _
            rw [readMembers, hfound]
            simp only [List.contains_iff_mem, hunseen, if_false]
            exact bind_eq_ok.mpr ⟨change, within_eq_ok.mpr hreads, rfl⟩
          · rcases readOther_eq_ok hothers hchange with ⟨hskipped, _, rfl⟩
            refine ih hrest hvalues ?_
            rw [readMembers_put hskipped hnone]
            exact hbefore

end Members

/-!
### Records given as arrays
-/

theorem checkEnd_eq_ok {stop : Option ListStop} {total : Nat} {surplus : List Draft} {u : Unit}
    (h : checkEnd .text stop total surplus = .ok u) : surplus = [] ∧ stop = none := by
  cases surplus with
  | nil =>
      cases stop <;> cases h
      exact ⟨rfl, rfl⟩
  | cons d rest =>
      cases h

section Items

variable {ms : List (RecordMember σ)} (hfaithful : forall m, m ∈ ms -> m.read.Faithful)
  {index : Nat} {record record' : σ} {ds : List Draft}
include hfaithful

theorem skips_readItems (hread : r.readItems .text none ms index record ds = .ok ([], record')) :
    Draft.skipItemsError? ds = none := by
  induction ms generalizing index record ds with
  | nil =>
      cases hread
      rfl
  | cons m ms ih =>
      rcases List.forall_mem_cons.mp hfaithful with ⟨hm, hms⟩
      cases ds with
      | nil =>
          rfl
      | cons d rest =>
          rw [readItems, bind_eq_ok] at hread
          rcases hread with ⟨change, hchange, hread⟩
          rw [Draft.skipItemsError?, hm.skips (within_eq_ok.mp hchange), ih hms hread]
          rfl

theorem reads_readItems (hread : r.readItems .text none ms index record ds = .ok ([], record'))
    {place : Nat} {values : List Json} (hvalues : Draft.toItems place none ds = .ok values) :
    r.readItems .value none ms index record (Draft.ofItems values) = .ok ([], record') := by
  induction ms generalizing index record ds place values with
  | nil =>
      cases hread
      cases hvalues
      rfl
  | cons m ms ih =>
      rcases List.forall_mem_cons.mp hfaithful with ⟨hm, hms⟩
      cases ds with
      | nil =>
          cases hvalues
          rw [readItems] at hread
          rw [Draft.ofItems, readItems]
          split at hread
          next hdefaulted =>
            have hnil : Draft.toItems place none [] = .ok [] := rfl
            simp only [if_pos hdefaulted]
            exact ih hms hread hnil
          next => cases hread
      | cons d rest =>
          rw [readItems, bind_eq_ok] at hread
          rcases hread with ⟨change, hchange, hread⟩
          rcases Draft.toItems_cons_eq_ok hvalues with ⟨v, vs, hv, hvs, rfl⟩
          rw [Draft.ofItems, readItems]
          refine bind_eq_ok.mpr ⟨change, within_eq_ok.mpr ?_, ih hms hread hvs⟩
          exact hm.reads (within_eq_ok.mp hchange) hv

end Items

/-- Every record is an object or an array. -/
theorem decode_ne_ok {origin : Origin} {d : Draft} {record : σ}
    (hobject : forall ms stop tooDeep, d ≠ .object ms stop tooDeep)
    (harray : forall ds stop tooDeep, d ≠ .array ds stop tooDeep) :
    r.decode origin d ≠ .ok record := by
  unfold decode
  split
  next => exact absurd rfl (hobject _ _ _)
  next => exact absurd rfl (harray _ _ _)
  next => exact mismatch_ne_ok

/-- A record is read faithfully if all its members are. -/
theorem faithful_decode (hr : r.Unambiguous)
    (hfaithful : forall m, m ∈ r.members -> m.read.Faithful)
    (hothers : forall put, r.others ≠ .kept put) : r.decode.Faithful where
  skips {d _} hread := by
    cases d with
    | object ms stop tooDeep =>
        rcases decode_object_eq_ok.mp hread with ⟨_, seen, hmembers, _⟩
        rcases skips_readMembers hfaithful hothers hmembers with ⟨hskip, rfl⟩
        rw [Draft.skipError?, hskip]
        rfl
    | array ds stop tooDeep =>
        rcases (decode_array_eq_ok hothers).mp hread with ⟨_, surplus, hitems, hend⟩
        rcases checkEnd_eq_ok hend with ⟨rfl, rfl⟩
        rw [Draft.skipError?, skips_readItems hfaithful hitems]
        rfl
    | _ =>
        exact absurd hread (decode_ne_ok (by simp) (by simp))
  reads {d record v} hread hv := by
    cases d with
    | object ms stop tooDeep =>
        rcases decode_object_eq_ok.mp hread with ⟨_, seen, hmembers, hmissing⟩
        rcases Draft.toJson_object_eq_ok.mp hv with ⟨_, values, hvalues, rfl⟩
        exact reads_object_iff.mpr
          ⟨seen, reads_readMembers hfaithful hothers hr hmembers hvalues rfl, hmissing⟩
    | array ds stop tooDeep =>
        rcases (decode_array_eq_ok hothers).mp hread with ⟨_, surplus, hitems, hend⟩
        rcases checkEnd_eq_ok hend with ⟨rfl, rfl⟩
        rcases Draft.toJson_array_eq_ok.mp hv with ⟨_, values, hvalues, rfl⟩
        exact (decode_array_eq_ok hothers).mpr
          ⟨rfl, [], reads_readItems hfaithful hitems hvalues, rfl⟩
    | _ =>
        exact absurd hread (decode_ne_ok (by simp) (by simp))

end Record
end NetworkPlan
