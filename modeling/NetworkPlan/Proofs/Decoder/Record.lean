import NetworkPlan.Proofs.Decoder.Value

/-!
# Decoding of records

A record is built up member by member, and the members may come in any order.  What a part of the
record is in the end depends on one member only: the one that sets it, all others keeping it.  So
a part is what the member's value in the object is read to, or, if the object has no such member,
what it was before anything was read.
-/

namespace NetworkPlan

variable {σ α β : Type}

/-- Reading the member leaves a part of the record as it is. -/
def RecordMember.Keeps (m : RecordMember σ) (part : σ -> β) : Prop :=
  forall value change record, Decoder.Reads m.read value change ->
    part (change record) = part record

/-- What becomes of unknown members leaves a part of the record as it is. -/
def OtherMembers.Keeps (others : OtherMembers σ) (part : σ -> β) : Prop :=
  match others with
  | .kept put => forall key value record, part (put key value record) = part record
  | _ => True

theorem RecordMember.answersTo_iff {m : RecordMember σ} {key : String} :
    m.answersTo key = true ↔ key ∈ m.name :: m.aliases := by
  rw [answersTo, Bool.or_eq_true, beq_iff_eq, List.contains_iff_mem, List.mem_cons, @eq_comm _ key]

namespace RecordMember

variable {name : String} {decoder : Decoder α} {part : σ -> β}

theorem keeps_of_set {m : RecordMember σ} {set : α -> σ -> σ} (hread : m.read = decoder.map set)
    (hset : forall a record, part (set a record) = part record) : m.Keeps part := by
  intro value change record h
  rw [hread, Decoder.reads_map] at h
  rcases h with ⟨a, _, rfl⟩
  exact hset a record

@[simp] theorem keeps_required {set : α -> σ -> σ}
    (hset : forall a record, part (set a record) = part record) :
    (required name decoder set).Keeps part :=
  keeps_of_set rfl hset

@[simp] theorem keeps_nullable {set : Option α -> σ -> σ} {aliases : List String}
    (hset : forall a record, part (set a record) = part record) :
    (nullable name decoder set aliases).Keeps part :=
  keeps_of_set rfl hset

@[simp] theorem keeps_defaulted {set : α -> σ -> σ}
    (hset : forall a record, part (set a record) = part record) :
    (defaulted name decoder set).Keeps part :=
  keeps_of_set rfl hset

end RecordMember

namespace Record

variable {r : Record σ}

/-- A member sets a part of the record, and nothing else in the record touches that part. -/
structure Sets (r : Record σ) (m : RecordMember σ) (decoder : Decoder α) (part : σ -> α) :
    Prop where
  found : forall key, m.answersTo key = true -> r.members.find? (·.answersTo key) = some m
  reads : exists set, m.read = decoder.map set ∧ forall a record, part (set a record) = a
  alone : forall other, other ∈ r.members -> other = m ∨ other.Keeps part
  others : r.others.Keeps part

/-!
## One member
-/

theorem readOther_keeps {part : σ -> β} (hothers : r.others.Keeps part) {key : String}
    {value : Json} {change : σ -> σ} {record : σ}
    (h : r.readOther .value key (Draft.ofJson value) = .ok change) :
    part (change record) = part record := by
  unfold readOther at h
  unfold OtherMembers.Keeps at hothers
  split at h
  next =>
    split at h
    · cases h
      rfl
    · cases h
  next =>
    cases h
  next put hput =>
    rw [Decoder.within_eq_ok, map_eq_ok] at h
    rcases h with ⟨json, _, rfl⟩
    rw [hput] at hothers
    exact hothers key json record

/-- What reading the first member can do. -/
theorem readMembers_ok_cons_eq_ok {origin : Origin} {stop : Option ObjectStop}
    {seen : List String} {record : σ} {key : String} {d : Draft}
    {rest : List (Except SyntaxError String × Draft)} {read : List String × σ}
    (h : r.readMembers origin stop seen record ((.ok key, d) :: rest) = .ok read) :
    (exists m change, r.members.find? (·.answersTo key) = some m ∧ m.name ∉ seen ∧
      m.read origin d = .ok change ∧
      r.readMembers origin stop (m.name :: seen) (change record) rest = .ok read) ∨
    (exists change, r.members.find? (·.answersTo key) = none ∧
      r.readOther origin key d = .ok change ∧
      r.readMembers origin stop seen (change record) rest = .ok read) := by
  rw [readMembers] at h
  split at h
  next m hfound =>
    split at h
    next => cases h
    next hseen =>
      rw [bind_eq_ok] at h
      rcases h with ⟨change, hchange, hrest⟩
      rw [Decoder.within_eq_ok] at hchange
      exact Or.inl ⟨m, change, hfound, by simpa using hseen, hchange, hrest⟩
  next hnone =>
    rw [bind_eq_ok] at h
    rcases h with ⟨change, hchange, hrest⟩
    exact Or.inr ⟨change, hnone, hchange, hrest⟩

/-- What reading the first member of an object can do. -/
theorem readMembers_cons_eq_ok {seen seen' : List String} {record record' : σ} {key : String}
    {value : Json} {rest : List (String × Json)}
    (h : r.readMembers .value none seen record (Draft.ofMembers ((key, value) :: rest)) =
      .ok (seen', record')) :
    (exists m change, r.members.find? (·.answersTo key) = some m ∧ m.name ∉ seen ∧
      Decoder.Reads m.read value change ∧
      r.readMembers .value none (m.name :: seen) (change record) (Draft.ofMembers rest) =
        .ok (seen', record')) ∨
    (exists change, r.members.find? (·.answersTo key) = none ∧
      r.readOther .value key (Draft.ofJson value) = .ok change ∧
      r.readMembers .value none seen (change record) (Draft.ofMembers rest) =
        .ok (seen', record')) :=
  readMembers_ok_cons_eq_ok h

/-!
## All members
-/

/-- Members are read one after the other. -/
theorem readMembers_append {origin : Origin} {stop : Option ObjectStop} {seen : List String}
    {record : σ} (before after : List (Except SyntaxError String × Draft)) :
    r.readMembers origin stop seen record (before ++ after) =
      r.readMembers origin none seen record before >>= fun read =>
        r.readMembers origin stop read.1 read.2 after := by
  induction before generalizing seen record with
  | nil =>
      rfl
  | cons entry rest ih =>
      rcases entry with ⟨key?, d⟩
      cases key? with
      | error e =>
          rfl
      | ok key =>
          rw [List.cons_append, readMembers, readMembers]
          split
          next m _ =>
            split
            · rfl
            · simp only [bind_assoc, ih]
          next =>
            simp only [bind_assoc, ih]

/-- The member was read, or none of the members to come is it. -/
def Done (m : RecordMember σ) (seen : List String) (members : List (String × Json)) : Prop :=
  m.name ∈ seen ∨ forall key, m.answersTo key = true -> Entries.get? key members = none

namespace Done

variable {m : RecordMember σ} {seen : List String} {key : String} {value : Json}
  {rest : List (String × Json)}

theorem mem_seen (h : Done m seen ((key, value) :: rest)) (hkey : m.answersTo key = true) :
    m.name ∈ seen := by
  cases h with
  | inl hseen =>
      exact hseen
  | inr habsent =>
      have hget := habsent key hkey
      rw [Entries.get?, if_pos rfl] at hget
      cases hget

theorem tail (h : Done m seen ((key, value) :: rest)) {seen' : List String}
    (hseen' : seen ⊆ seen') : Done m seen' rest := by
  cases h with
  | inl hseen =>
      exact Or.inl (hseen' hseen)
  | inr habsent =>
      apply Or.inr
      intro other hother
      have hget := habsent other hother
      rw [Entries.get?] at hget
      split at hget
      · cases hget
      · exact hget

end Done

/-- Once its member is done with, a part stays as it is. -/
theorem readMembers_keeps {m : RecordMember σ} {part : σ -> β}
    (halone : forall other, other ∈ r.members -> other = m ∨ other.Keeps part)
    (hothers : r.others.Keeps part) {members : List (String × Json)} {seen seen' : List String}
    {record record' : σ} (hdone : Done m seen members)
    (h : r.readMembers .value none seen record (Draft.ofMembers members) = .ok (seen', record')) :
    part record' = part record := by
  induction members generalizing seen record with
  | nil =>
      rw [Draft.ofMembers, readMembers] at h
      cases h
      rfl
  | cons entry rest ih =>
      rcases entry with ⟨key, value⟩
      rcases readMembers_cons_eq_ok h with
        ⟨other, change, hfound, hnew, hchange, hrest⟩ | ⟨change, _, hchange, hrest⟩
      · rw [ih (hdone.tail (List.subset_cons_self _ _)) hrest]
        rcases halone other (List.mem_of_find?_eq_some hfound) with rfl | hkeeps
        · have hkey : other.answersTo key = true := by
            simpa using List.find?_some hfound
          exact absurd (hdone.mem_seen hkey) hnew
        · exact hkeeps value change record hchange
      · rw [ih (hdone.tail (List.Subset.refl _)) hrest]
        exact readOther_keeps hothers hchange

/-- A part is what the value of its member is read to. -/
theorem readMembers_sets {m : RecordMember σ} {decoder : Decoder α} {part : σ -> α}
    (hsets : r.Sets m decoder part) {key : String} (hkey : m.answersTo key = true)
    {members : List (String × Json)} {value : Json}
    (hget : Entries.get? key members = some value) {seen seen' : List String}
    {record record' : σ}
    (h : r.readMembers .value none seen record (Draft.ofMembers members) = .ok (seen', record')) :
    decoder.Reads value (part record') := by
  induction members generalizing seen record with
  | nil =>
      cases hget
  | cons entry rest ih =>
      rcases entry with ⟨first, other⟩
      rw [Entries.get?] at hget
      by_cases hfirst : first = key
      · rw [if_pos hfirst, Option.some.injEq] at hget
        rw [hfirst, hget] at h
        have hfound := hsets.found key hkey
        rcases readMembers_cons_eq_ok h with
          ⟨m', change, hfound', _, hchange, hrest⟩ | ⟨change, hnone, _⟩
        · rw [hfound, Option.some.injEq] at hfound'
          rw [← hfound'] at hchange hrest
          rcases hsets.reads with ⟨set, hread, hset⟩
          rw [hread, Decoder.reads_map] at hchange
          rcases hchange with ⟨a, ha, hchange⟩
          rw [readMembers_keeps hsets.alone hsets.others (Or.inl List.mem_cons_self) hrest,
            ← hchange, hset]
          exact ha
        · rw [hfound] at hnone
          cases hnone
      · rw [if_neg hfirst] at hget
        rcases readMembers_cons_eq_ok h with
          ⟨m', change, _, _, _, hrest⟩ | ⟨change, _, _, hrest⟩
        · exact ih hget hrest
        · exact ih hget hrest

/-!
## The record
-/

theorem decode_object_eq_ok {origin : Origin} {ms : List (Except SyntaxError String × Draft)}
    {stop : Option ObjectStop} {tooDeep : Bool} {record : σ} :
    r.decode origin (.object ms stop tooDeep) = .ok record ↔
      tooDeep = false ∧ exists seen, r.readMembers origin stop [] r.initial ms =
        .ok (seen, record) ∧ r.firstMissing? seen = none := by
  rw [decode, ite_eq_iff', Bool.eq_false_iff]
  simp only [reduceCtorEq, imp_false, bind_eq_ok]
  refine and_congr_right fun hshallow => ?_
  constructor
  · intro h
    rcases h hshallow with ⟨⟨seen, read⟩, hread, h⟩
    split at h
    next =>
      cases h
    next hmissing =>
      cases h
      exact ⟨seen, hread, hmissing⟩
  · intro h _
    rcases h with ⟨seen, hread, hmissing⟩
    refine ⟨(seen, record), hread, ?_⟩
    simp only [hmissing]

theorem reads_object_iff {members : List (String × Json)} {record : σ} :
    r.decode.Reads (.object members) record ↔
      exists seen, r.readMembers .value none [] r.initial (Draft.ofMembers members) =
        .ok (seen, record) ∧ r.firstMissing? seen = none := by
  rw [Decoder.Reads, Draft.ofJson, decode_object_eq_ok]
  simp

/-- A record can be given as an array unless it keeps members that it does not know. -/
theorem decode_array_eq_ok (hothers : forall put, r.others ≠ .kept put) {origin : Origin}
    {ds : List Draft} {stop : Option ListStop} {tooDeep : Bool} {record : σ} :
    r.decode origin (.array ds stop tooDeep) = .ok record ↔
      tooDeep = false ∧ exists surplus, r.readItems origin stop r.members 0 r.initial ds =
        .ok (surplus, record) ∧ checkEnd origin stop ds.length surplus = .ok () := by
  rw [decode]
  split
  next put hkept => exact absurd hkept (hothers put)
  next =>
    rw [ite_eq_iff', Bool.eq_false_iff]
    simp only [reduceCtorEq, imp_false, bind_eq_ok, pure_eq_ok]
    refine and_congr_right fun hshallow => ?_
    constructor
    · intro h
      rcases h hshallow with ⟨⟨surplus, read⟩, hread, _, hend, rfl⟩
      exact ⟨surplus, hread, hend⟩
    · intro h _
      rcases h with ⟨surplus, hread, hend⟩
      exact ⟨(surplus, record), hread, (), hend, rfl⟩

theorem firstMissing?_eq_none_iff {seen : List String} :
    r.firstMissing? seen = none ↔
      forall m, m ∈ r.members -> m.presence = .required -> m.name ∈ seen := by
  simp only [firstMissing?, Option.map_eq_none_iff, List.find?_eq_none, Bool.and_eq_true,
    decide_eq_true_eq, Bool.not_eq_true', not_and, Bool.not_eq_false, List.contains_iff_mem]

/-- The member under some names, and no other, says what a part of a record is. -/
def Field (r : Record σ) (keys : List String) (decoder : Decoder α) (part : σ -> α) : Prop :=
  exists m : RecordMember σ, m.name :: m.aliases = keys ∧ r.Sets m decoder part

namespace Field

variable {keys : List String} {decoder : Decoder α} {part : σ -> α}
  {members : List (String × Json)} {record : σ}

theorem of_members {m : RecordMember σ} {set : α -> σ -> σ} (before after : List (RecordMember σ))
    (hmembers : r.members = before ++ m :: after) (hkeys : m.name :: m.aliases = keys)
    (hfound : forall key, key ∈ keys -> r.members.find? (·.answersTo key) = some m)
    (hread : m.read = decoder.map set) (hset : forall a record, part (set a record) = a)
    (hkeeps : forall other, other ∈ before ++ after -> other.Keeps part)
    (hothers : r.others.Keeps part) : r.Field keys decoder part := by
  refine ⟨m, hkeys, ?_, ⟨set, hread, hset⟩, ?_, hothers⟩
  · intro key hkey
    apply hfound
    rw [← hkeys]
    exact RecordMember.answersTo_iff.mp hkey
  · intro other hother
    rw [hmembers, List.mem_append, List.mem_cons] at hother
    rcases hother with hbefore | rfl | hafter
    · exact Or.inr (hkeeps other (List.mem_append_left _ hbefore))
    · exact Or.inl rfl
    · exact Or.inr (hkeeps other (List.mem_append_right _ hafter))

theorem reads_part (hfield : r.Field keys decoder part)
    (h : r.decode.Reads (.object members) record) {key : String} (hkey : key ∈ keys)
    {value : Json} (hget : Entries.get? key members = some value) :
    decoder.Reads value (part record) := by
  rcases hfield with ⟨m, rfl, hsets⟩
  rcases reads_object_iff.mp h with ⟨seen, hread, _⟩
  exact readMembers_sets hsets (RecordMember.answersTo_iff.mpr hkey) hget hread

theorem part_of_absent (hfield : r.Field keys decoder part)
    (h : r.decode.Reads (.object members) record)
    (habsent : forall key, key ∈ keys -> Entries.get? key members = none) :
    part record = part r.initial := by
  rcases hfield with ⟨m, rfl, hsets⟩
  rcases reads_object_iff.mp h with ⟨seen, hread, _⟩
  refine readMembers_keeps hsets.alone hsets.others (Or.inr ?_) hread
  intro key hkey
  exact habsent key (RecordMember.answersTo_iff.mp hkey)

/-- What objects say alike, they say about the part of a record. -/
theorem part_eq (hfield : r.Field keys decoder part) (h : r.decode.Reads (.object members) record)
    {others : List (String × Json)} {other : σ} (hother : r.decode.Reads (.object others) other)
    (hsame : forall key, key ∈ keys -> Entries.get? key members = Entries.get? key others) :
    part record = part other := by
  by_cases hgiven : exists key, key ∈ keys ∧ exists value, Entries.get? key members = some value
  · rcases hgiven with ⟨key, hkey, value, hget⟩
    have hread := hfield.reads_part h hkey hget
    rw [hsame key hkey] at hget
    exact hread.unique (hfield.reads_part hother hkey hget)
  · have habsent : forall key, key ∈ keys -> Entries.get? key members = none := by
      intro key hkey
      rw [Option.eq_none_iff_forall_ne_some]
      intro value hget
      exact hgiven ⟨key, hkey, value, hget⟩
    rw [hfield.part_of_absent h habsent, hfield.part_of_absent hother]
    intro key hkey
    rw [← hsame key hkey]
    exact habsent key hkey

end Field
end Record
end NetworkPlan
