import Mathlib.Data.List.Nodup
import Mathlib.Data.List.Pairwise
import NetworkPlan.Proofs.Decoder.Record
import NetworkPlan.Proofs.Json.Draft

/-!
# What it takes to read a record

An object is read as a record exactly if it gives every member as it has to be given: under one
name only, with a value that can be read, and at all if the record cannot do without it.  The
members of the object may come in any order, and what the record does not know is no obstacle
unless the record refuses it.
-/

namespace NetworkPlan

variable {σ α : Type}

namespace RecordMember

/-- The names that mean a member. -/
def names (m : RecordMember σ) : List String :=
  m.name :: m.aliases

/-- An object gives a member as it has to be given. -/
structure GivenIn (m : RecordMember σ) (members : List (String × Json)) : Prop where
  once : forall key other, key ∈ m.names -> other ∈ m.names ->
    key ∈ Entries.keys members -> other ∈ Entries.keys members -> key = other
  readable : forall key value, key ∈ m.names -> (key, value) ∈ members ->
    exists change, m.read.Reads value change
  there : m.presence = .required -> exists key, key ∈ m.names ∧ key ∈ Entries.keys members

end RecordMember

namespace Record

variable {r : Record σ}

/-- No name means two members. -/
def Unambiguous (r : Record σ) : Prop :=
  (r.members.flatMap RecordMember.names).Nodup

instance (r : Record σ) : Decidable r.Unambiguous :=
  inferInstanceAs (Decidable (r.members.flatMap RecordMember.names).Nodup)

namespace Unambiguous

variable {m other : RecordMember σ} {key : String}

theorem eq_of_mem_names (hr : r.Unambiguous) (hm : m ∈ r.members) (hother : other ∈ r.members)
    (hkey : key ∈ m.names) (hkey' : key ∈ other.names) : m = other := by
  by_contra hne
  have hapart := (List.nodup_flatMap.mp hr).right
  have hsymm : Std.Symm (Function.onFun List.Disjoint (@RecordMember.names σ)) :=
    ⟨fun _ _ h _ ha hb => h hb ha⟩
  exact hapart.forall hm hother hne hkey hkey'

theorem eq_of_name_eq (hr : r.Unambiguous) (hm : m ∈ r.members) (hother : other ∈ r.members)
    (hname : m.name = other.name) : m = other := by
  apply hr.eq_of_mem_names hm hother List.mem_cons_self
  rw [hname]
  exact List.mem_cons_self

end Unambiguous

/-!
## The members of an object
-/

/-- What it takes to read members after those seen before: the known ones can be read, and no two
of them mean one member, nor does one of them mean a member that was seen. -/
structure Accepts (r : Record σ) (seen : List String) (members : List (String × Json)) : Prop where
  readable : forall m key value, m ∈ r.members -> key ∈ m.names -> (key, value) ∈ members ->
    exists change, m.read.Reads value change
  unseen : forall m key, m ∈ r.members -> key ∈ m.names -> key ∈ Entries.keys members ->
    m.name ∉ seen
  once : forall m, m ∈ r.members ->
    (Entries.keys members).Pairwise fun key other => key ∈ m.names -> other ∉ m.names

theorem accepts_nil (seen : List String) : r.Accepts seen [] where
  readable := by simp
  unseen := by simp [Entries.keys]
  once := by simp [Entries.keys]

theorem accepts_cons_known (hr : r.Unambiguous) {m : RecordMember σ} (hm : m ∈ r.members)
    {key : String} (hkey : key ∈ m.names) {value : Json} {rest : List (String × Json)}
    {seen : List String} :
    r.Accepts seen ((key, value) :: rest) ↔
      m.name ∉ seen ∧ (exists change, m.read.Reads value change) ∧
        r.Accepts (m.name :: seen) rest := by
  constructor
  · intro h
    refine ⟨h.unseen m key hm hkey List.mem_cons_self,
      h.readable m key value hm hkey List.mem_cons_self, ?_⟩
    constructor
    · intro other name value' hother hname hmem
      exact h.readable other name value' hother hname (List.mem_cons_of_mem _ hmem)
    · intro other name hother hname hmem
      rw [List.mem_cons, not_or]
      constructor
      · intro hsame
        have heq : other = m := hr.eq_of_name_eq hother hm hsame
        rw [heq] at hname
        exact (List.pairwise_cons.mp (h.once m hm)).left name hmem hkey hname
      · exact h.unseen other name hother hname (List.mem_cons_of_mem _ hmem)
    · intro other hother
      exact (List.pairwise_cons.mp (h.once other hother)).right
  · intro h
    rcases h with ⟨hnew, hvalue, hrest⟩
    constructor
    · intro other name value' hother hname hmem
      rcases List.mem_cons.mp hmem with hfirst | hlater
      · cases hfirst
        rw [hr.eq_of_mem_names hother hm hname hkey]
        exact hvalue
      · exact hrest.readable other name value' hother hname hlater
    · intro other name hother hname hmem
      rcases List.mem_cons.mp hmem with rfl | hlater
      · rw [hr.eq_of_mem_names hother hm hname hkey]
        exact hnew
      · intro hseen
        exact hrest.unseen other name hother hname hlater (List.mem_cons_of_mem _ hseen)
    · intro other hother
      apply List.pairwise_cons.mpr
      refine ⟨?_, hrest.once other hother⟩
      intro name hmem hkey' hname
      rw [hr.eq_of_mem_names hother hm hkey' hkey] at hname
      exact hrest.unseen m name hm hname hmem List.mem_cons_self

theorem accepts_cons_other {key : String} (hkey : forall m, m ∈ r.members -> key ∉ m.names)
    {value : Json} {rest : List (String × Json)} {seen : List String} :
    r.Accepts seen ((key, value) :: rest) ↔ r.Accepts seen rest := by
  constructor
  · intro h
    constructor
    · intro m name value' hm hname hmem
      exact h.readable m name value' hm hname (List.mem_cons_of_mem _ hmem)
    · intro m name hm hname hmem
      exact h.unseen m name hm hname (List.mem_cons_of_mem _ hmem)
    · intro m hm
      exact (List.pairwise_cons.mp (h.once m hm)).right
  · intro h
    constructor
    · intro m name value' hm hname hmem
      rcases List.mem_cons.mp hmem with hfirst | hlater
      · cases hfirst
        exact absurd hname (hkey m hm)
      · exact h.readable m name value' hm hname hlater
    · intro m name hm hname hmem
      rcases List.mem_cons.mp hmem with rfl | hlater
      · exact absurd hname (hkey m hm)
      · exact h.unseen m name hm hname hlater
    · intro m hm
      apply List.pairwise_cons.mpr
      refine ⟨?_, h.once m hm⟩
      intro name _ hfirst
      exact absurd hfirst (hkey m hm)

/-- What the record does not know can always be read, unless the record refuses it. -/
theorem exists_readOther (hothers : r.others ≠ .refused) (key : String) (value : Json) :
    exists change, r.readOther .value key (Draft.ofJson value) = .ok change := by
  unfold readOther
  cases hr : r.others with
  | skipped =>
      exact ⟨id, by simp only [Draft.skipError?_ofJson]⟩
  | refused =>
      exact absurd hr hothers
  | kept put =>
      rcases Draft.exists_toJson_ofJson value with ⟨kept, hkept⟩
      refine ⟨put key kept, ?_⟩
      show Decoder.within _ (Except.map (put key) (Except.mapError _ _)) = _
      rw [hkept]
      rfl

/-- The run lemma: members can be read exactly if they are accepted. -/
theorem exists_readMembers_iff (hr : r.Unambiguous) (hothers : r.others ≠ .refused)
    {members : List (String × Json)} {seen : List String} {record : σ} :
    (exists read, r.readMembers .value none seen record (Draft.ofMembers members) = .ok read) ↔
      r.Accepts seen members := by
  induction members generalizing seen record with
  | nil =>
      exact ⟨fun _ => accepts_nil seen, fun _ => ⟨(seen, record), rfl⟩⟩
  | cons entry rest ih =>
      rcases entry with ⟨key, value⟩
      rw [Draft.ofMembers, readMembers]
      cases hfound : r.members.find? (·.answersTo key) with
      | some m =>
          have hkey : m.answersTo key = true := by
            simpa using List.find?_some hfound
          rw [accepts_cons_known hr (List.mem_of_find?_eq_some hfound)
            (RecordMember.answersTo_iff.mp hkey)]
          by_cases hseen : m.name ∈ seen
          · simp [hseen]
          · simp only [List.contains_iff_mem, hseen, if_false, not_false_eq_true, true_and,
              bind_eq_ok, Decoder.within_eq_ok]
            constructor
            · intro h
              rcases h with ⟨read, change, hchange, hread⟩
              exact ⟨⟨change, hchange⟩, ih.mp ⟨read, hread⟩⟩
            · intro h
              rcases h with ⟨⟨change, hchange⟩, hrest⟩
              rcases ih.mpr hrest with ⟨read, hread⟩
              exact ⟨read, change, hchange, hread⟩
      | none =>
          have hunknown : forall m, m ∈ r.members -> key ∉ m.names := by
            intro m hm hkey
            exact List.find?_eq_none.mp hfound m hm (RecordMember.answersTo_iff.mpr hkey)
          rw [accepts_cons_other hunknown]
          rcases exists_readOther hothers key value with ⟨change, hchange⟩
          simp only [hchange]
          exact ih

/-- What was seen in the end: the members seen before, and those that a name of the object means. -/
theorem mem_seen_iff (hr : r.Unambiguous) {members : List (String × Json)}
    {seen seen' : List String} {record record' : σ}
    (h : r.readMembers .value none seen record (Draft.ofMembers members) = .ok (seen', record'))
    {m : RecordMember σ} (hm : m ∈ r.members) :
    m.name ∈ seen' ↔ m.name ∈ seen ∨ exists key, key ∈ m.names ∧ key ∈ Entries.keys members := by
  induction members generalizing seen record with
  | nil =>
      cases h
      simp [Entries.keys]
  | cons entry rest ih =>
      rcases entry with ⟨key, value⟩
      simp only [Entries.keys, List.map_cons, List.mem_cons, and_or_left, exists_or, exists_eq_right]
      rcases readMembers_cons_eq_ok h with
        ⟨other, change, hfound, _, _, hrest⟩ | ⟨change, hnone, _, hrest⟩
      · have hkey : key ∈ other.names := by
          apply RecordMember.answersTo_iff.mp
          simpa using List.find?_some hfound
        have hother := List.mem_of_find?_eq_some hfound
        have hmeant : m.name = other.name ↔ key ∈ m.names := by
          constructor
          · intro hname
            rw [hr.eq_of_name_eq hm hother hname]
            exact hkey
          · intro hmeant
            rw [hr.eq_of_mem_names hm hother hmeant hkey]
        rw [ih hrest, List.mem_cons, hmeant, or_assoc, or_left_comm]
        rfl
      · have hunknown : key ∉ m.names := by
          intro hkey
          exact List.find?_eq_none.mp hnone m hm (RecordMember.answersTo_iff.mpr hkey)
        rw [ih hrest]
        simp [hunknown, Entries.keys]

/-!
## Objects
-/

/-- Among distinct names at most one means a member exactly if no two names that mean it are given. -/
theorem pairwise_names_iff {m : RecordMember σ} {keys : List String} (hkeys : keys.Nodup) :
    (keys.Pairwise fun key other => key ∈ m.names -> other ∉ m.names) ↔
      forall key other, key ∈ m.names -> other ∈ m.names -> key ∈ keys -> other ∈ keys ->
        key = other := by
  constructor
  · intro h key other hkey hother hmem hmem'
    by_contra hne
    have hsymm : Std.Symm fun key other : String => key ∈ m.names -> other ∉ m.names :=
      ⟨fun _ _ h hother hkey => h hkey hother⟩
    exact h.forall hmem hmem' hne hkey hother
  · intro h
    apply hkeys.imp_of_mem
    intro key other hmem hmem' hne hkey hother
    exact hne (h key other hkey hother hmem hmem')

theorem accepts_iff {members : List (String × Json)} (hnames : (Entries.keys members).Nodup) :
    r.Accepts [] members ↔ forall m, m ∈ r.members ->
      (forall key other, key ∈ m.names -> other ∈ m.names -> key ∈ Entries.keys members ->
        other ∈ Entries.keys members -> key = other) ∧
      forall key value, key ∈ m.names -> (key, value) ∈ members ->
        exists change, m.read.Reads value change := by
  constructor
  · intro h m hm
    exact ⟨(pairwise_names_iff hnames).mp (h.once m hm), fun key value => h.readable m key value hm⟩
  · intro h
    constructor
    · intro m key value hm
      exact (h m hm).right key value
    · simp
    · intro m hm
      exact (pairwise_names_iff hnames).mpr (h m hm).left

/-- An object with distinct names is read as a record exactly if it gives every member as it has to
be given. -/
theorem exists_reads_object_iff (hr : r.Unambiguous) (hothers : r.others ≠ .refused)
    {members : List (String × Json)} (hnames : (Entries.keys members).Nodup) :
    (exists record, r.decode.Reads (.object members) record) ↔
      forall m, m ∈ r.members -> m.GivenIn members := by
  have hmissing : forall {seen : List String} {record : σ},
      r.readMembers .value none [] r.initial (Draft.ofMembers members) = .ok (seen, record) ->
      (r.firstMissing? seen = none ↔ forall m, m ∈ r.members -> m.presence = .required ->
        exists key, key ∈ m.names ∧ key ∈ Entries.keys members) := by
    intro seen record hread
    rw [firstMissing?_eq_none_iff]
    refine forall_congr' fun m => imp_congr_right fun hm => imp_congr_right fun _ => ?_
    rw [mem_seen_iff hr hread hm]
    simp
  constructor
  · intro h
    rcases h with ⟨record, h⟩
    rcases reads_object_iff.mp h with ⟨seen, hread, hnone⟩
    have haccepts := (accepts_iff hnames).mp ((exists_readMembers_iff hr hothers).mp ⟨_, hread⟩)
    intro m hm
    exact ⟨(haccepts m hm).left, (haccepts m hm).right, (hmissing hread).mp hnone m hm⟩
  · intro h
    have haccepts : r.Accepts [] members :=
      (accepts_iff hnames).mpr fun m hm => And.intro (h m hm).once (h m hm).readable
    have hreads : exists read,
        r.readMembers .value none [] r.initial (Draft.ofMembers members) = .ok read :=
      (exists_readMembers_iff hr hothers).mpr haccepts
    rcases hreads with ⟨⟨seen, record⟩, hread⟩
    exact ⟨record, reads_object_iff.mpr ⟨seen, hread,
      (hmissing hread).mpr fun m hm => (h m hm).there⟩⟩

end Record

/-!
## Members of each kind
-/

namespace RecordMember

variable {members : List (String × Json)} {name : String} {decoder : Decoder α}

theorem exists_reads_map_iff {β : Type} {decoder : Decoder α} {f : α -> β} {value : Json} :
    (exists b, (decoder.map f).Reads value b) ↔ exists a, decoder.Reads value a := by
  simp only [Decoder.reads_map]
  constructor
  · intro h
    rcases h with ⟨_, a, ha, _⟩
    exact ⟨a, ha⟩
  · intro h
    rcases h with ⟨a, ha⟩
    exact ⟨f a, a, ha, rfl⟩

theorem givenIn_iff (hnames : (Entries.keys members).Nodup) {β : Type} {m : RecordMember σ}
    {decoder : Decoder β} {set : β -> σ -> σ} (hm : m.names = [name])
    (hread : m.read = decoder.map set) :
    m.GivenIn members ↔
      (forall value, Entries.get? name members = some value ->
        exists b, decoder.Reads value b) ∧
      (m.presence = .required -> exists value, Entries.get? name members = some value) := by
  have hreads : forall value, (exists change, m.read.Reads value change) ↔
      exists b, decoder.Reads value b := by
    intro value
    rw [hread]
    exact exists_reads_map_iff
  constructor
  · intro h
    constructor
    · intro value hget
      rw [← hreads]
      apply h.readable name value
      · rw [hm]
        exact List.mem_singleton.mpr rfl
      · exact (Entries.get?_eq_some_iff hnames).mp hget
    · intro hrequired
      rcases h.there hrequired with ⟨key, hkey, hmem⟩
      rw [hm, List.mem_singleton] at hkey
      rw [hkey] at hmem
      exact Entries.mem_keys_iff.mp hmem
  · intro h
    constructor
    · intro key other hkey hother _ _
      rw [hm, List.mem_singleton] at hkey hother
      rw [hkey, hother]
    · intro key value hkey hmem
      rw [hm, List.mem_singleton] at hkey
      rw [hkey] at hmem
      exact (hreads value).mpr (h.left value ((Entries.get?_eq_some_iff hnames).mpr hmem))
    · intro hrequired
      refine ⟨name, ?_, Entries.mem_keys_iff.mpr (h.right hrequired)⟩
      rw [hm]
      exact List.mem_singleton.mpr rfl

theorem givenIn_required (hnames : (Entries.keys members).Nodup) {set : α -> σ -> σ} :
    (required name decoder set).GivenIn members ↔
      exists value, Entries.get? name members = some value ∧
        exists a, decoder.Reads value a := by
  rw [givenIn_iff hnames rfl rfl]
  constructor
  · intro h
    rcases h.right rfl with ⟨value, hget⟩
    exact ⟨value, hget, h.left value hget⟩
  · intro h
    rcases h with ⟨value, hget, hread⟩
    refine ⟨?_, fun _ => ⟨value, hget⟩⟩
    intro other hother
    rw [← Option.some.inj (hget.symm.trans hother)]
    exact hread

theorem givenIn_defaulted (hnames : (Entries.keys members).Nodup) {set : α -> σ -> σ} :
    (defaulted name decoder set).GivenIn members ↔
      forall value, Entries.get? name members = some value -> exists a, decoder.Reads value a := by
  rw [givenIn_iff hnames rfl rfl]
  exact and_iff_left fun h => nomatch h

theorem givenIn_nullable (hnames : (Entries.keys members).Nodup) {set : Option α -> σ -> σ} :
    (nullable name decoder set).GivenIn members ↔
      forall value, Entries.get? name members = some value ->
        exists a, decoder.option.Reads value a := by
  rw [givenIn_iff hnames rfl rfl]
  exact and_iff_left fun h => nomatch h

/-- A member with a second name may be given under one of them. -/
theorem givenIn_nullable_alias (hnames : (Entries.keys members).Nodup) {other : String}
    (hne : name ≠ other) {set : Option α -> σ -> σ} :
    (nullable name decoder set [other]).GivenIn members ↔
      (Entries.get? name members = none ∨ Entries.get? other members = none) ∧
      forall key, key ∈ [name, other] -> forall value, Entries.get? key members = some value ->
        exists a, decoder.option.Reads value a := by
  have hkeys : forall key, key ∈ Entries.keys members ↔ Entries.get? key members ≠ none := by
    intro key
    rw [Entries.mem_keys_iff, Option.ne_none_iff_exists']
  have hreads : forall value,
      (exists change, (nullable name decoder set [other]).read.Reads value change) ↔
        exists a, decoder.option.Reads value a :=
    fun value => exists_reads_map_iff
  constructor
  · intro h
    constructor
    · by_contra hboth
      rw [not_or] at hboth
      have hfirst : name ∈ (nullable name decoder set [other]).names := List.mem_cons_self
      have hsecond : other ∈ (nullable name decoder set [other]).names :=
        List.mem_cons_of_mem _ List.mem_cons_self
      exact hne (h.once name other hfirst hsecond ((hkeys _).mpr hboth.left)
        ((hkeys _).mpr hboth.right))
    · intro key hkey value hget
      exact (hreads value).mp (h.readable key value hkey ((Entries.get?_eq_some_iff hnames).mp hget))
  · intro h
    rcases h with ⟨hone, hread⟩
    constructor
    · intro key key' hkey hkey' hmem hmem'
      have hnot : ¬ (name ∈ Entries.keys members ∧ other ∈ Entries.keys members) := by
        rw [hkeys, hkeys, ← not_or, not_not]
        exact hone
      simp only [names, nullable, List.mem_cons, List.not_mem_nil, or_false] at hkey hkey'
      rcases hkey with rfl | rfl
      · rcases hkey' with rfl | rfl
        · rfl
        · exact absurd (And.intro hmem hmem') hnot
      · rcases hkey' with rfl | rfl
        · exact absurd (And.intro hmem' hmem) hnot
        · rfl
    · intro key value hkey hmem
      exact (hreads value).mpr
        (hread key hkey value ((Entries.get?_eq_some_iff hnames).mpr hmem))
    · intro hrequired
      cases hrequired

end RecordMember
end NetworkPlan
