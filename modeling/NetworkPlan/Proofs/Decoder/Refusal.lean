import NetworkPlan.Proofs.Decoder.Acceptance

/-!
# What a record refuses

Where one member of an object cannot be read and all others are given as they have to be, the
failure is that of the one member, wherever it stands and whatever else the object holds.
-/

namespace NetworkPlan

namespace Record

variable {σ : Type} {r : Record σ} {m : RecordMember σ} {key : String} {value : Json}
  {members before after : List (String × Json)}

theorem Unambiguous.find?_eq_some (hr : r.Unambiguous) (hm : m ∈ r.members)
    (hkey : key ∈ m.names) : r.members.find? (·.answersTo key) = some m := by
  cases hfound : r.members.find? (·.answersTo key) with
  | none =>
      exact absurd (RecordMember.answersTo_iff.mpr hkey) (List.find?_eq_none.mp hfound m hm)
  | some other =>
      have hother : key ∈ other.names := by
        apply RecordMember.answersTo_iff.mp
        simpa using List.find?_some hfound
      rw [hr.eq_of_mem_names (List.mem_of_find?_eq_some hfound) hm hother hkey]

/-- What stands before the one bad member is accepted. -/
theorem accepts_before (hbefore : (Entries.keys before).Nodup) (hkey : key ∉ Entries.keys before)
    (hkeys : m.names = [key]) (hgiven : forall other, other ∈ r.members -> other ≠ m ->
      other.GivenIn (before ++ after)) : r.Accepts [] before := by
  have hkept : forall {name : String}, name ∈ Entries.keys before ->
      name ∈ Entries.keys (before ++ after) := by
    intro name hmem
    rw [Entries.keys_append]
    exact List.mem_append_left _ hmem
  rw [accepts_iff hbefore]
  intro other hother
  by_cases hsame : other = m
  · -- The bad member has one name, which does not come before it.
    rw [hsame, hkeys]
    constructor
    · intro name name' hname hname' _ _
      rw [List.mem_singleton.mp hname, List.mem_singleton.mp hname']
    · intro name value' hname hmem
      rw [List.mem_singleton.mp hname] at hmem
      exact absurd (List.mem_map.mpr ⟨_, hmem, rfl⟩) hkey
  · have h := hgiven other hother hsame
    constructor
    · intro name name' hname hname' hmem hmem'
      exact h.once name name' hname hname' (hkept hmem) (hkept hmem')
    · intro name value' hname hmem
      exact h.readable name value' hname (List.mem_append_left _ hmem)

/-- The failure of the one bad member of an object is the failure of the object. -/
theorem decode_eq_error (hr : r.Unambiguous) (hothers : r.others ≠ .refused)
    (hnames : (Entries.keys members).Nodup) (hm : m ∈ r.members) (hkeys : m.names = [key])
    (hget : Entries.get? key members = some value) {f : Failure}
    (hfailure : m.read .value (Draft.ofJson value) = .error f)
    (hgiven : forall other, other ∈ r.members -> other ≠ m -> other.GivenIn members) :
    r.decode .value (Draft.ofJson (.object members)) =
      .error (f.under ((Draft.ofJson value).wayTo key)) := by
  rcases List.append_of_mem ((Entries.get?_eq_some_iff hnames).mp hget) with ⟨before, after, rfl⟩
  rw [Entries.keys_append, List.nodup_append'] at hnames
  rcases hnames with ⟨hbefore, _, hapart⟩
  have hkey : key ∉ Entries.keys before := fun hmem => hapart hmem List.mem_cons_self
  have hread : exists read,
      r.readMembers .value none [] r.initial (Draft.ofMembers before) = .ok read :=
    (exists_readMembers_iff hr hothers).mpr (accepts_before hbefore hkey hkeys hgiven)
  rcases hread with ⟨⟨seen, record⟩, hread⟩
  have hunseen : m.name ∉ seen := by
    rw [mem_seen_iff hr hread hm, hkeys]
    simpa using hkey
  have hfound : r.members.find? (·.answersTo key) = some m := by
    apply hr.find?_eq_some hm
    rw [hkeys]
    exact List.mem_singleton.mpr rfl
  have hfails : r.readMembers .value none [] r.initial
      (Draft.ofMembers (before ++ (key, value) :: after)) =
        .error (f.under ((Draft.ofJson value).wayTo key)) := by
    rw [Draft.ofMembers_append, readMembers_append, hread]
    show r.readMembers .value none seen record (Draft.ofMembers ((key, value) :: after)) = _
    rw [Draft.ofMembers, readMembers, hfound]
    simp only [List.contains_iff_mem, hunseen, if_false, hfailure]
    rfl
  simp only [Draft.ofJson, decode, Bool.false_eq_true, if_false, hfails]
  rfl

end Record
end NetworkPlan
