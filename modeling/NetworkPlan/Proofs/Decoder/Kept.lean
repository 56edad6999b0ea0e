import NetworkPlan.Proofs.Decoder.Record
import NetworkPlan.Proofs.Json.Draft

/-!
# Members that a record keeps

A record may keep the members that it does not know.  They come to stand in it as they stood in the
object: each once, with its value, and in their order.
-/

namespace NetworkPlan

/-!
## Entries that are added
-/

namespace Entries

variable {α : Type u} {entries added : Entries α}

theorem keys_nodup_filter (h : (keys entries).Nodup) (p : String × α -> Bool) :
    (keys (entries.filter p)).Nodup :=
  h.sublist (List.filter_sublist.map Prod.fst)

/-- New names go to the end, in order. -/
theorem putAll_of_nodup (h : (keys (entries ++ added)).Nodup) :
    putAll entries added = entries ++ added := by
  induction added generalizing entries with
  | nil =>
      exact (List.append_nil entries).symm
  | cons entry rest ih =>
      rcases entry with ⟨key, value⟩
      have hput := put_of_not_mem value (not_mem_keys_of_nodup h)
      rw [List.append_cons, ← hput] at h ⊢
      exact ih h

theorem filter_put (p : String -> Bool) {key : String} (hkey : p key = false) (value : α) :
    (put key value entries).filter (fun entry => p entry.fst) =
      entries.filter fun entry => p entry.fst := by
  induction entries with
  | nil =>
      simp [put, hkey]
  | cons entry rest ih =>
      rcases entry with ⟨name, first⟩
      rw [put]
      split
      case isTrue heq =>
        simp [heq, hkey]
      case isFalse =>
        rw [List.filter_cons, List.filter_cons, ih]

end Entries

/-!
## The members
-/

namespace Record

variable {σ : Type} {r : Record σ} {put : String -> Json -> σ -> σ} {part : σ -> Entries Json}
  {members : List (String × Json)}

def knows (r : Record σ) (key : String) : Bool :=
  r.members.any (·.answersTo key)

theorem readMembers_kept (hothers : r.others = .kept put)
    (hput : forall key value record, part (put key value record) =
      Entries.put key value (part record))
    (hmembers : forall m, m ∈ r.members -> m.Keeps part)
    (hvalues : Json.WellFormedMembers members) {seen seen' : List String} {record record' : σ}
    (h : r.readMembers .value none seen record (Draft.ofMembers members) = .ok (seen', record')) :
    part record' =
      Entries.putAll (part record) (members.filter fun entry => !r.knows entry.fst) := by
  induction members generalizing seen record with
  | nil =>
      rw [Draft.ofMembers, readMembers] at h
      cases h
      rfl
  | cons entry rest ih =>
      rcases entry with ⟨key, value⟩
      rcases readMembers_cons_eq_ok h with
        ⟨m, change, hfound, _, hchange, hrest⟩ | ⟨change, hnone, hchange, hrest⟩
      · have hknown : r.knows key = true :=
          List.any_eq_true.mpr ⟨m, List.mem_of_find?_eq_some hfound, by
            simpa using List.find?_some hfound⟩
        rw [ih hvalues.right hrest, hmembers m (List.mem_of_find?_eq_some hfound) _ _ _ hchange,
          List.filter_cons_of_neg (by simp [hknown])]
      · -- The names are distinct, so the value is read to itself.
        have hunknown : r.knows key = false := by
          simpa [knows] using hnone
        rw [readOther, hothers] at hchange
        simp only [Decoder.within_eq_ok, map_eq_ok, Decoder.json, mapError_eq_ok,
          Draft.toJson_ofJson value hvalues.left] at hchange
        rcases hchange with ⟨_, heq, rfl⟩
        cases heq
        rw [ih hvalues.right hrest, hput, List.filter_cons_of_pos (by simp [hunknown])]
        rfl

/-- What a record keeps of an object are the members that it does not know. -/
theorem kept_eq (hothers : r.others = .kept put)
    (hput : forall key value record, part (put key value record) =
      Entries.put key value (part record))
    (hmembers : forall m, m ∈ r.members -> m.Keeps part) (hinitial : part r.initial = [])
    (hnames : (Json.object members).WellFormed) {record : σ}
    (h : r.decode.Reads (.object members) record) :
    part record = members.filter fun entry => !r.knows entry.fst := by
  rcases reads_object_iff.mp h with ⟨seen, hread, _⟩
  rw [readMembers_kept hothers hput hmembers hnames.right hread, hinitial, Entries.putAll_of_nodup,
    List.nil_append]
  exact Entries.keys_nodup_filter hnames.left _

end Record
end NetworkPlan
