import NetworkPlan.Json.Path
import NetworkPlan.Proofs.Outcome

/-!
# Values and their drafts

Nothing in the draft of a value is broken, so it can be skipped, and read as a value again.  A value
that was read from a draft has distinct names in every object, since giving a name again replaces
its value.
-/

namespace NetworkPlan

/-!
## Drafts of values
-/

namespace Draft

theorem ofMembers_append (before after : List (String × Json)) :
    ofMembers (before ++ after) = ofMembers before ++ ofMembers after := by
  induction before with
  | nil =>
      rfl
  | cons entry rest ih =>
      rw [List.cons_append, ofMembers, ofMembers, ih, List.cons_append]

mutual

theorem skipError?_ofJson (value : Json) : (ofJson value).skipError? = none := by
  cases value with
  | array items =>
      rw [ofJson, skipError?, skipItemsError?_ofItems items]
      rfl
  | object members =>
      rw [ofJson, skipError?, skipMembersError?_ofMembers members]
      rfl
  | _ =>
      rfl

theorem skipItemsError?_ofItems (items : List Json) : skipItemsError? (ofItems items) = none := by
  cases items with
  | nil =>
      rfl
  | cons item rest =>
      rw [ofItems, skipItemsError?, skipError?_ofJson item, skipItemsError?_ofItems rest]
      rfl

theorem skipMembersError?_ofMembers (members : List (String × Json)) :
    skipMembersError? (ofMembers members) = none := by
  cases members with
  | nil =>
      rfl
  | cons entry rest =>
      rcases entry with ⟨key, value⟩
      rw [ofMembers, skipMembersError?, skipError?_ofJson value, skipMembersError?_ofMembers rest]
      rfl

end

mutual

theorem exists_toJson_ofJson (value : Json) : exists v, (ofJson value).toJson = .ok v := by
  cases value with
  | array items =>
      rcases exists_toItems_ofItems items 0 with ⟨vs, hvs⟩
      refine ⟨.array vs, ?_⟩
      simp only [ofJson, toJson, Bool.false_eq_true, if_false, hvs]
      rfl
  | object members =>
      rcases exists_toMembers_ofMembers members [] with ⟨vs, hvs⟩
      refine ⟨.object vs, ?_⟩
      simp only [ofJson, toJson, Bool.false_eq_true, if_false, hvs]
      rfl
  | null =>
      exact ⟨_, rfl⟩
  | bool b =>
      exact ⟨_, rfl⟩
  | number n =>
      exact ⟨_, rfl⟩
  | string s =>
      exact ⟨_, rfl⟩

theorem exists_toItems_ofItems (items : List Json) (index : Nat) :
    exists vs, toItems index none (ofItems items) = .ok vs := by
  cases items with
  | nil =>
      exact ⟨[], rfl⟩
  | cons item rest =>
      rcases exists_toJson_ofJson item with ⟨v, hv⟩
      rcases exists_toItems_ofItems rest (index + 1) with ⟨vs, hvs⟩
      refine ⟨v :: vs, ?_⟩
      simp only [ofItems, toItems, hv, hvs]
      rfl

theorem exists_toMembers_ofMembers (members done : List (String × Json)) :
    exists vs, toMembers none done (ofMembers members) = .ok vs := by
  cases members with
  | nil =>
      exact ⟨done, rfl⟩
  | cons entry rest =>
      rcases entry with ⟨key, value⟩
      rcases exists_toJson_ofJson value with ⟨v, hv⟩
      rcases exists_toMembers_ofMembers rest (Entries.put key v done) with ⟨vs, hvs⟩
      refine ⟨vs, ?_⟩
      simp only [ofMembers, toMembers, hv, hvs]

end

end Draft

/-!
## Taking the value of a draft apart
-/

namespace Draft

theorem toItems_cons_eq_ok {d : Draft} {rest : List Draft} {index : Nat} {stop : Option ListStop}
    {values : List Json} (h : toItems index stop (d :: rest) = .ok values) :
    exists v vs, d.toJson = .ok v ∧ toItems (index + 1) stop rest = .ok vs ∧ v :: vs = values := by
  rw [toItems] at h
  split at h
  next => cases h
  next v hv =>
    rcases map_eq_ok.mp h with ⟨vs, hvs, rfl⟩
    exact ⟨v, vs, hv, hvs, rfl⟩

theorem toMembers_cons_eq_ok {key : String} {d : Draft}
    {rest : List (Except SyntaxError String × Draft)} {stop : Option ObjectStop}
    {done values : List (String × Json)}
    (h : toMembers stop done ((.ok key, d) :: rest) = .ok values) :
    exists v, d.toJson = .ok v ∧ toMembers stop (Entries.put key v done) rest = .ok values := by
  rw [toMembers] at h
  split at h
  next => cases h
  next v hv =>
    exact ⟨v, hv, h⟩

theorem toJson_array_eq_ok {items : List Draft} {stop : Option ListStop} {tooDeep : Bool}
    {value : Json} :
    (array items stop tooDeep).toJson = .ok value ↔
      tooDeep = false ∧ exists values, toItems 0 stop items = .ok values ∧ .array values = value := by
  cases tooDeep <;> simp [toJson, map_eq_ok]

theorem toJson_object_eq_ok {members : List (Except SyntaxError String × Draft)}
    {stop : Option ObjectStop} {tooDeep : Bool} {value : Json} :
    (object members stop tooDeep).toJson = .ok value ↔
      tooDeep = false ∧
        exists values, toMembers stop [] members = .ok values ∧ .object values = value := by
  cases tooDeep <;> simp [toJson, map_eq_ok]

theorem eq_null_of_toJson {d : Draft} (h : d.toJson = .ok .null) : d = .null := by
  cases d with
  | null =>
      rfl
  | number n =>
      cases n <;> cases h
  | string s =>
      cases s <;> cases h
  | array items stop tooDeep =>
      rcases toJson_array_eq_ok.mp h with ⟨_, _, _, hnull⟩
      cases hnull
  | object members stop tooDeep =>
      rcases toJson_object_eq_ok.mp h with ⟨_, _, _, hnull⟩
      cases hnull
  | _ =>
      cases h

end Draft

/-!
## Values of drafts
-/

namespace Json

mutual

instance decidableWellFormed : (value : Json) -> Decidable value.WellFormed
  | .array items => decidableWellFormedItems items
  | .object members =>
      have := decidableWellFormedMembers members
      inferInstanceAs (Decidable ((Entries.keys members).Nodup ∧ WellFormedMembers members))
  | .null => isTrue trivial
  | .bool _ => isTrue trivial
  | .number _ => isTrue trivial
  | .string _ => isTrue trivial

instance decidableWellFormedItems : (items : List Json) -> Decidable (WellFormedItems items)
  | [] => isTrue trivial
  | item :: rest =>
      have := decidableWellFormed item
      have := decidableWellFormedItems rest
      inferInstanceAs (Decidable (item.WellFormed ∧ WellFormedItems rest))

instance decidableWellFormedMembers :
    (members : List (String × Json)) -> Decidable (WellFormedMembers members)
  | [] => isTrue trivial
  | (_, value) :: rest =>
      have := decidableWellFormed value
      have := decidableWellFormedMembers rest
      inferInstanceAs (Decidable (value.WellFormed ∧ WellFormedMembers rest))

end

theorem wellFormedMembers_put {key : String} {value : Json} (hvalue : value.WellFormed)
    {members : List (String × Json)} (h : WellFormedMembers members) :
    WellFormedMembers (Entries.put key value members) := by
  induction members with
  | nil =>
      exact ⟨hvalue, trivial⟩
  | cons entry rest ih =>
      rcases entry with ⟨name, other⟩
      rcases h with ⟨hother, hrest⟩
      rw [Entries.put]
      split
      · exact ⟨hvalue, hrest⟩
      · exact ⟨hother, ih hrest⟩

end Json

namespace Draft

mutual

/-- A value that was read has distinct names in every object. -/
theorem wellFormed_of_toJson (d : Draft) {value : Json} (h : d.toJson = .ok value) :
    value.WellFormed := by
  cases d with
  | array items stop tooDeep =>
      rcases toJson_array_eq_ok.mp h with ⟨_, values, hvalues, rfl⟩
      exact wellFormedItems_of_toItems items hvalues
  | object members stop tooDeep =>
      rcases toJson_object_eq_ok.mp h with ⟨_, values, hvalues, rfl⟩
      have hnone : (Entries.keys ([] : List (String × Json))).Nodup := List.nodup_nil
      exact wellFormedMembers_of_toMembers members hnone trivial hvalues
  | number n =>
      cases n <;> cases h
      trivial
  | string s =>
      cases s <;> cases h
      trivial
  | null =>
      cases h
      trivial
  | bool b =>
      cases h
      trivial
  | broken start fault =>
      cases h
  | noColon e =>
      cases h

theorem wellFormedItems_of_toItems (items : List Draft) {index : Nat} {stop : Option ListStop}
    {values : List Json} (h : toItems index stop items = .ok values) :
    Json.WellFormedItems values := by
  cases items with
  | nil =>
      cases stop <;> cases h
      trivial
  | cons item rest =>
      rcases toItems_cons_eq_ok h with ⟨value, rest', hvalue, hvalues, rfl⟩
      exact ⟨wellFormed_of_toJson item hvalue, wellFormedItems_of_toItems rest hvalues⟩

theorem wellFormedMembers_of_toMembers (members : List (Except SyntaxError String × Draft))
    {stop : Option ObjectStop} {done values : List (String × Json)}
    (hnames : (Entries.keys done).Nodup) (hdone : Json.WellFormedMembers done)
    (h : toMembers stop done members = .ok values) :
    (Entries.keys values).Nodup ∧ Json.WellFormedMembers values := by
  cases members with
  | nil =>
      cases stop <;> cases h
      exact ⟨hnames, hdone⟩
  | cons entry rest =>
      rcases entry with ⟨key?, d⟩
      cases key? with
      | error e =>
          cases h
      | ok key =>
          rcases toMembers_cons_eq_ok h with ⟨value, hvalue, hvalues⟩
          exact wellFormedMembers_of_toMembers rest (Entries.nodup_keys_put key value hnames)
            (Json.wellFormedMembers_put (wellFormed_of_toJson d hvalue) hdone) hvalues

end

mutual

/-- Reading the draft of a value with distinct names gives the value back. -/
theorem toJson_ofJson (value : Json) (h : value.WellFormed) :
    (ofJson value).toJson = .ok value := by
  cases value with
  | array items =>
      rw [ofJson, toJson, if_neg Bool.false_ne_true, toItems_ofItems items 0 h]
      rfl
  | object members =>
      rw [ofJson, toJson, if_neg Bool.false_ne_true, toMembers_ofMembers members [] h.right h.left]
      rfl
  | _ =>
      rfl

theorem toItems_ofItems (items : List Json) (index : Nat) (h : Json.WellFormedItems items) :
    toItems index none (ofItems items) = .ok items := by
  cases items with
  | nil =>
      rfl
  | cons item rest =>
      rw [ofItems, toItems, toJson_ofJson item h.left, toItems_ofItems rest (index + 1) h.right]
      rfl

theorem toMembers_ofMembers (members done : List (String × Json))
    (h : Json.WellFormedMembers members) (hnames : (Entries.keys (done ++ members)).Nodup) :
    toMembers none done (ofMembers members) = .ok (done ++ members) := by
  cases members with
  | nil =>
      rw [List.append_nil]
      rfl
  | cons entry rest =>
      rcases entry with ⟨key, value⟩
      have hnew : key ∉ Entries.keys done := Entries.not_mem_keys_of_nodup hnames
      rw [List.append_cons] at hnames ⊢
      rw [ofMembers, toMembers, toJson_ofJson value h.left]
      simp only [Entries.put_of_not_mem value hnew]
      exact toMembers_ofMembers rest (done ++ [(key, value)]) h.right hnames

end

end Draft

theorem Json.wellFormed_of_parse {text : String} {value : Json} (h : Json.parse text = .ok value) :
    value.WellFormed := by
  unfold Json.parse at h
  split at h
  split at h
  next =>
    cases h
  next v hv =>
    split at h
    · cases h
      exact Draft.wellFormed_of_toJson _ hv
    · cases h

end NetworkPlan
