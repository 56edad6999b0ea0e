import NetworkPlan.Json.Reader

/-!
# What is read off a text

The readers of values, of items and of members call each other, so what holds of their drafts is
proved for all three at once: it has to hold of the leaves and be kept where drafts are put
together.
-/

namespace NetworkPlan

/-- What is read off a text has a property: a draft has `value`, a list of items `items` and a list
of members `members`. -/
structure ReadingInvariant (value : Draft -> Prop) (items : List Draft -> Prop)
    (members : List (Except SyntaxError String × Draft) -> Prop) : Prop where
  null : value .null
  bool (b : Bool) : value (.bool b)
  number (l : Literal) : value (.number l.value?)
  string {cs after : List Char} : Json.skipString cs = .ok after ->
    value (.string (Json.stringValue cs))
  broken (start : Option Char) (fault : Fault) : value (.broken start fault)
  noColon (e : SyntaxError) : value (.noColon e)
  array {drafts : List Draft} (stop : Option ListStop) (tooDeep : Bool) : items drafts ->
    value (.array drafts stop tooDeep)
  object {drafts : List (Except SyntaxError String × Draft)} (stop : Option ObjectStop)
    (tooDeep : Bool) : members drafts -> value (.object drafts stop tooDeep)
  noItems : items []
  item {d : Draft} {rest : List Draft} : value d -> items rest -> items (d :: rest)
  noMembers : members []
  member {cs after : List Char} {d : Draft} {rest : List (Except SyntaxError String × Draft)} :
    Json.skipString cs = .ok after -> value d -> members rest ->
    members ((Json.stringValue cs, d) :: rest)

namespace ReadingInvariant

open Json

variable {value : Draft -> Prop} {items : List Draft -> Prop}
  {members : List (Except SyntaxError String × Draft) -> Prop}

theorem wordDraft (h : ReadingInvariant value items members) {d : Draft} (hd : value d)
    (start : Char) (expected rest : List Char) :
    value (Json.wordDraft d start expected rest).1 := by
  unfold Json.wordDraft
  split
  · exact hd
  · exact h.broken _ _

/-!
## One step

Each reader keeps the property if all of them keep it with one step less.
-/

section Step

variable {steps : Nat}

theorem readValue_succ (h : ReadingInvariant value items members)
    (hitems : forall depth first cs, items (readItems steps depth first cs).1)
    (hmembers : forall depth first cs, members (readMembers steps depth first cs).1)
    (depth : Nat) (cs : List Char) : value (readValue (steps + 1) depth cs).1 := by
  rw [readValue]
  split
  next => exact h.broken _ _
  next => exact h.wordDraft h.null _ _ _
  next => exact h.wordDraft (h.bool true) _ _ _
  next => exact h.wordDraft (h.bool false) _ _ _
  next =>
    split
    next hskip => exact h.string hskip
    next => exact h.broken _ _
  next => exact h.array _ _ (hitems _ _ _)
  next => exact h.object _ _ (hmembers _ _ _)
  next =>
    split
    · split
      · exact h.number _
      · exact h.broken _ _
    · exact h.broken _ _

theorem readItems_succ (h : ReadingInvariant value items members)
    (hvalue : forall depth cs, value (readValue steps depth cs).1)
    (hitems : forall depth first cs, items (readItems steps depth first cs).1)
    (depth : Nat) (first : Bool) (cs : List Char) :
    items (readItems (steps + 1) depth first cs).1 := by
  unfold readItems
  extract_lets item
  have hitem (cs : List Char) : items (item cs).1 := by
    have hd := hvalue depth cs
    unfold item
    split
    next heq =>
      rw [heq] at hd
      exact h.item hd h.noItems
    next heq =>
      rw [heq] at hd
      exact h.item hd (hitems _ _ _)
  split
  next => exact h.noItems
  next => exact h.noItems
  next =>
    split
    · exact hitem _
    · split
      · exact h.noItems
      · exact h.noItems
      · exact hitem _
  next =>
    split
    · exact hitem _
    · exact h.noItems

theorem readMembers_succ (h : ReadingInvariant value items members)
    (hvalue : forall depth cs, value (readValue steps depth cs).1)
    (hmembers : forall depth first cs, members (readMembers steps depth first cs).1)
    (depth : Nat) (first : Bool) (cs : List Char) :
    members (readMembers (steps + 1) depth first cs).1 := by
  unfold readMembers
  extract_lets member
  have hmember (cs : List Char) : members (member cs).1 := by
    unfold member
    split
    next => exact h.noMembers
    next hskip =>
      simp only
      split
      next => exact h.member hskip (h.noColon _) h.noMembers
      next rest _ =>
        have hd := hvalue depth rest
        split
        next heq =>
          rw [heq] at hd
          exact h.member hskip hd h.noMembers
        next heq =>
          rw [heq] at hd
          exact h.member hskip hd (hmembers _ _ _)
      next => exact h.member hskip (h.noColon _) h.noMembers
  split
  next => exact h.noMembers
  next => exact h.noMembers
  next =>
    split
    · exact h.noMembers
    · split
      · exact h.noMembers
      · exact h.noMembers
      · exact hmember _
      · exact h.noMembers
  next =>
    split
    · exact hmember _
    · exact h.noMembers
  next =>
    split <;> exact h.noMembers

end Step

/-- The run lemma: all three readers keep the property. -/
theorem readers (h : ReadingInvariant value items members) (steps : Nat) :
    (forall depth cs, value (readValue steps depth cs).1) ∧
    (forall depth first cs, items (readItems steps depth first cs).1) ∧
    (forall depth first cs, members (readMembers steps depth first cs).1) := by
  induction steps with
  | zero =>
      exact ⟨fun _ _ => h.broken _ _, fun _ _ _ => h.noItems, fun _ _ _ => h.noMembers⟩
  | succ steps ih =>
      rcases ih with ⟨hvalue, hitems, hmembers⟩
      exact ⟨h.readValue_succ hitems hmembers, h.readItems_succ hvalue hitems,
        h.readMembers_succ hvalue hmembers⟩

/-- What a text begins with has the property. -/
theorem read (h : ReadingInvariant value items members) (text : String) :
    value (Draft.read text).1 :=
  (h.readers _).left 0 _

end ReadingInvariant
end NetworkPlan
