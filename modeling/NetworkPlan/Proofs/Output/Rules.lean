import NetworkPlan.Output.Parameters
import NetworkPlan.Proofs.Security.Description

/-!
# Rules as they are written

A rule is written as its name and its properties.  The sides and the ports have one name for a
single value and another one for a list, and a written rule uses exactly one of the two.
-/

namespace NetworkPlan

/-!
## One value or a list
-/

/-- Members hold one text under one name, or a list of texts under another name, and never both. -/
inductive HoldsForm (members : List (String × Json)) (single plural : String) : OneOrMany -> Prop
  | one {value : String} (hsingle : Entries.get? single members = some (.string value))
      (hplural : Entries.get? plural members = none) : HoldsForm members single plural (.one value)
  | many {values : List String} (hsingle : Entries.get? single members = none)
      (hplural : Entries.get? plural members = some (.strings values)) :
      HoldsForm members single plural (.many values)

/-- The member that holds one value or a list. -/
def formMember (single plural : String) : OneOrMany -> String × Json
  | .one value => (single, .string value)
  | .many values => (plural, .strings values)

section Form

variable {single plural key : String} {form : OneOrMany} {rest : List (String × Json)}

theorem get?_cons_of_ne {name : String} {value : Json} (h : name ≠ key) :
    Entries.get? key ((name, value) :: rest) = Entries.get? key rest :=
  if_neg h

theorem get?_formMember_of_ne (hsingle : single ≠ key) (hplural : plural ≠ key) :
    Entries.get? key (formMember single plural form :: rest) = Entries.get? key rest := by
  cases form with
  | one value => exact get?_cons_of_ne hsingle
  | many values => exact get?_cons_of_ne hplural

theorem holdsForm_formMember (hne : single ≠ plural) (hsingle : Entries.get? single rest = none)
    (hplural : Entries.get? plural rest = none) :
    HoldsForm (formMember single plural form :: rest) single plural form := by
  cases form with
  | one value =>
      exact HoldsForm.one (if_pos rfl) ((get?_cons_of_ne hne).trans hplural)
  | many values =>
      exact HoldsForm.many ((get?_cons_of_ne hne.symm).trans hsingle) (if_pos rfl)

/-- A member in front is not seen if it has another name. -/
theorem HoldsForm.cons (h : HoldsForm rest single plural form) {member : String × Json}
    (hunseen : forall key, key = single ∨ key = plural ->
      Entries.get? key (member :: rest) = Entries.get? key rest) :
    HoldsForm (member :: rest) single plural form := by
  have hsingle := hunseen single (Or.inl rfl)
  have hplural := hunseen plural (Or.inr rfl)
  cases h with
  | one hone hnone => exact HoldsForm.one (hsingle.trans hone) (hplural.trans hnone)
  | many hnone hmany => exact HoldsForm.many (hsingle.trans hnone) (hplural.trans hmany)

end Form

/-!
## The properties of a rule
-/

namespace Rule

/-- The properties in the order in which they are written. -/
def properties (rule : Rule) : List (String × Json) := [
  formMember "sourceAddressPrefix" "sourceAddressPrefixes" rule.source,
  ("sourcePortRange", .string rule.sourcePortRange),
  formMember "destinationAddressPrefix" "destinationAddressPrefixes" rule.destination,
  formMember "destinationPortRange" "destinationPortRanges" rule.destinationPorts,
  ("protocol", .string rule.protocol),
  ("access", .string rule.access),
  ("priority", .ofNat rule.priority),
  ("direction", .string rule.direction.toText)]

theorem toJson_eq (rule : Rule) :
    rule.toJson = .object [("name", .string rule.name), ("properties", .object rule.properties)] := by
  unfold toJson properties
  cases rule.source <;> cases rule.destination <;> cases rule.destinationPorts <;> rfl

/-- The properties of a rule as they are written: eight members under different names. -/
structure WrittenAs (rule : Rule) (members : List (String × Json)) : Prop where
  length : members.length = 8
  names : (Entries.keys members).Nodup
  source : HoldsForm members "sourceAddressPrefix" "sourceAddressPrefixes" rule.source
  destination : HoldsForm members "destinationAddressPrefix" "destinationAddressPrefixes"
    rule.destination
  destinationPorts : HoldsForm members "destinationPortRange" "destinationPortRanges"
    rule.destinationPorts
  sourcePortRange : Entries.get? "sourcePortRange" members = some (.string rule.sourcePortRange)
  protocol : Entries.get? "protocol" members = some (.string rule.protocol)
  access : Entries.get? "access" members = some (.string rule.access)
  priority : Entries.get? "priority" members = some (.number (.integer rule.priority))
  direction : Entries.get? "direction" members = some (.string rule.direction.toText)

theorem writtenAs_properties (rule : Rule) : rule.WrittenAs rule.properties := by
  constructor
  case length => rfl
  case names =>
    unfold properties
    cases rule.source <;> cases rule.destination <;> cases rule.destinationPorts <;>
      simp [formMember, Entries.keys]
  case source =>
    apply holdsForm_formMember <;> simp [get?_formMember_of_ne, get?_cons_of_ne]
  case destination =>
    apply HoldsForm.cons
    · apply HoldsForm.cons
      · apply holdsForm_formMember <;> simp [get?_formMember_of_ne, get?_cons_of_ne]
      · simp [get?_cons_of_ne]
    · simp [get?_formMember_of_ne]
  case destinationPorts =>
    apply HoldsForm.cons
    · apply HoldsForm.cons
      · apply HoldsForm.cons
        · apply holdsForm_formMember <;> simp [get?_cons_of_ne]
        · simp [get?_formMember_of_ne]
      · simp [get?_cons_of_ne]
    · simp [get?_formMember_of_ne]
  all_goals
    simp only [properties, get?_formMember_of_ne, get?_cons_of_ne, ne_eq, String.reduceEq,
      not_false_eq_true]
    rfl

end Rule

/-- A description with defaults for both sides gives a rule exactly if both sides resolve.  The
rule then has one address for each reference, a name of its own or a generated one, and is written
with each side under the one name that fits its form. -/
theorem Directory.expandRule_described (d : Directory) (r : RuleDescription) (owner : String) :
    exists source destination,
      (forall side, r.SourceSide owner side ↔ side = source) ∧
      (forall name, source = .selector name ↔
        r.sourceSelector = some name ∧ ¬ (r.IsOutbound ∧ r.source = none)) ∧
      (forall side, r.DestinationSide owner side ↔ side = destination) ∧
      ((exists rule, d.expandRule r owner = .ok rule) ↔
        d.CanResolve owner source ∧ d.CanResolve owner destination) ∧
      forall rule, d.expandRule r owner = .ok rule ->
        d.StandsFor owner r source destination rule ∧
          exists members, rule.toJson =
              .object [("name", .string rule.name), ("properties", .object members)] ∧
            rule.WrittenAs members := by
  refine ⟨r.sourceSide owner, r.destinationSide owner, fun _ => RuleDescription.sourceSide_iff, ?_,
    fun _ => RuleDescription.destinationSide_iff, exists_expandRule_iff, ?_⟩
  · intro name
    rw [eq_comm, ← RuleDescription.sourceSide_iff]
    constructor
    · intro h
      cases h with
      | selector hselector happlies => exact ⟨hselector, happlies⟩
    · intro h
      exact RuleDescription.SourceSide.selector h.left h.right
  · intro rule hrule
    exact ⟨standsFor_of_expandRule hrule, rule.properties, rule.toJson_eq,
      rule.writtenAs_properties⟩

end NetworkPlan
