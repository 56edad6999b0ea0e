import NetworkPlan.Output.Parameters
import NetworkPlan.Proofs.Decoder.Kept
import NetworkPlan.Proofs.Document.Subnets
import NetworkPlan.Proofs.Plan.Directory
import NetworkPlan.Proofs.Validation.Members
import NetworkPlan.Proofs.Validation.TypedReading

/-!
# Subnets as they are written

Every subnet is written with its name, its alias, its size and its block, and with what its
definition says besides.  Validation keeps names and aliases apart, so the definition that is found
again is the one that the subnet was made from; and a definition keeps only members that have no
meaning of their own, so none of them can stand in for what was allocated.
-/

namespace NetworkPlan

/-- The members of a definition that have a meaning. -/
def definitionKeys : List String :=
  ["name", "alias", "nsg-rule", "legacyToken", "prefixLength"]

/-- The members of a written subnet that say what was allocated. -/
def allocationKeys : List String :=
  ["name", "alias", "prefixLength", "addressPrefix"]

/-- Exactly one of the definitions has the name. -/
def OnlyDefinition (definitions : List Json) (name : String) (definition : Entries Json) : Prop :=
  definitions.filter (fun item => (item.get? "name").bind Json.string? == some name) =
    [.object definition]

/-- A definition describes a subnet: the alias is the first text among the members that can give
one. -/
structure DefinedBy (definition : Entries Json) (s : Subnet) : Prop where
  name : Entries.get? "name" definition = some (.string s.name)
  aliasName : ["alias", "nsg-rule", "legacyToken", "name"].findSome? (fun key =>
    (Entries.get? key definition).bind Json.string?) = some s.aliasName
  prefixLength : Entries.get? "prefixLength" definition = some (.ofNat s.block.length)

/-- A subnet is written with what was allocated, and otherwise with what its definition says
without meaning; a block in the definition gives way to the one that was allocated. -/
structure WrittenFrom (definition : Entries Json) (s : Subnet) (object : Entries Json) : Prop where
  distinct : (Entries.keys object).Nodup
  name : Entries.get? "name" object = some (.string s.name)
  aliasName : Entries.get? "alias" object = some (.string s.aliasName)
  prefixLength : Entries.get? "prefixLength" object = some (.ofNat s.block.length)
  addressPrefix : Entries.get? "addressPrefix" object = some (.string s.block.toText)
  others : (object.filter fun member => !allocationKeys.contains member.fst) =
    definition.filter fun member =>
      !(definitionKeys.contains member.fst || member.fst == "addressPrefix")
  no_token : forall key, key ∈ ["nsg-rule", "legacyToken"] -> key ∉ Entries.keys object

/-!
## Definitions
-/

section Definition

variable {σ : Type} {r : Record σ}

/-- What the first text among the members of a field says, the field is. -/
theorem Record.Field.part_eq_findSome? {keys : List String} {part : σ -> Option String}
    {members : List (String × Json)} {record : σ}
    (hfield : r.Field keys (.option .string) part) (hinitial : part r.initial = none)
    (h : r.decode.Reads (.object members) record) :
    part record = keys.findSome? fun key => (Entries.get? key members).bind Json.string? := by
  cases hfound : keys.findSome? fun key => (Entries.get? key members).bind Json.string? with
  | some text =>
      rcases List.exists_of_findSome?_eq_some hfound with ⟨key, hkey, htext⟩
      rcases Option.bind_eq_some_iff.mp htext with ⟨value, hget, hvalue⟩
      rcases Decoder.reads_option.mp (hfield.reads_part h hkey hget) with
        ⟨rfl, _⟩ | ⟨_, read, hread, hpart⟩
      · cases hvalue
      · rw [Decoder.reads_string.mp hread] at hvalue
        exact hpart.symm.trans hvalue
  | none =>
      rw [List.findSome?_eq_none_iff] at hfound
      by_cases hgiven : exists key, key ∈ keys ∧ exists value, Entries.get? key members = some value
      · -- A member that is there but gives no text is null.
        rcases hgiven with ⟨key, hkey, value, hget⟩
        rcases Decoder.reads_option.mp (hfield.reads_part h hkey hget) with
          ⟨_, hpart⟩ | ⟨_, read, hread, _⟩
        · exact hpart
        · have hnone := hfound key hkey
          rw [hget, Decoder.reads_string.mp hread] at hnone
          cases hnone
      · rw [hfield.part_of_absent h, hinitial]
        intro key hkey
        rw [Option.eq_none_iff_forall_ne_some]
        intro value hget
        exact hgiven ⟨key, hkey, value, hget⟩

end Definition

namespace SubnetDescription

theorem knows_record (key : String) : record.knows key = definitionKeys.contains key := by
  rw [Bool.eq_iff_iff]
  simp [Record.knows, record, RecordMember.answersTo_iff, definitionKeys, RecordMember.required,
    RecordMember.nullable, or_assoc]

variable {members : List (String × Json)} {d : SubnetDescription}

theorem properties_eq (hnames : (Json.object members).WellFormed)
    (h : record.decode.Reads (.object members) d) :
    d.properties = members.filter fun member => !definitionKeys.contains member.fst := by
  have hkeeps : forall m, m ∈ record.members -> m.Keeps SubnetDescription.properties := by
    simp [record]
  simp only [← knows_record]
  exact Record.kept_eq rfl (fun _ _ _ => rfl) hkeeps rfl hnames h

theorem effectiveAlias_eq (d : SubnetDescription) :
    d.aliasName.or (d.legacyToken.or (some d.name)) = some d.effectiveAlias := by
  unfold effectiveAlias
  cases d.aliasName <;> cases d.legacyToken <;> rfl

theorem get?_name (hshaped : Validation.DefinitionShaped members)
    (h : record.decode.Reads (.object members) d) :
    Entries.get? "name" members = some (.string d.name) := by
  rcases hshaped.name with ⟨text, hget⟩
  rw [hget, Decoder.reads_string.mp (field_name.reads_part h List.mem_cons_self hget)]

theorem definedBy (hshaped : Validation.DefinitionShaped members)
    (h : record.decode.Reads (.object members) d) {s : Subnet}
    (hserved : d.request.ServedBy s) : DefinedBy members s := by
  have hname := get?_name hshaped h
  have hlength : Entries.get? "prefixLength" members = some (.ofNat d.prefixLength) := by
    rcases hshaped.prefixLength with ⟨n, _, hget⟩
    have hread := field_prefixLength.reads_part h List.mem_cons_self hget
    rw [hget, (Decoder.reads_natural.mp hread).right]
  constructor
  case name =>
    rw [hname, hserved.name_eq]
    rfl
  case aliasName =>
    rw [hserved.alias_eq]
    have htext : ["name"].findSome? (fun key => (Entries.get? key members).bind Json.string?) =
        some d.name := by
      simp [hname, Json.string?]
    calc (["alias"] ++ (["nsg-rule", "legacyToken"] ++ ["name"])).findSome?
            (fun key => (Entries.get? key members).bind Json.string?)
        = d.aliasName.or (d.legacyToken.or (some d.name)) := by
          rw [List.findSome?_append, List.findSome?_append, htext,
            field_aliasName.part_eq_findSome? rfl h, field_legacyToken.part_eq_findSome? rfl h]
      _ = some d.effectiveAlias := effectiveAlias_eq d
  case prefixLength =>
    rw [hlength, hserved.length_eq]
    rfl

end SubnetDescription

/-!
## One subnet
-/

section Distinct

variable {α β : Type} [BEq β] [LawfulBEq β] {key : α -> β} {items : List α}

theorem filter_of_nodup_map (h : (items.map key).Nodup) {a : α} (ha : a ∈ items) :
    items.filter (fun item => key item == key a) = [a] := by
  induction items with
  | nil =>
      cases ha
  | cons first rest ih =>
      rcases List.nodup_cons.mp h with ⟨hfirst, hrest⟩
      rcases List.mem_cons.mp ha with rfl | hlater
      · have hnone : rest.filter (fun item => key item == key a) = [] := by
          rw [List.filter_eq_nil_iff]
          intro item hitem heq
          exact hfirst (List.mem_map.mpr ⟨item, hitem, beq_iff_eq.mp heq⟩)
        rw [List.filter_cons_of_pos (by simp), hnone]
      · have hne : key first ≠ key a := by
          intro heq
          exact hfirst (List.mem_map.mpr ⟨a, hlater, heq.symm⟩)
        rw [List.filter_cons_of_neg (by simpa using hne), ih hrest hlater]

theorem find?_of_nodup_map (h : (items.map key).Nodup) {a : α} (ha : a ∈ items) :
    items.find? (fun item => key item == key a) = some a := by
  rw [← List.head?_filter, filter_of_nodup_map h ha]
  rfl

end Distinct

/-- What a subnet is written with before what its definition passes on. -/
def Subnet.allocation (s : Subnet) : Entries Json :=
  [("name", .string s.name), ("alias", .string s.aliasName),
    ("prefixLength", .ofNat s.block.length)]

theorem Subnet.keys_allocation (s : Subnet) :
    Entries.keys s.allocation = ["name", "alias", "prefixLength"] := rfl

/-- What a definition passes on. -/
def passedOn (definition : Entries Json) : Entries Json :=
  definition.filter fun member => !definitionKeys.contains member.fst

section Written

variable {definition : Entries Json} (s : Subnet)

theorem not_mem_definitionKeys_of_passedOn {key : String}
    (h : key ∈ Entries.keys (passedOn definition)) : key ∉ definitionKeys := by
  rcases List.mem_map.mp h with ⟨member, hmember, rfl⟩
  simpa [passedOn] using (List.mem_filter.mp hmember).right

theorem keys_nodup_allocation_append (hnames : (Entries.keys definition).Nodup) :
    (Entries.keys (s.allocation ++ passedOn definition)).Nodup := by
  rw [Entries.keys_append, s.keys_allocation, List.nodup_append']
  refine ⟨by decide, Entries.keys_nodup_filter hnames _, ?_⟩
  intro key hkey hpassed
  have hmeaning : ["name", "alias", "prefixLength"] ⊆ definitionKeys := by decide
  exact not_mem_definitionKeys_of_passedOn hpassed (hmeaning hkey)

theorem writtenFrom (hnames : (Entries.keys definition).Nodup) :
    WrittenFrom definition s (Entries.put "addressPrefix" (.string s.block.toText)
      (s.allocation ++ passedOn definition)) := by
  constructor
  case distinct =>
    exact Entries.nodup_keys_put _ _ (keys_nodup_allocation_append s hnames)
  case name =>
    simp [Entries.get?_put, Subnet.allocation, Entries.get?]
  case aliasName =>
    simp [Entries.get?_put, Subnet.allocation, Entries.get?]
  case prefixLength =>
    simp [Entries.get?_put, Subnet.allocation, Entries.get?]
  case addressPrefix =>
    simp [Entries.get?_put]
  case others =>
    have hallocation : s.allocation.filter (fun member => !allocationKeys.contains member.fst) =
        [] := by
      simp [Subnet.allocation, allocationKeys]
    have hreplaced : (!allocationKeys.contains "addressPrefix") = false := by decide
    rw [Entries.filter_put (fun key => !allocationKeys.contains key) hreplaced,
      List.filter_append, hallocation, List.nil_append, passedOn, List.filter_filter]
    refine List.filter_congr fun member _ => ?_
    rw [Bool.eq_iff_iff]
    simp only [allocationKeys, definitionKeys, Bool.and_eq_true, Bool.not_eq_true',
      Bool.or_eq_false_iff, List.contains_eq_mem, decide_eq_false_iff_not, beq_eq_false_iff_ne,
      List.mem_cons, List.not_mem_nil, or_false]
    tauto
  case no_token =>
    intro key hkey hmem
    have hmeaning : ["nsg-rule", "legacyToken"] ⊆ definitionKeys := by decide
    rw [Entries.mem_keys_put, Entries.keys_append, s.keys_allocation, List.mem_append] at hmem
    rcases hmem with rfl | hallocated | hpassed
    · revert hkey
      decide
    · revert key
      decide
    · exact not_mem_definitionKeys_of_passedOn hpassed (hmeaning hkey)

end Written

namespace Plan

variable {plan : Plan}

theorem subnetJson_eq {s : Subnet} {d : SubnetDescription} (hserved : d.request.ServedBy s)
    (hrequest : plan.requests.find? (fun r => r.aliasName == s.aliasName) = some d.request)
    (hdescription : plan.subnetDocument.descriptions.find?
      (fun d => d.effectiveAlias == s.aliasName) = some d)
    (hnames : (Entries.keys (s.allocation ++ d.properties)).Nodup) :
    plan.subnetJson s = .object (Entries.put "addressPrefix" (.string s.block.toText)
      (s.allocation ++ d.properties)) := by
  unfold subnetJson SubnetDocument.propertiesFor
  rw [hrequest, hdescription, ← Entries.putAll_of_nodup hnames, Subnet.allocation,
    hserved.length_eq]
  rfl

/-!
## All subnets
-/

variable {inputs : Inputs}

/-- The definitions that the descriptions of a plan were read from. -/
structure ReadFrom (plan : Plan) (definitions : List Json) : Prop where
  reads : List.Forall₂ SubnetDescription.record.decode.Reads definitions
    plan.subnetDocument.descriptions
  wellFormed : forall item, item ∈ definitions -> item.WellFormed
  shaped : forall item, item ∈ definitions ->
    exists definition, item = .object definition ∧ Validation.DefinitionShaped definition

theorem MadeFrom.exists_definitions (h : plan.MadeFrom inputs)
    (hsubnets : inputs.subnets.WellFormed) :
    exists definitions, inputs.subnets.get? "subnetDefinitions" = some (.array definitions) ∧
      plan.ReadFrom definitions := by
  rcases Validation.validationLines_eq_nil_iff.mp h.valid with ⟨_, hcheck⟩
  rcases Validation.checkSubnets_eq_pure hcheck with ⟨members, definitions, hdoc, hget, hitems⟩
  have hdocument := h.subnetDocument
  rw [hdoc] at hdocument hsubnets
  have hread := SubnetDocument.field_descriptions.reads_part hdocument List.mem_cons_self hget
  rcases Decoder.reads_list.mp hread with ⟨items, heq, hreads⟩
  cases heq
  refine ⟨definitions, by rw [hdoc]; exact hget, hreads, ?_, ?_⟩
  · intro item hitem
    exact Json.wellFormed_of_mem_items (Json.wellFormed_of_get? hsubnets.right hget) hitem
  · intro item hitem
    exact Validation.shaped_of_checkDefinitions hitems hitem

theorem MadeFrom.allPassed (h : plan.MadeFrom inputs) :
    Validation.AllPassed ⟨[], [], []⟩ plan.subnetDocument.descriptions := by
  rcases Validation.validationLines_eq_nil_iff.mp h.valid with ⟨_, hcheck⟩
  exact Validation.allPassed_of_checkSubnets hcheck h.subnetDocument

theorem MadeFrom.descriptions_names_nodup (h : plan.MadeFrom inputs) :
    (plan.subnetDocument.descriptions.map SubnetDescription.name).Nodup := by
  rw [← List.filterMap_eq_map]
  exact Validation.Fresh.nodup_filterMap h.allPassed.names

theorem MadeFrom.descriptions_aliases_nodup (h : plan.MadeFrom inputs) :
    (plan.subnetDocument.descriptions.map SubnetDescription.effectiveAlias).Nodup := by
  rw [← List.filterMap_eq_map]
  exact Validation.Fresh.nodup_filterMap h.allPassed.aliases

theorem MadeFrom.exists_description (h : plan.MadeFrom inputs) {s : Subnet}
    (hs : s ∈ plan.subnets) :
    exists d, d ∈ plan.subnetDocument.descriptions ∧ d.request ∈ plan.requests ∧
      d.request.ServedBy s := by
  rcases h.exists_request hs with ⟨r, hr, hserved⟩
  have hrequest := hr
  rw [h.requests] at hr
  rcases List.mem_map.mp ((Validation.requests_sublist _ _).subset hr) with ⟨d, hd, rfl⟩
  exact ⟨d, hd, hrequest, hserved⟩

/-- No two definitions of a plan have the same name. -/
theorem MadeFrom.definition_names_nodup (h : plan.MadeFrom inputs) {definitions : List Json}
    (hread : plan.ReadFrom definitions) :
    (definitions.map fun item => (item.get? "name").bind Json.string?).Nodup := by
  have hnames : (definitions.map fun item => (item.get? "name").bind Json.string?) =
      plan.subnetDocument.descriptions.map (some ∘ SubnetDescription.name) := by
    apply map_eq_map_of_forall₂ hread.reads
    intro item hitem d hd
    rcases hread.shaped item hitem with ⟨definition, rfl, hshaped⟩
    rw [Json.get?, SubnetDescription.get?_name hshaped hd]
    rfl
  rw [hnames, ← List.map_map]
  exact h.descriptions_names_nodup.map (Option.some_injective _)

theorem MadeFrom.exists_object (h : plan.MadeFrom inputs) {definitions : List Json}
    (hread : plan.ReadFrom definitions) {s : Subnet} (hs : s ∈ plan.subnets) :
    exists object, plan.subnetJson s = .object object ∧ exists definition,
      OnlyDefinition definitions s.name definition ∧ DefinedBy definition s ∧
        WrittenFrom definition s object := by
  rcases h.exists_description hs with ⟨d, hd, hrequest, hserved⟩
  rcases exists_left_of_forall₂ hread.reads hd with ⟨item, hitem, hreads⟩
  rcases hread.shaped item hitem with ⟨definition, rfl, hshaped⟩
  have hnames := hread.wellFormed _ hitem
  have hproperties : d.properties = passedOn definition :=
    SubnetDescription.properties_eq hnames hreads
  have hname : ((Json.object definition).get? "name").bind Json.string? = some s.name := by
    rw [Json.get?, SubnetDescription.get?_name hshaped hreads, hserved.name_eq]
    rfl
  -- Both searches are by alias, and aliases differ, also from those of requests that were dropped.
  have hfound : plan.requests.find? (fun r => r.aliasName == s.aliasName) = some d.request := by
    rw [hserved.alias_eq]
    exact find?_of_nodup_map h.preconditions.aliases_nodup hrequest
  have hdescription : plan.subnetDocument.descriptions.find?
      (fun d => d.effectiveAlias == s.aliasName) = some d := by
    rw [hserved.alias_eq]
    exact find?_of_nodup_map h.descriptions_aliases_nodup hd
  have hjson := subnetJson_eq hserved hfound hdescription
    (by rw [hproperties]; exact keys_nodup_allocation_append s hnames.left)
  rw [hproperties] at hjson
  refine ⟨_, hjson, definition, ?_, SubnetDescription.definedBy hshaped hreads hserved,
    writtenFrom s hnames.left⟩
  rw [OnlyDefinition, ← hname]
  exact filter_of_nodup_map (h.definition_names_nodup hread) hitem

end Plan

/-- The subnets of a plan are written one by one, each from the only definition with its name. -/
def Plan.WritesSubnets (plan : Plan) (definitions : List Json) (objects : List (Entries Json)) :
    Prop :=
  List.Forall₂ (fun s object => exists definition, OnlyDefinition definitions s.name definition ∧
    DefinedBy definition s ∧ WrittenFrom definition s object) plan.subnets objects

/-- Whatever the definitions say besides, the subnets are written as they were allocated. -/
theorem subnets_written_from_definitions {inputs : Inputs} {plan : Plan}
    (hsubnets : inputs.subnets.WellFormed) (h : compile inputs = .ok plan) :
    exists definitions objects,
      inputs.subnets.get? "subnetDefinitions" = some (.array definitions) ∧
      Entries.get? "subnets" plan.subnetParameters.parameters =
        some (.array (objects.map Json.object)) ∧
      plan.WritesSubnets definitions objects := by
  have hmade := compile_eq_ok_iff.mp h
  rcases hmade.exists_definitions hsubnets with ⟨definitions, hget, hread⟩
  rcases exists_forall₂_iff.mpr fun s hs => hmade.exists_object hread hs with
    ⟨objects, hobjects⟩
  have hsame : plan.subnets.map plan.subnetJson = objects.map Json.object :=
    map_eq_map_of_forall₂ hobjects fun _ _ _ hboth => hboth.left
  refine ⟨definitions, objects, hget, ?_, hobjects.imp fun _ _ hboth => hboth.right⟩
  rw [← hsame]
  rfl

/-!
## Definitions that say more
-/

namespace Inputs

/-- A definition gives a block of its own, another one gives its token under the other name, and
the bastion that is left out passes something on as well. -/
def annotatedSubnets : Json :=
  .object [("subnetDefinitions", .array [
    .object [("delegations", .strings ["databases"]), ("name", .string "snet-user"),
      ("addressPrefix", .string "192.168.0.0/24"), ("alias", .string "usernode"),
      ("prefixLength", .ofNat 24), ("Name", .null)],
    .object [("name", .string "snet-bastion"), ("alias", .string "bastion"),
      ("prefixLength", .ofNat 26), ("delegations", .array [])],
    .object [("legacyToken", .string "agic"), ("name", .string "snet-agic"),
      ("prefixLength", .ofNat 24), ("nsgRule", .string "none")],
    .object [("name", .string "firewall"), ("prefixLength", .ofNat 26)]])]

def annotated : Inputs :=
  { sample with subnets := annotatedSubnets }

end Inputs

namespace Plan

def annotatedDocument : SubnetDocument :=
  ⟨defaultModulesName, defaultLockKind, [
    ⟨"snet-user", some "usernode", none, 24, [("delegations", .strings ["databases"]),
      ("addressPrefix", .string "192.168.0.0/24"), ("Name", .null)]⟩,
    ⟨"snet-bastion", some "bastion", none, 26, [("delegations", .array [])]⟩,
    ⟨"snet-agic", none, some "agic", 24, [("nsgRule", .string "none")]⟩,
    ⟨"firewall", none, none, 26, []⟩]⟩

/-- The plan for these definitions allocates what the plan without the additions does. -/
def annotated : Plan :=
  { sample with subnetDocument := annotatedDocument }

theorem annotated_madeFrom : annotated.MadeFrom Inputs.annotated :=
  { sample_madeFrom with
    valid := Inputs.validationLines_sampleCommon rfl
    subnetDocument := by
      unfold Decoder.Reads
      rfl
    requests := by
      show sampleRequests = annotatedDocument.requests sampleSettings
      rfl }

end Plan

/-- The additions do not get in the way. -/
theorem annotated_subnets_written :
    Inputs.annotated.subnets.WellFormed ∧ compile Inputs.annotated = .ok Plan.annotated ∧
    exists definitions objects,
      Inputs.annotatedSubnets.get? "subnetDefinitions" = some (.array definitions) ∧
      Entries.get? "subnets" Plan.annotated.subnetParameters.parameters =
        some (.array (objects.map Json.object)) ∧
      Plan.annotated.WritesSubnets definitions objects := by
  have hsubnets : Inputs.annotated.subnets.WellFormed := by
    decide
  have hcompile := compile_eq_ok_iff.mpr Plan.annotated_madeFrom
  exact ⟨hsubnets, hcompile, subnets_written_from_definitions hsubnets hcompile⟩

/-- The block of the definition gives way where it stands. -/
example : Plan.annotated.subnetJson ⟨"snet-user", "usernode", Block.ofNetwork 0x0A000000 24⟩ =
    .object [("name", .string "snet-user"), ("alias", .string "usernode"),
      ("prefixLength", .ofNat 24), ("delegations", .strings ["databases"]),
      ("addressPrefix", .string "10.0.0.0/24"), ("Name", .null)] := by
  rfl

end NetworkPlan
