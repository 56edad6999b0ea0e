import NetworkPlan.Output.Summary
import NetworkPlan.Proofs.Plan.Attachments
import NetworkPlan.Proofs.Routing.Tables
import NetworkPlan.Proofs.Text.Csv

/-!
# The rows of the summary

The summary has a header, a row for each subnet in address order and a row for each free block, and
the rows are counted through.  A row is a line of values in quotes.  Since quotes in a value are not
doubled, a reader gets back the values of a row as long as they have none: that is always so for free
blocks, and for a subnet it depends on its names and on the names that the settings give.  A name or
an alias with a quote is never read back.
-/

namespace NetworkPlan

/-!
## Values without quotes
-/

namespace Csv

theorem unquoted_toString_nat (n : Nat) : Unquoted (toString n) := by
  have htext : (toString n).toList = Nat.toDigits 10 n := by
    simp [toString]
  rw [Unquoted, htext]
  exact Text.not_mem_toDigits (by decide) n

theorem unquoted_address (a : Address) : Unquoted (toString a) := by
  intro hmem
  rcases Address.isDigit_or_point_of_mem_toText hmem with hdigit | hpoint
  · cases hdigit
  · exact absurd hpoint (by decide)

theorem unquoted_block (b : Block) : Unquoted b.toText :=
  unquoted_append_iff.mpr ⟨unquoted_append_iff.mpr ⟨unquoted_address b.address, by decide⟩,
    unquoted_toString_nat b.length⟩

end Csv

namespace Summary

open Csv

theorem unquoted_hosts (block : Block) : Unquoted (hosts block) := by
  unfold hosts
  split
  next n _ => exact unquoted_toString_nat n
  next => decide

/-!
## Rows
-/

theorem shows_field (value : String) (width : Nat) : Shows value (field value width) := by
  have hquoted : ("\"" ++ value ++ "\"").toList = '"' :: (value.toList ++ ['"']) := by
    rw [String.toList_append, String.toList_append]
    rfl
  unfold field
  simp only
  split
  next =>
    exact ⟨0, hquoted⟩
  next =>
    refine ⟨width - ("\"" ++ value ++ "\"").length, ?_⟩
    rw [String.toList_append, String.toList_ofList, hquoted]

/-- The values of a row that do not come from names. -/
def start (position : Nat) (kind : String) (block : Block) : List String :=
  [toString position, kind, block.toText, hosts block, s!"{block.last}_br"]

/-- The values of a row. -/
def values (position : Nat) (kind : String) (block : Block) (name aliasName group table : String) :
    List String :=
  start position kind block ++ [name, aliasName, group, table]

variable {position : Nat} {kind name aliasName group table : String} {block : Block}

theorem unquoted_start (hkind : Unquoted kind) :
    forall value, value ∈ start position kind block -> Unquoted value := by
  simp only [start, List.forall_mem_cons]
  refine ⟨unquoted_toString_nat position, hkind, unquoted_block block, unquoted_hosts block, ?_,
    by simp⟩
  exact unquoted_append_iff.mpr ⟨unquoted_address block.last, by decide⟩

/-- The fields of a row show its values. -/
theorem exists_fields (position : Nat) (kind : String) (block : Block)
    (name aliasName group table : String) :
    exists fields,
      List.Forall₂ Shows (values position kind block name aliasName group table) fields ∧
      row position kind block name aliasName group table = ",".intercalate fields := by
  refine ⟨_, ?_, rfl⟩
  simp only [values, start, List.cons_append, List.nil_append, List.forall₂_cons, shows_field,
    true_and]
  exact List.Forall₂.nil

theorem fields?_row (hkind : Unquoted kind) (hname : Unquoted name) (halias : Unquoted aliasName)
    (hgroup : Unquoted group) (htable : Unquoted table) :
    fields? (row position kind block name aliasName group table) =
      some (values position kind block name aliasName group table) := by
  rcases exists_fields position kind block name aliasName group table with ⟨fields, hshows, hrow⟩
  rw [hrow]
  apply fields?_of_shows hshows (List.cons_ne_nil _ _)
  intro value hvalue
  rcases List.mem_append.mp hvalue with hstart | hnames
  · exact unquoted_start hkind value hstart
  · simp only [List.mem_cons, List.not_mem_nil, or_false] at hnames
    rcases hnames with rfl | rfl | rfl | rfl <;> assumption

/-- A reader finds as many fields in the row as there are columns, and in their places the position,
the name and the alias. -/
def Tells (row : String) (position : Nat) (name aliasName : String) : Prop :=
  exists read, fields? row = some read ∧ read.length = 9 ∧
    read[0]? = some (toString position) ∧ read[5]? = some name ∧ read[6]? = some aliasName

theorem tells_of_fields? {line : String}
    (h : fields? line = some (values position kind block name aliasName group table)) :
    Tells line position name aliasName :=
  ⟨_, h, rfl, rfl, rfl, rfl⟩

/-- Neither a name nor an alias with a quote is read back. -/
theorem unquoted_of_tells {told : Nat} (hkind : Unquoted kind)
    (h : Tells (row position kind block name aliasName group table) told name aliasName) :
    Unquoted name ∧ Unquoted aliasName := by
  rcases exists_fields position kind block name aliasName group table with ⟨fields, hshows, hrow⟩
  rcases h with ⟨read, hread, _, _, hname, halias⟩
  rw [hrow] at hread
  have hbefore : forall value, value ∈ start position kind block -> Unquoted value :=
    unquoted_start hkind
  have hfirst : Unquoted name :=
    unquoted_of_fields? (k := 5) hshows hread hbefore rfl hname
  have hbehind : forall value, value ∈ start position kind block ++ [name] -> Unquoted value := by
    intro value hvalue
    rcases List.mem_append.mp hvalue with hstart | hlast
    · exact hbefore value hstart
    · rw [List.mem_singleton.mp hlast]
      exact hfirst
  exact ⟨hfirst, unquoted_of_fields? (k := 6) hshows hread hbehind rfl halias⟩

/-- The names of the group and of the table in the row of a subnet. -/
def attached (attachments : List Attachment) (s : Subnet) : String × String :=
  match attachments.find? (·.aliasName == s.aliasName) with
  | some a => (a.securityGroup, a.routeTable)
  | none => ("", "")

theorem subnetRow_eq (attachments : List Attachment) (position : Nat) (s : Subnet) :
    subnetRow attachments position s =
      row position "subnet" s.block s.name s.aliasName (attached attachments s).fst
        (attached attachments s).snd := by
  unfold subnetRow attached
  cases attachments.find? (·.aliasName == s.aliasName) with
  | none => rfl
  | some a => rfl

/-!
## Positions
-/

theorem length_rowsFrom {α : Type} (render : Nat → α → String) (position : Nat) (xs : List α) :
    (rowsFrom render position xs).length = xs.length := by
  induction xs generalizing position with
  | nil =>
      rfl
  | cons x xs ih =>
      rw [rowsFrom, List.length_cons, List.length_cons, ih]

theorem getElem?_rowsFrom {α : Type} (render : Nat → α → String) (position : Nat) (xs : List α)
    (i : Nat) : (rowsFrom render position xs)[i]? = xs[i]?.map (render (position + i)) := by
  induction xs generalizing position i with
  | nil =>
      rfl
  | cons x xs ih =>
      cases i with
      | zero =>
          rfl
      | succ i =>
          rw [rowsFrom, List.getElem?_cons_succ, List.getElem?_cons_succ, ih]
          congr 2
          omega

end Summary

/-- The names of the environment and of the system, of which names of resources are made, have no
quotes. -/
structure Settings.Unquoted (settings : Settings) : Prop where
  environmentName : Csv.Unquoted settings.deployment.environmentName
  systemName : Csv.Unquoted settings.deployment.systemName

theorem Settings.Unquoted.resourceName {settings : Settings} (h : settings.Unquoted)
    {kind : String} (hkind : Csv.Unquoted kind) : Csv.Unquoted (settings.resourceName kind) := by
  have hstart : Csv.Unquoted (kind ++ "-" ++ settings.deployment.environmentName ++ "-") := by
    simp only [Csv.unquoted_append_iff]
    exact ⟨⟨⟨hkind, by decide⟩, h.environmentName⟩, by decide⟩
  exact Csv.unquoted_append_iff.mpr ⟨hstart, h.systemName⟩

namespace Plan

open Csv Summary

variable {inputs : Inputs} {plan : Plan}

theorem subnetsByAddress_perm (plan : Plan) : plan.subnetsByAddress.Perm plan.subnets :=
  List.mergeSort_perm _ _

theorem getElem?_summaryRows_subnet {i : Nat} {s : Subnet}
    (hs : plan.subnetsByAddress[i]? = some s) :
    plan.summaryRows[i + 1]? = some (subnetRow plan.attachments (i + 1) s) := by
  have hlt := (List.getElem?_eq_some_iff.mp hs).choose
  rw [summaryRows, List.cons_append, List.getElem?_cons_succ,
    List.getElem?_append_left (by rw [length_rowsFrom]; exact hlt), getElem?_rowsFrom, hs,
    Nat.add_comm 1 i]
  rfl

theorem getElem?_summaryRows_free {i : Nat} {f : FreeBlock}
    (hf : plan.freeBlocks[i]? = some f) :
    plan.summaryRows[plan.subnets.length + 1 + i]? =
      some (freeRow (plan.subnets.length + 1 + i) f) := by
  have hlength := plan.subnetsByAddress_perm.length_eq
  have hposition : plan.subnets.length + 1 + i = plan.subnets.length + i + 1 := by
    omega
  rw [summaryRows, List.cons_append, hposition, List.getElem?_cons_succ,
    List.getElem?_append_right (by rw [length_rowsFrom]; omega), length_rowsFrom, hlength,
    Nat.add_sub_cancel_left, getElem?_rowsFrom, hf, Nat.add_right_comm]
  rfl

theorem length_summaryRows (plan : Plan) :
    plan.summaryRows.length = 1 + plan.subnets.length + plan.freeBlocks.length := by
  rw [summaryRows, List.cons_append, List.length_cons, List.length_append, length_rowsFrom,
    length_rowsFrom, plan.subnetsByAddress_perm.length_eq]
  omega

/-!
## Order
-/

/-- The blocks of a plan keep apart, so each starts behind the one before it. -/
theorem MadeFrom.subnetsByAddress_ascending (h : plan.MadeFrom inputs) :
    plan.subnetsByAddress.Pairwise fun a b => a.block.address.value < b.block.address.value := by
  have hperm := plan.subnetsByAddress_perm
  have hapart : plan.subnetsByAddress.Pairwise fun a b => a.block.Disjoint b.block :=
    (Cursor.placeAll_inside h.preconditions.ranges_apart h.subnets).right.perm hperm.symm
      fun hdisjoint => hdisjoint.symm
  have hsorted : plan.subnetsByAddress.Pairwise fun a b => a.block.precedes b.block = true :=
    List.pairwise_mergeSort (fun a b c => Block.precedes_trans a.block b.block c.block)
      (fun a b => Block.precedes_total a.block b.block) plan.subnets
  apply (hsorted.and hapart).imp_of_mem
  intro a b ha hb hboth
  rcases hboth with ⟨hprecedes, hdisjoint⟩
  have hlow := Block.isNetwork_iff.mp (Cursor.isNetwork_of_placeAll h.subnets (hperm.mem_iff.mp ha))
  have hlow' :=
    Block.isNetwork_iff.mp (Cursor.isNetwork_of_placeAll h.subnets (hperm.mem_iff.mp hb))
  have hends := a.block.low_le_high
  have hends' := b.block.low_le_high
  -- Blocks with one address would meet there.
  rw [Block.precedes_iff] at hprecedes
  rw [Block.disjoint_iff] at hdisjoint
  omega

/-!
## Names from the settings
-/

theorem MadeFrom.unquoted_tableFor (h : plan.MadeFrom inputs) {aliasName table : String}
    (htable : plan.routes.tableFor aliasName = some table) : Unquoted table := by
  rcases h.exists_tables with ⟨_, _, _, htables, _⟩
  rcases Option.map_eq_some_iff.mp htable with ⟨t, ht, rfl⟩
  have hmem := List.mem_of_find?_eq_some ht
  rw [htables] at hmem
  simp only [List.mem_cons, List.not_mem_nil, or_false] at hmem
  rcases hmem with rfl | rfl
  · show Unquoted ingressTable
    decide
  · show Unquoted egressTable
    decide

theorem MadeFrom.unquoted_securityGroup (h : plan.MadeFrom inputs)
    (hsettings : plan.settings.Unquoted) {x : Attachment} (hx : x ∈ plan.attachments)
    (halias : Unquoted x.aliasName) : Unquoted x.securityGroup := by
  rw [h.securityGroup_eq hx]
  split
  · exact unquoted_empty
  · simp only [unquoted_append_iff]
    exact ⟨⟨hsettings.resourceName (by decide), by decide⟩, halias⟩

theorem MadeFrom.unquoted_routeTable (h : plan.MadeFrom inputs)
    (hsettings : plan.settings.Unquoted) {x : Attachment} (hx : x ∈ plan.attachments) :
    Unquoted x.routeTable := by
  rw [h.attachments_eq] at hx
  rcases List.mem_map.mp hx with ⟨s, _, rfl⟩
  unfold attachment
  cases htable : plan.routes.tableFor s.aliasName with
  | none =>
      exact unquoted_empty
  | some table =>
      simp only [unquoted_append_iff]
      exact ⟨⟨hsettings.resourceName (by decide), by decide⟩, h.unquoted_tableFor htable⟩

theorem MadeFrom.unquoted_attached (h : plan.MadeFrom inputs)
    (hsettings : plan.settings.Unquoted) {s : Subnet} (halias : Unquoted s.aliasName) :
    Unquoted (attached plan.attachments s).fst ∧ Unquoted (attached plan.attachments s).snd := by
  unfold attached
  split
  next x hx =>
    have hmem := List.mem_of_find?_eq_some hx
    have hsame : x.aliasName = s.aliasName := by
      simpa using List.find?_some hx
    rw [← hsame] at halias
    exact ⟨h.unquoted_securityGroup hsettings hmem halias, h.unquoted_routeTable hsettings hmem⟩
  next =>
    exact ⟨unquoted_empty, unquoted_empty⟩

/-!
## Rows that are read back
-/

theorem MadeFrom.fields?_subnetRow (h : plan.MadeFrom inputs)
    (hsettings : plan.settings.Unquoted) {s : Subnet} (hname : Unquoted s.name)
    (halias : Unquoted s.aliasName) (position : Nat) :
    fields? (subnetRow plan.attachments position s) =
      some (values position "subnet" s.block s.name s.aliasName (attached plan.attachments s).fst
        (attached plan.attachments s).snd) := by
  rcases h.unquoted_attached hsettings halias with ⟨hgroup, htable⟩
  rw [subnetRow_eq]
  exact fields?_row (by decide) hname halias hgroup htable

end Plan

open Csv in
theorem Summary.fields?_freeRow (position : Nat) (f : FreeBlock) :
    fields? (freeRow position f) =
      some (values position "gap" f.block s!"{f.range}_vnet" "" "" "") :=
  fields?_row (by decide) (unquoted_append_iff.mpr ⟨unquoted_block f.range, by decide⟩)
    unquoted_empty unquoted_empty unquoted_empty

/-- The rows are the header, one for each subnet in ascending address order and one for each free
block, and they are counted through.  The rows of free blocks are always read back.  The row of a
subnet is read back if its name and its alias and the names that the settings give have no quotes,
and it does not tell its name and its alias if one of these has a quote. -/
theorem summary_rows_read_unless_quoted {inputs : Inputs} {plan : Plan}
    (h : compile inputs = .ok plan) :
    plan.summaryRows.length = 1 + plan.subnets.length + plan.freeBlocks.length ∧
    plan.summaryRows[0]? = some Summary.header ∧
    Csv.fields? Summary.header = some ["j", "kind", "cidr", "az_hosts", "broadcast", "name",
      "alias", "nsg", "route_table"] ∧
    plan.subnetsByAddress.Perm plan.subnets ∧
    (plan.subnetsByAddress.Pairwise fun a b => a.block.address.value < b.block.address.value) ∧
    (forall i s, plan.subnetsByAddress[i]? = some s ->
      exists row, plan.summaryRows[i + 1]? = some row ∧
        (plan.settings.Unquoted -> Csv.Unquoted s.name -> Csv.Unquoted s.aliasName ->
          Summary.Tells row (i + 1) s.name s.aliasName) ∧
        (Summary.Tells row (i + 1) s.name s.aliasName ->
          Csv.Unquoted s.name ∧ Csv.Unquoted s.aliasName)) ∧
    forall i f, plan.freeBlocks[i]? = some f ->
      exists row, plan.summaryRows[plan.subnets.length + 1 + i]? = some row ∧
        Summary.Tells row (plan.subnets.length + 1 + i) s!"{f.range}_vnet" "" := by
  have hmade := compile_eq_ok_iff.mp h
  refine ⟨plan.length_summaryRows, rfl, rfl, plan.subnetsByAddress_perm,
    hmade.subnetsByAddress_ascending, ?_, ?_⟩
  · intro i s hs
    refine ⟨_, Plan.getElem?_summaryRows_subnet hs, ?_, ?_⟩
    · intro hsettings hname halias
      exact Summary.tells_of_fields? (hmade.fields?_subnetRow hsettings hname halias (i + 1))
    · rw [Summary.subnetRow_eq]
      exact Summary.unquoted_of_tells (by decide)
  · intro i f hf
    exact ⟨_, Plan.getElem?_summaryRows_free hf,
      Summary.tells_of_fields? (Summary.fields?_freeRow _ f)⟩

/-!
## A name with quotes
-/

namespace Inputs

/-- The sample's subnets, one of them with a name that looks like two fields. -/
def disguisedSubnets : Json :=
  .object [("subnetDefinitions", .array [
    .object [("name", .string "snet\",\"user"), ("alias", .string "usernode"),
      ("prefixLength", .ofNat 24)],
    .object [("name", .string "snet-agic"), ("nsg-rule", .string "agic"),
      ("prefixLength", .ofNat 24)],
    .object [("name", .string "firewall"), ("prefixLength", .ofNat 26)]])]

def disguised : Inputs :=
  ⟨sampleCommon, disguisedSubnets, .default, .default, .default⟩

end Inputs

namespace Plan

def disguisedDocument : SubnetDocument :=
  ⟨defaultModulesName, defaultLockKind, [
    ⟨"snet\",\"user", some "usernode", none, 24, []⟩,
    ⟨"snet-agic", none, some "agic", 24, []⟩,
    ⟨"firewall", none, none, 26, []⟩]⟩

def disguisedRequests : List SubnetRequest := [
  ⟨"snet\",\"user", "usernode", 24, none⟩,
  ⟨"snet-agic", "agic", 24, some "agic"⟩,
  ⟨"firewall", "firewall", 26, none⟩]

def disguisedSubnets : List Subnet := [
  ⟨"snet\",\"user", "usernode", Block.ofNetwork 0x0A000000 24⟩,
  ⟨"snet-agic", "agic", Block.ofNetwork 0x0A000100 24⟩,
  ⟨"firewall", "firewall", Block.ofNetwork 0x0A000200 26⟩]

/-- The plan is the sample's but for the name. -/
def disguised : Plan :=
  { sample with
    subnetDocument := disguisedDocument
    requests := disguisedRequests
    subnets := disguisedSubnets
    attachments := NetworkPlan.attachments sampleSettings disguisedSubnets [⟨"usernode", []⟩]
      sampleRoutes RoutingDocument.default.firewallAlias
    freeBlocks := NetworkPlan.freeBlocks sampleSettings.network.addressPrefixes
      (disguisedSubnets.map (·.block)) }

theorem disguised_madeFrom : disguised.MadeFrom Inputs.disguised where
  valid := Inputs.validationLines_sampleCommon rfl
  settings := sample_madeFrom.settings
  subnetDocument := by
    unfold Decoder.Reads
    rfl
  security := rfl
  routing := rfl
  firewall := rfl
  requests := rfl
  subnets := by
    -- Sorting does not reduce by itself.
    have horder : bySize disguisedRequests = disguisedRequests := by
      cbv
    show allocate sampleSettings.network.addressPrefixes disguisedRequests = .ok disguisedSubnets
    rw [allocate, horder]
    rfl
  groups := rfl
  routes := rfl
  attachments := rfl
  freeBlocks := rfl

theorem subnetsByAddress_of_ordered {plan : Plan}
    (h : plan.subnets.Pairwise fun a b => a.block.precedes b.block = true) :
    plan.subnetsByAddress = plan.subnets :=
  List.mergeSort_of_pairwise h

theorem disguised_subnetsByAddress : disguised.subnetsByAddress = disguisedSubnets :=
  subnetsByAddress_of_ordered (by decide)

end Plan

/-- The row of a subnet without quotes is read back, also below one that is not. -/
theorem summary_row_read_agic :
    compile Inputs.disguised = .ok Plan.disguised ∧
    Plan.disguised.settings.Unquoted ∧
    exists row, Plan.disguised.summaryRows[2]? = some row ∧
      Summary.Tells row 2 "snet-agic" "agic" := by
  have hcompile := compile_eq_ok_iff.mpr Plan.disguised_madeFrom
  have hsettings : Plan.disguised.settings.Unquoted := by
    constructor <;> decide
  rcases summary_rows_read_unless_quoted hcompile with ⟨_, _, _, _, _, hsubnets, _⟩
  rw [Plan.disguised_subnetsByAddress] at hsubnets
  rcases hsubnets 1 _ rfl with ⟨row, hrow, htells, _⟩
  exact ⟨hcompile, hsettings, row, hrow, htells hsettings (by decide) (by decide)⟩

/-- The row of the name with quotes has ten fields, and none of them is the name. -/
theorem summary_row_of_quoted_name :
    let row := " \"1\",\"subnet\",     \"10.0.0.0/24\",   \"251\",    \"10.0.0.255_br\"," ++
      "               \"snet\",\"user\",    \"usernode\",     \"nsg-dev-shop-usernode\"," ++
      "                      \"\""
    compile Inputs.disguised = .ok Plan.disguised ∧
    Plan.disguised.subnetsByAddress[0]?.map (·.name) = some "snet\",\"user" ∧
    Plan.disguised.summaryRows[1]? = some row ∧
    Csv.fields? row = some ["1", "subnet", "10.0.0.0/24", "251", "10.0.0.255_br", "snet", "user",
      "usernode", "nsg-dev-shop-usernode", ""] ∧
    ¬ Summary.Tells row 1 "snet\",\"user" "usernode" := by
  intro row
  have hread : Csv.fields? row = some ["1", "subnet", "10.0.0.0/24", "251", "10.0.0.255_br",
      "snet", "user", "usernode", "nsg-dev-shop-usernode", ""] := by
    decide +kernel
  refine ⟨compile_eq_ok_iff.mpr Plan.disguised_madeFrom, ?_, ?_, hread, ?_⟩
  · rw [Plan.disguised_subnetsByAddress]
    rfl
  · rw [Plan.getElem?_summaryRows_subnet (i := 0)
      (by rw [Plan.disguised_subnetsByAddress]; rfl)]
    rfl
  · intro h
    rcases h with ⟨read, hsame, hlength, _⟩
    rw [← Option.some.inj (hread.symm.trans hsame)] at hlength
    cases hlength

end NetworkPlan
