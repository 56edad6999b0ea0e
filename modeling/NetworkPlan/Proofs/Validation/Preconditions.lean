import Mathlib.Data.List.Nodup
import NetworkPlan.Proofs.Document.Settings
import NetworkPlan.Proofs.Plan
import NetworkPlan.Proofs.Routing.Failure
import NetworkPlan.Proofs.Security.Failure
import NetworkPlan.Proofs.Subnet.Soundness
import NetworkPlan.Proofs.Validation.Network
import NetworkPlan.Proofs.Validation.Subnets

/-!
# What validation settles for the later stages

Validation looks at the documents as they were read; the later stages look at the typed records,
which are read from the same documents a second time.  Where validation finds nothing, the records
have everything that the later stages rely on.
-/

namespace NetworkPlan

/-- What the stages after validation rely on. -/
structure Preconditions (settings : Settings) (requests : List SubnetRequest) : Prop where
  ranges_ne_nil : settings.network.addressPrefixes ≠ []
  ranges_isNetwork : forall range, range ∈ settings.network.addressPrefixes -> range.IsNetwork
  ranges_apart : settings.network.addressPrefixes.Pairwise Block.Disjoint
  names_nodup : (requests.map (·.name)).Nodup
  aliases_nodup : (requests.map (·.aliasName)).Nodup
  tokens_nodup : (requests.filterMap (·.legacyToken)).Nodup
  prefixLength : forall request, request ∈ requests ->
    8 ≤ request.prefixLength ∧ request.prefixLength ≤ 29
  sharedBastionIp : forall ip, settings.sharedBastionIp? = some ip ->
    Block.isAddressOrNetwork ip = true
  egressNextHopIp : forall ip, settings.egressNextHopIp? = some ip ->
    (Address.parse ip).isOk = true

namespace Validation

open Checked

theorem validationLines_eq_nil_iff {common subnets : Json} :
    validationLines common subnets = [] ↔
      checkCommon common = pure () ∧ checkSubnets subnets = pure () := by
  rw [validationLines, List.map_eq_nil_iff, validate, findings_bind, List.append_eq_nil_iff,
    eq_pure_iff, eq_pure_iff]
  simp

/-!
## The virtual network
-/

/-- The section that is checked is the one that the network is read from. -/
theorem checkNetwork_of_checkCommon {doc : Json} {settings : Settings}
    (h : checkCommon doc = pure ()) (hread : Settings.record.decode.Reads doc settings) :
    exists network, VirtualNetwork.record.decode.Reads (.object network) settings.network ∧
      checkNetwork ⟨"network", some network⟩ = pure settings.network.addressPrefixes := by
  rcases checkCommon_eq_pure h with ⟨members, _, network, _, ranges, rfl, hpassed⟩
  have hnetwork := hpassed.networkPassed
  have hreadNetwork := Settings.field_network.reads_part hread (by simp) hpassed.network_eq
  refine ⟨network, hreadNetwork, ?_⟩
  rcases checkRanges_eq_pure (checkNetwork_eq_pure hnetwork).ranges with
    ⟨items, hitems, _, hranges, _⟩
  have hprefixes :=
    VirtualNetwork.field_addressPrefixes.reads_part hreadNetwork (by simp) hitems
  rcases Decoder.reads_list.mp hprefixes with ⟨items', heq, hprefixes⟩
  rw [← Json.array.inj heq] at hprefixes
  rw [hnetwork, Decoder.reads_items_unique hranges hprefixes]

/-- A text that is given in the record is, but for blanks around it, the one that was checked. -/
theorem trim_of_optional_text {network : List (String × Json)} {n : VirtualNetwork}
    {key ip : String} {part : VirtualNetwork -> String} {accepts : String -> Prop}
    (hfield : VirtualNetwork.record.Field [key] .string part)
    (hinitial : part VirtualNetwork.record.initial = "")
    (hread : VirtualNetwork.record.decode.Reads (.object network) n)
    (hcheck : Entries.get? key network = none ∨
      exists text, Entries.get? key network = some (.string text) ∧ (text = "" ∨ accepts text))
    (hip : Text.nonBlank? (part n) = some ip) :
    exists text, Text.trim text = ip ∧ accepts text := by
  rcases hcheck with habsent | ⟨text, hget, htext⟩
  · rw [hfield.part_of_absent hread (List.forall_mem_singleton.mpr habsent), hinitial,
      Text.nonBlank?_empty] at hip
    cases hip
  · have hpart := hfield.reads_part hread (by simp) hget
    rw [Decoder.reads_string, Json.string.injEq] at hpart
    rw [← hpart] at hip
    rcases htext with hempty | haccepts
    · exact absurd hempty (Text.ne_empty_of_nonBlank? hip)
    · exact ⟨text, (Text.nonBlank?_eq_some_iff.mp hip).left, haccepts⟩

section Texts

variable {path ip : String} {members : List (String × Json)} {settings : Settings}

theorem isAddressOrNetwork_sharedBastionIp
    (hread : VirtualNetwork.record.decode.Reads (.object members) settings.network)
    (hcheck : (⟨path, some members⟩ : Section).optionalAddressOrBlock "sharedBastionIp" = pure ())
    (hip : settings.sharedBastionIp? = some ip) : Block.isAddressOrNetwork ip = true := by
  rcases trim_of_optional_text VirtualNetwork.field_sharedBastionIp rfl hread
    (Section.optionalAddressOrBlock_eq_pure.mp hcheck) hip with ⟨text, rfl, haccepts⟩
  rw [Block.isAddressOrNetwork_trim]
  exact haccepts

theorem isOk_parse_egressNextHopIp
    (hread : VirtualNetwork.record.decode.Reads (.object members) settings.network)
    (hcheck : (⟨path, some members⟩ : Section).optionalAddress "egressNextHopIp" = pure ())
    (hip : settings.egressNextHopIp? = some ip) : (Address.parse ip).isOk = true := by
  rcases trim_of_optional_text VirtualNetwork.field_egressNextHopIp rfl hread
    (Section.optionalAddressValue_eq_pure.mp hcheck) hip with ⟨text, rfl, haccepts⟩
  rw [Address.isOk_parse_trim]
  exact haccepts

end Texts

/-!
## The requests
-/

theorem Fresh.nodup_filterMap {α : Type} {seen : Entries Nat} {items : List α}
    {part : α -> Option String}
    (h : Fresh seen (items.map fun item => (part item).map Text.trim)) :
    (items.filterMap part).Nodup := by
  have hvalues : (items.map fun item => (part item).map Text.trim).reduceOption =
      (items.filterMap part).map Text.trim := by
    rw [List.reduceOption, List.filterMap_map, List.map_filterMap]
    rfl
  have hnodup := h.nodup
  rw [hvalues] at hnodup
  exact List.Nodup.of_map Text.trim hnodup

theorem requests_sublist (document : SubnetDocument) (settings : Settings) :
    (document.requests settings).Sublist (document.descriptions.map SubnetDescription.request) :=
  List.filter_sublist

/-- Identifiers that are noted by the check differ between requests. -/
theorem Fresh.nodup_requests {seen : Entries Nat} {document : SubnetDocument}
    {part : SubnetRequest -> Option String}
    (h : Fresh seen (document.descriptions.map fun d => (part d.request).map Text.trim))
    (settings : Settings) : ((document.requests settings).filterMap part).Nodup := by
  have hall : ((document.descriptions.map SubnetDescription.request).filterMap part).Nodup := by
    rw [List.filterMap_map]
    exact Fresh.nodup_filterMap h
  exact hall.sublist ((requests_sublist document settings).filterMap part)

theorem allPassed_of_checkSubnets {doc : Json} {document : SubnetDocument}
    (h : checkSubnets doc = pure ()) (hread : SubnetDocument.record.decode.Reads doc document) :
    AllPassed ⟨[], [], []⟩ document.descriptions := by
  rcases checkSubnets_eq_pure h with ⟨members, items, rfl, hget, hitems⟩
  have hdescriptions :=
    SubnetDocument.field_descriptions.reads_part hread (by simp) hget
  rcases Decoder.reads_list.mp hdescriptions with ⟨items', heq, hdescriptions⟩
  rw [← Json.array.inj heq] at hdescriptions
  exact checkDefinitions_eq_pure hdescriptions hitems

/-!
## All preconditions
-/

theorem preconditions_of_valid {common subnets : Json} {settings : Settings}
    {document : SubnetDocument} (hvalid : validationLines common subnets = [])
    (hsettings : Settings.record.decode.Reads common settings)
    (hdocument : SubnetDocument.record.decode.Reads subnets document) :
    Preconditions settings (document.requests settings) := by
  rcases validationLines_eq_nil_iff.mp hvalid with ⟨hcommon, hsubnets⟩
  rcases checkNetwork_of_checkCommon hcommon hsettings with ⟨network, hnetwork, hcheck⟩
  have hpassedNetwork := checkNetwork_eq_pure hcheck
  rcases ranges_of_checkRanges hpassedNetwork.ranges with ⟨hne, hstarts, hapart⟩
  have hpassed := allPassed_of_checkSubnets hsubnets hdocument
  constructor
  case ranges_ne_nil =>
    exact hne
  case ranges_isNetwork =>
    exact hstarts
  case ranges_apart =>
    exact hapart
  case names_nodup =>
    rw [← List.filterMap_eq_map]
    exact Fresh.nodup_requests hpassed.names settings
  case aliases_nodup =>
    rw [← List.filterMap_eq_map]
    exact Fresh.nodup_requests hpassed.aliases settings
  case tokens_nodup =>
    exact Fresh.nodup_requests hpassed.tokens settings
  case prefixLength =>
    intro request hrequest
    rcases List.mem_map.mp ((requests_sublist document settings).subset hrequest) with
      ⟨d, hd, rfl⟩
    exact hpassed.prefixLength d hd
  case sharedBastionIp =>
    intro ip hip
    exact isAddressOrNetwork_sharedBastionIp hnetwork hpassedNetwork.sharedBastionIp hip
  case egressNextHopIp =>
    intro ip hip
    exact isOk_parse_egressNextHopIp hnetwork hpassedNetwork.egressNextHopIp hip

/-!
## Errors that cannot arise
-/

theorem prefixLength_of_noSpace {inputs : Inputs} {request : SubnetRequest}
    (h : compile inputs = .error (.noSpace request)) :
    8 ≤ request.prefixLength ∧ request.prefixLength ≤ 29 := by
  cases failsWith_of_compile h with
  | allocation hvalid hsettings hdocument hfailure =>
      have hmem := Cursor.mem_of_placeAll_eq_error hfailure
      exact (preconditions_of_valid hvalid hsettings hdocument).prefixLength request
        ((bySize_perm _).mem_iff.mp hmem)
  | groups _ _ _ _ hfailure =>
      exact (Directory.securityGroups_eq_error hfailure).elim

theorem compile_ne_badNextHop {inputs : Inputs} {text : String} :
    compile inputs ≠ .error (.resolution (.badNextHop text)) := by
  intro h
  cases failsWith_of_compile h with
  | groups _ _ _ _ hfailure =>
      exact (Directory.securityGroups_eq_error hfailure).elim
  | routes hvalid hsettings hdocument _ hfailure =>
      rcases Directory.routePlan_eq_badNextHop hfailure with ⟨hgiven, hunread⟩
      rcases Option.bind_eq_some_iff.mp hgiven with ⟨ip, hip, htext⟩
      have hread := (preconditions_of_valid hvalid hsettings hdocument).egressNextHopIp ip hip
      rw [← (Text.nonBlank?_eq_some_iff.mp htext).left, Address.isOk_parse_trim, hread] at hunread
      cases hunread

end Validation

/-- Documents that pass validation meet the preconditions of the later stages, as far as they can
be read as records.  So no request is too long for the allocator, the next hop is an address, and
the subnets of a plan keep apart inside the address ranges. -/
theorem valid_documents_meet_preconditions {inputs : Inputs}
    (hvalid : validationLines inputs.common inputs.subnets = []) :
    (forall settings document,
      readValue Settings.record.decode "common parameters" inputs.common = .ok settings ->
      readValue SubnetDocument.record.decode "subnets config" inputs.subnets = .ok document ->
      Preconditions settings (document.requests settings)) ∧
    (forall request, compile inputs = .error (.noSpace request) ->
      8 ≤ request.prefixLength ∧ request.prefixLength ≤ 29) ∧
    (forall text, compile inputs ≠ .error (.resolution (.badNextHop text))) ∧
    (forall plan, compile inputs = .ok plan ->
      (plan.subnets.Pairwise fun a b => a.block.Disjoint b.block) ∧
      (forall subnet, subnet ∈ plan.subnets ->
        exists range, range ∈ plan.settings.network.addressPrefixes ∧
          subnet.block ⊆ range)) := by
  refine ⟨?_, ?_, ?_, ?_⟩
  · intro settings document hsettings hdocument
    rw [readValue_eq_ok] at hsettings hdocument
    exact Validation.preconditions_of_valid hvalid hsettings hdocument
  · intro request h
    exact Validation.prefixLength_of_noSpace h
  · intro text
    exact Validation.compile_ne_badNextHop
  · intro plan h
    have hmade := compile_eq_ok_iff.mp h
    have hpre := Validation.preconditions_of_valid hmade.valid hmade.settings hmade.subnetDocument
    rcases Cursor.placeAll_inside hpre.ranges_apart hmade.subnets with ⟨hinside, hapart⟩
    exact And.intro hapart hinside

/-- The sample documents are valid, can be read, and make a plan. -/
theorem valid_documents_meet_preconditions_sample :
    validationLines Inputs.sample.common Inputs.sample.subnets = [] ∧
    readValue Settings.record.decode "common parameters" Inputs.sample.common =
      .ok Plan.sampleSettings ∧
    readValue SubnetDocument.record.decode "subnets config" Inputs.sample.subnets =
      .ok Plan.sampleDocument ∧
    compile Inputs.sample = .ok Plan.sample ∧
    Preconditions Plan.sampleSettings (Plan.sampleDocument.requests Plan.sampleSettings) ∧
    (Plan.sampleSubnets.Pairwise fun a b => a.block.Disjoint b.block) := by
  have hmade := Plan.sample_madeFrom
  have hsettings : readValue Settings.record.decode "common parameters" Inputs.sample.common =
      .ok Plan.sampleSettings := readValue_eq_ok.mpr hmade.settings
  have hdocument : readValue SubnetDocument.record.decode "subnets config" Inputs.sample.subnets =
      .ok Plan.sampleDocument := readValue_eq_ok.mpr hmade.subnetDocument
  have hplan : compile Inputs.sample = .ok Plan.sample := compile_eq_ok_iff.mpr hmade
  rcases valid_documents_meet_preconditions hmade.valid with ⟨hpreconditions, _, _, hsubnets⟩
  exact ⟨hmade.valid, hsettings, hdocument, hplan,
    hpreconditions Plan.sampleSettings Plan.sampleDocument hsettings hdocument,
    (hsubnets Plan.sample hplan).left⟩

end NetworkPlan
