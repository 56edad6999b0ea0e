import NetworkPlan.Proofs.Decoder.Acceptance
import NetworkPlan.Proofs.Validation.Preconditions

/-!
# Which valid documents can be read

Validation and the typed reader describe the same documents twice.  Validation does not look at
toggles of unknown families, nor at the modules and the lock of the subnet document, and takes a
token that is given under both of its names; the reader refuses all of these where they are not as
it wants them.  Apart from that every valid document can be read.
-/

namespace NetworkPlan

namespace Json

/-- Every toggle is a boolean, also those of families that need none. -/
def TogglesBoolean (common : Json) : Prop :=
  forall toggles, common.get? "resourceToggles" = some (.object toggles) ->
    forall entry, entry ∈ toggles -> exists b, entry.snd = .bool b

/-- The members of a subnet document that validation leaves to the reader are as it wants them. -/
structure SubnetsReadable (subnets : Json) : Prop where
  modulesName : forall value, subnets.get? "modulesName" = some value ->
    exists text, value = .string text
  lockKind : forall value, subnets.get? "lockKind" = some value -> exists text, value = .string text
  oneToken : forall items item, subnets.get? "subnetDefinitions" = some (.array items) ->
    item ∈ items -> item.get? "nsg-rule" = none ∨ item.get? "legacyToken" = none

/-!
## Distinct names
-/

theorem wellFormed_of_mem_items {items : List Json} (h : WellFormedItems items) {item : Json}
    (hitem : item ∈ items) : item.WellFormed := by
  induction items with
  | nil =>
      cases hitem
  | cons first rest ih =>
      rcases List.mem_cons.mp hitem with rfl | hlater
      · exact h.left
      · exact ih h.right hlater

theorem wellFormed_of_get? {key : String} {members : List (String × Json)}
    (h : WellFormedMembers members) {value : Json} (hget : Entries.get? key members = some value) :
    value.WellFormed := by
  induction members with
  | nil =>
      cases hget
  | cons entry rest ih =>
      rcases entry with ⟨name, first⟩
      rw [Entries.get?] at hget
      split at hget
      next =>
        cases hget
        exact h.left
      next =>
        exact ih h.right hget

end Json

namespace Validation

open RecordMember

/-!
## The common document
-/

/-- A member that is known to be of some form is so wherever it is found. -/
theorem forall_get?_of_eq_some {members : List (String × Json)} {key : String} {found : Json}
    {form : Json -> Prop} (hget : Entries.get? key members = some found) (hform : form found)
    (value : Json) (hvalue : Entries.get? key members = some value) : form value := by
  rw [← Option.some.inj (hget.symm.trans hvalue)]
  exact hform

theorem text_of_optional {value? : Option Json} {accepts : String -> Prop}
    (h : value? = none ∨ exists text, value? = some (.string text) ∧ accepts text) (value : Json)
    (hvalue : value? = some value) : exists text, value = .string text := by
  rcases h with hnone | ⟨text, htext, _⟩
  · cases hnone.symm.trans hvalue
  · exact ⟨text, Option.some.inj (hvalue.symm.trans htext)⟩

theorem exists_reads_deployment {path : String} {members : List (String × Json)}
    (hnames : (Entries.keys members).Nodup) (h : IdentityPassed ⟨path, some members⟩) :
    exists deployment, Deployment.record.decode.Reads (.object members) deployment := by
  have htext : forall key, key ∈ ["location", "environmentName", "systemName"] ->
      exists value, Entries.get? key members = some value ∧ exists text, value = .string text := by
    intro key hkey
    rcases h.texts key hkey with ⟨text, hget⟩
    exact ⟨.string text, hget, text, rfl⟩
  rcases h.resourceLock with ⟨b, hlock⟩
  rw [Record.exists_reads_object_iff Deployment.record_unambiguous (fun h => nomatch h) hnames]
  simp only [Deployment.record, List.forall_mem_cons, givenIn_required hnames,
    givenIn_defaulted hnames, Decoder.reads_string, Decoder.reads_bool]
  refine ⟨htext _ (by simp), htext _ (by simp), htext _ (by simp), ?_, fun _ h => nomatch h⟩
  exact forall_get?_of_eq_some hlock ⟨b, rfl⟩

theorem exists_reads_network {path : String} {members : List (String × Json)}
    {ranges : List Block} (hnames : (Entries.keys members).Nodup)
    (h : NetworkPassed ⟨path, some members⟩ ranges) :
    exists network, VirtualNetwork.record.decode.Reads (.object members) network := by
  rcases checkRanges_eq_pure h.ranges with ⟨blocks, hblocks, _, hranges, _⟩
  rcases h.nameServers with ⟨servers, hservers, htexts⟩
  rcases h.firewallIdps with ⟨idps, hidps⟩
  rcases h.protection with ⟨protection, hprotection⟩
  rcases h.protectionPlan with ⟨plan, hplan⟩
  have hserversRead : exists texts, (Decoder.list .string).Reads (.array servers) texts := by
    rw [Decoder.exists_reads_list_iff]
    intro item hitem
    rcases htexts item hitem with ⟨text, htext⟩
    exact ⟨text, Decoder.reads_string.mpr htext⟩
  have hbastion := text_of_optional (Section.optionalAddressOrBlock_eq_pure.mp h.sharedBastionIp)
  have hegress := text_of_optional (Section.optionalAddressValue_eq_pure.mp h.egressNextHopIp)
  rw [Record.exists_reads_object_iff VirtualNetwork.record_unambiguous (fun h => nomatch h) hnames]
  simp only [VirtualNetwork.record, List.forall_mem_cons, givenIn_required hnames,
    givenIn_defaulted hnames, Decoder.reads_string, Decoder.reads_bool]
  refine ⟨?_, ?_, hbastion, hegress, ?_, ?_, ?_, fun _ h => nomatch h⟩
  · exact ⟨.array blocks, hblocks, ranges, Decoder.reads_list.mpr ⟨blocks, rfl, hranges⟩⟩
  · exact forall_get?_of_eq_some hservers hserversRead
  · exact forall_get?_of_eq_some hidps ⟨idps, rfl⟩
  · exact forall_get?_of_eq_some hprotection ⟨protection, rfl⟩
  · exact forall_get?_of_eq_some hplan ⟨plan, rfl⟩

/-- The sections of a valid document other than the toggles can be read. -/
theorem exists_reads_sections {members identity network toggles : List (String × Json)}
    {ranges : List Block} (hnames : (Json.object members).WellFormed)
    (hpassed : CommonPassed members identity network toggles ranges) :
    (exists deployment, Deployment.record.decode.Reads (.object identity) deployment) ∧
      exists part, VirtualNetwork.record.decode.Reads (.object network) part := by
  have hidentityNames := Json.wellFormed_of_get? hnames.right hpassed.identity_eq
  have hnetworkNames := Json.wellFormed_of_get? hnames.right hpassed.network_eq
  exact ⟨exists_reads_deployment hidentityNames.left hpassed.identityPassed,
    exists_reads_network hnetworkNames.left (checkNetwork_eq_pure hpassed.networkPassed)⟩

theorem exists_reads_settings_iff {common : Json} (hnames : common.WellFormed)
    (h : checkCommon common = pure ()) :
    (exists settings, Settings.record.decode.Reads common settings) ↔ common.TogglesBoolean := by
  rcases checkCommon_eq_pure h with ⟨members, identity, network, toggles, ranges, rfl, hpassed⟩
  rcases exists_reads_sections hnames hpassed with ⟨hidentity, hnetwork⟩
  rw [Record.exists_reads_object_iff Settings.record_unambiguous (fun h => nomatch h) hnames.left]
  simp only [Settings.record, List.forall_mem_cons, givenIn_required hnames.left,
    givenIn_defaulted hnames.left, hpassed.identity_eq, hpassed.network_eq, hpassed.toggles_eq,
    Option.some.injEq, exists_eq_left', hidentity, hnetwork, true_and, List.not_mem_nil,
    false_imp_iff, implies_true, and_true, forall_eq', Decoder.exists_reads_entries_iff,
    Decoder.reads_bool]
  unfold Json.TogglesBoolean Json.get?
  simp only [hpassed.toggles_eq, Option.some.injEq, Json.object.injEq, forall_eq']

/-!
## The subnet document
-/

theorem exists_reads_description_iff {members : List (String × Json)}
    (hnames : (Entries.keys members).Nodup) (h : DefinitionShaped members) :
    (exists d, SubnetDescription.record.decode.Reads (.object members) d) ↔
      Entries.get? "nsg-rule" members = none ∨ Entries.get? "legacyToken" members = none := by
  rcases h.name with ⟨name, hname⟩
  rcases h.prefixLength with ⟨n, hn, hlength⟩
  have hidentifier : forall key, key ∈ ["alias", "nsg-rule", "legacyToken"] -> forall value,
      Entries.get? key members = some value -> exists a?, (Decoder.option .string).Reads value a? := by
    intro key hkey value hget
    rcases h.identifiers key hkey value hget with ⟨text, rfl⟩
    exact ⟨some text, rfl⟩
  have hbyte : exists length, Decoder.byte.Reads (Json.ofNat n) length :=
    ⟨n, Decoder.reads_natural.mpr ⟨hn, rfl⟩⟩
  have hne : "nsg-rule" ≠ "legacyToken" := by
    decide
  rw [Record.exists_reads_object_iff SubnetDescription.record_unambiguous (fun h => nomatch h)
    hnames]
  simp only [SubnetDescription.record, List.forall_mem_cons, givenIn_required hnames,
    givenIn_nullable hnames, givenIn_nullable_alias hnames hne, Decoder.reads_string, hname, hlength,
    Option.some.injEq, exists_eq_left', hbyte]
  constructor
  · intro h
    exact h.right.right.left.left
  · intro h
    have hrule := hidentifier "nsg-rule" (by simp)
    have hlegacy := hidentifier "legacyToken" (by simp)
    exact ⟨⟨name, rfl⟩, hidentifier "alias" (by simp), ⟨h, hrule, hlegacy, fun _ h => nomatch h⟩,
      trivial, fun _ h => nomatch h⟩

theorem exists_reads_subnets_iff {subnets : Json} (hnames : subnets.WellFormed)
    (h : checkSubnets subnets = pure ()) :
    (exists document, SubnetDocument.record.decode.Reads subnets document) ↔
      subnets.SubnetsReadable := by
  rcases checkSubnets_eq_pure h with ⟨members, items, rfl, hitems, hpassed⟩
  have hitemNames := Json.wellFormed_of_get? hnames.right hitems
  have htext : forall value, (exists a, (Decoder.string).Reads value a) ↔
      exists text, value = .string text := by
    intro value
    simp only [Decoder.reads_string]
  have hdefinitions : (exists ds, (Decoder.list SubnetDescription.record.decode).Reads
      (.array items) ds) ↔ forall item, item ∈ items ->
        item.get? "nsg-rule" = none ∨ item.get? "legacyToken" = none := by
    rw [Decoder.exists_reads_list_iff]
    refine forall_congr' fun item => imp_congr_right fun hitem => ?_
    rcases shaped_of_checkDefinitions hpassed hitem with ⟨definition, rfl, hshaped⟩
    exact exists_reads_description_iff (Json.wellFormed_of_mem_items hitemNames hitem).left hshaped
  rw [Record.exists_reads_object_iff SubnetDocument.record_unambiguous (fun h => nomatch h)
    hnames.left]
  simp only [SubnetDocument.record, List.forall_mem_cons, givenIn_required hnames.left,
    givenIn_defaulted hnames.left, htext, hitems, Option.some.injEq, exists_eq_left', hdefinitions]
  constructor
  · intro h
    refine ⟨h.left, h.right.left, ?_⟩
    intro items' item hitems' hitem
    cases hitems.symm.trans hitems'
    exact h.right.right.left item hitem
  · intro h
    exact ⟨h.modulesName, h.lockKind, fun item => h.oneToken items item hitems,
      fun _ h => nomatch h⟩

/-!
## Failures
-/

theorem badShape_of_compile {inputs : Inputs} {what : String} {f : Failure}
    (h : compile inputs = .error (.document (.badShape what f))) :
    (forall settings, ¬ Settings.record.decode.Reads inputs.common settings) ∨
      forall document, ¬ SubnetDocument.record.decode.Reads inputs.subnets document := by
  cases failsWith_of_compile h with
  | settings hfailure =>
      apply Or.inl
      intro settings hsettings
      cases hfailure.symm.trans hsettings
  | subnetDocument hfailure =>
      apply Or.inr
      intro document hdocument
      cases hfailure.symm.trans hdocument
  | groups _ _ _ _ hfailure =>
      exact (Directory.securityGroups_eq_error hfailure).elim

theorem readValue_eq_error {α : Type} {decoder : Decoder α} {what : String} {value : Json}
    (h : forall a, ¬ decoder.Reads value a) :
    exists f, readValue decoder what value = .error (.document (.badShape what f)) := by
  cases hread : decoder .value (Draft.ofJson value) with
  | error f =>
      refine ⟨f, ?_⟩
      rw [readValue, hread]
      rfl
  | ok a =>
      exact absurd hread (h a)

theorem exists_badShape {inputs : Inputs}
    (hvalid : validationLines inputs.common inputs.subnets = [])
    (h : (forall settings, ¬ Settings.record.decode.Reads inputs.common settings) ∨
      forall document, ¬ SubnetDocument.record.decode.Reads inputs.subnets document) :
    exists what f, compile inputs = .error (.document (.badShape what f)) := by
  have hensure : ensureValid inputs.common inputs.subnets = .ok () := ensureValid_eq_ok.mpr hvalid
  unfold compile
  rw [hensure]
  cases hsettings : readValue Settings.record.decode "common parameters" inputs.common with
  | error e =>
      rcases mapError_eq_error.mp hsettings with ⟨f, _, rfl⟩
      exact ⟨"common parameters", f, rfl⟩
  | ok settings =>
      have hdocument := h.resolve_left fun hno => hno settings (readValue_eq_ok.mp hsettings)
      rcases readValue_eq_error hdocument with ⟨f, hf⟩
      refine ⟨"subnets config", f, ?_⟩
      show (readValue _ _ inputs.subnets >>= _) = _
      rw [hf]
      rfl

end Validation

/-- Valid documents whose names are distinct can be read but for three things that validation does
not look at: toggles that are no booleans, the modules and the lock of the subnet document, and a
token under both of its names.  These, and nothing else, make the plan of valid documents fail for
the shape of a document. -/
theorem valid_documents_read_iff {inputs : Inputs} (hcommon : inputs.common.WellFormed)
    (hsubnets : inputs.subnets.WellFormed)
    (hvalid : validationLines inputs.common inputs.subnets = []) :
    ((exists settings,
        readValue Settings.record.decode "common parameters" inputs.common = .ok settings) ↔
      inputs.common.TogglesBoolean) ∧
    ((exists document,
        readValue SubnetDocument.record.decode "subnets config" inputs.subnets = .ok document) ↔
      inputs.subnets.SubnetsReadable) ∧
    ((exists what f, compile inputs = .error (.document (.badShape what f))) ↔
      ¬ (inputs.common.TogglesBoolean ∧ inputs.subnets.SubnetsReadable)) := by
  rcases Validation.validationLines_eq_nil_iff.mp hvalid with ⟨hcheckCommon, hcheckSubnets⟩
  have hsettings := Validation.exists_reads_settings_iff hcommon hcheckCommon
  have hdocument := Validation.exists_reads_subnets_iff hsubnets hcheckSubnets
  simp only [readValue_eq_ok]
  refine ⟨hsettings, hdocument, ?_⟩
  rw [← hsettings, ← hdocument, not_and_or, not_exists, not_exists]
  constructor
  · intro h
    rcases h with ⟨what, f, hfailed⟩
    exact Validation.badShape_of_compile hfailed
  · intro h
    exact Validation.exists_badShape hvalid h

theorem Inputs.wellFormed_sampleCommon : Inputs.sampleCommon.WellFormed := by
  decide

/-- The sample documents are valid, and so nothing in their shape can make the plan fail. -/
theorem valid_documents_read_sample :
    Inputs.sample.common.WellFormed ∧ Inputs.sample.subnets.WellFormed ∧
    validationLines Inputs.sample.common Inputs.sample.subnets = [] ∧
    Inputs.sample.common.TogglesBoolean ∧ Inputs.sample.subnets.SubnetsReadable ∧
    forall what f, compile Inputs.sample ≠ .error (.document (.badShape what f)) := by
  have hcommon : Inputs.sample.common.WellFormed := Inputs.wellFormed_sampleCommon
  have hsubnets : Inputs.sample.subnets.WellFormed := by
    decide
  have hmade := Plan.sample_madeFrom
  rcases valid_documents_read_iff hcommon hsubnets hmade.valid with ⟨hsettings, hdocument, hfails⟩
  have htoggles := hsettings.mp ⟨_, readValue_eq_ok.mpr hmade.settings⟩
  have hreadable := hdocument.mp ⟨_, readValue_eq_ok.mpr hmade.subnetDocument⟩
  refine ⟨hcommon, hsubnets, hmade.valid, htoggles, hreadable, ?_⟩
  intro what f h
  exact hfails.mp ⟨what, f, h⟩ ⟨htoggles, hreadable⟩

namespace Inputs

/-- The second definition gives its token under both names. -/
def tokenTwice : Inputs :=
  { sample with
    subnets := .object [("subnetDefinitions", .array [
      .object [("name", .string "snet-user"), ("alias", .string "usernode"),
        ("prefixLength", .ofNat 24)],
      .object [("name", .string "snet-agic"), ("nsg-rule", .string "agic"),
        ("legacyToken", .string "agic"), ("prefixLength", .ofNat 24)],
      .object [("name", .string "firewall"), ("prefixLength", .ofNat 26)]])] }

end Inputs

/-- A document that is valid and has distinct names is refused by the reader, since a token stands
under both of its names. -/
theorem valid_document_refused :
    Inputs.tokenTwice.common.WellFormed ∧ Inputs.tokenTwice.subnets.WellFormed ∧
    validationLines Inputs.tokenTwice.common Inputs.tokenTwice.subnets = [] ∧
    compile Inputs.tokenTwice = .error (.document (.badShape "subnets config"
      ⟨[.member "subnetDefinitions", .item 1], .duplicate "nsg-rule"⟩)) := by
  have hvalid : validationLines Inputs.tokenTwice.common Inputs.tokenTwice.subnets = [] :=
    Inputs.validationLines_sampleCommon rfl
  have hensure : ensureValid Inputs.tokenTwice.common Inputs.tokenTwice.subnets = .ok () :=
    ensureValid_eq_ok.mpr hvalid
  refine ⟨Inputs.wellFormed_sampleCommon, by decide, hvalid, ?_⟩
  rw [compile, hensure]
  rfl

end NetworkPlan
