import NetworkPlan.Proofs.Decoder.Refusal
import NetworkPlan.Proofs.Validation.TypedReading

/-!
# The sections a plan is made from

Validation looks at the whole common document; the plan is made from three of its sections.  Once
two documents are valid, the other sections, unknown members and the order of the members make no
difference: neither to the plan nor to the error if there is none.
-/

namespace NetworkPlan
namespace Validation

variable {members others : List (String × Json)}

/-- In a valid document only the toggles can be refused, and the failure says where among them. -/
theorem settings_eq_error (hnames : (Json.object members).WellFormed)
    (h : checkCommon (.object members) = pure ()) {toggles : Json}
    (hget : Entries.get? "resourceToggles" members = some toggles) {f : Failure}
    (hfailure : Decoder.entries .bool .value (Draft.ofJson toggles) = .error f) :
    Settings.record.decode .value (Draft.ofJson (.object members)) =
      .error (f.under ((Draft.ofJson toggles).wayTo "resourceToggles")) := by
  rcases checkCommon_eq_pure h with ⟨_, identity, network, _, _, heq, hpassed⟩
  rw [← Json.object.inj heq] at hpassed
  rcases exists_reads_sections hnames hpassed with ⟨hidentity, hnetwork⟩
  refine Record.decode_eq_error Settings.record_unambiguous (by simp [Settings.record]) hnames.left
    (List.mem_cons_of_mem _ (List.mem_cons_of_mem _ List.mem_cons_self)) rfl hget
    (map_eq_error.mpr hfailure) ?_
  simp only [Settings.record, List.forall_mem_cons]
  refine ⟨fun _ => ?_, fun _ => ?_, fun h => absurd rfl h, List.forall_mem_nil _⟩
  · exact (RecordMember.givenIn_required hnames.left).mpr ⟨_, hpassed.identity_eq, hidentity⟩
  · exact (RecordMember.givenIn_required hnames.left).mpr ⟨_, hpassed.network_eq, hnetwork⟩

/-- Valid documents with the same sections are read alike, or refused alike. -/
theorem settings_decode_eq (hnames : (Json.object members).WellFormed)
    (hnames' : (Json.object others).WellFormed) (h : checkCommon (.object members) = pure ())
    (h' : checkCommon (.object others) = pure ())
    (hsame : forall key, key ∈ Settings.sections ->
      Entries.get? key members = Entries.get? key others) :
    Settings.record.decode .value (Draft.ofJson (.object members)) =
      Settings.record.decode .value (Draft.ofJson (.object others)) := by
  rcases checkCommon_eq_pure h with ⟨_, _, _, toggles, _, heq, hpassed⟩
  have hget := hpassed.toggles_eq
  rw [← Json.object.inj heq] at hget
  have hget' : Entries.get? "resourceToggles" others = some (.object toggles) := by
    rw [← hsame "resourceToggles" (by simp [Settings.sections])]
    exact hget
  cases hread : Decoder.entries .bool .value (Draft.ofJson (.object toggles)) with
  | error f =>
      rw [settings_eq_error hnames h hget hread, settings_eq_error hnames' h' hget' hread]
  | ok read =>
      have hboolean := Decoder.exists_reads_entries_iff.mp ⟨read, hread⟩
      have hreads : forall {ms : List (String × Json)}, (Json.object ms).WellFormed ->
          checkCommon (.object ms) = pure () ->
          Entries.get? "resourceToggles" ms = some (.object toggles) ->
          exists settings, Settings.record.decode.Reads (.object ms) settings := by
        intro ms hms hcheck htoggles
        apply (exists_reads_settings_iff hms hcheck).mpr
        intro toggles' hsome entry hentry
        cases htoggles.symm.trans hsome
        rcases hboolean entry hentry with ⟨b, hb⟩
        exact ⟨b, Decoder.reads_bool.mp hb⟩
      rcases hreads hnames h hget with ⟨settings, hsettings⟩
      rcases hreads hnames' h' hget' with ⟨other, hother⟩
      rw [Settings.eq_of_reads hsettings hother hsame] at hsettings
      exact hsettings.trans hother.symm

end Validation

/-- Valid inputs whose common documents agree on the three sections that the plan is made from, and
whose other documents are the same, have the same plan or the same error. -/
theorem compile_eq_of_same_sections {a b : Inputs} {members others : List (String × Json)}
    (ha : a.common = .object members) (hb : b.common = .object others)
    (hnames : a.common.WellFormed) (hnames' : b.common.WellFormed)
    (hsubnets : a.subnets = b.subnets) (hsecurity : a.security = b.security)
    (hrouting : a.routing = b.routing) (hfirewall : a.firewall = b.firewall)
    (hsame : forall key, key ∈ Settings.sections ->
      Entries.get? key members = Entries.get? key others)
    (hvalid : validationLines a.common a.subnets = [])
    (hvalid' : validationLines b.common b.subnets = []) : compile a = compile b := by
  have hensure : ensureValid a.common a.subnets = .ok () := ensureValid_eq_ok.mpr hvalid
  have hensure' : ensureValid b.common b.subnets = .ok () := ensureValid_eq_ok.mpr hvalid'
  have hcommon := (Validation.validationLines_eq_nil_iff.mp hvalid).left
  have hcommon' := (Validation.validationLines_eq_nil_iff.mp hvalid').left
  rw [ha] at hnames hcommon
  rw [hb] at hnames' hcommon'
  have hread : readValue Settings.record.decode "common parameters" a.common =
      readValue Settings.record.decode "common parameters" b.common := by
    rw [ha, hb, readValue, readValue,
      Validation.settings_decode_eq hnames hnames' hcommon hcommon' hsame]
  unfold compile
  rw [hensure, hensure', hread, hsubnets, hsecurity, hrouting, hfirewall]

namespace Inputs

/-- A larger database than in the sample. -/
def largerDatabase : Json :=
  .object [("skuName", .string "E4"), ("skuTier", .string "MemoryOptimized"),
    ("storageSizeGB", .ofNat 512), ("enableStorageAutoGrow", .bool true),
    ("enableZoneRedundantHa", .bool true), ("enableGeoRedundantBackup", .bool true),
    ("backupRetentionDays", .ofNat 35), ("enableCustomMaintenanceWindow", .bool false)]

/-- The members of the sample in reverse, after one that nothing asks for, with another database. -/
def rearrangedMembers : List (String × Json) :=
  match sampleCommon with
  | .object members => ("notes", .null) :: Entries.put "postgres" largerDatabase members.reverse
  | _ => []

def rearranged : Inputs :=
  { sample with common := .object rearrangedMembers }

end Inputs

/-- The plan for the sample is also the plan for the rearranged documents. -/
theorem compile_rearranged :
    Inputs.rearranged.common.WellFormed ∧ Inputs.sample.common.WellFormed ∧
    (forall key, key ∈ Settings.sections ->
      Inputs.rearranged.common.get? key = Inputs.sample.common.get? key) ∧
    validationLines Inputs.rearranged.common Inputs.rearranged.subnets = [] ∧
    validationLines Inputs.sample.common Inputs.sample.subnets = [] ∧
    compile Inputs.rearranged = .ok Plan.sample := by
  have hnames : Inputs.rearranged.common.WellFormed := by
    decide
  have hnames' : Inputs.sample.common.WellFormed := Inputs.wellFormed_sampleCommon
  have hsame : forall key, key ∈ Settings.sections ->
      Inputs.rearranged.common.get? key = Inputs.sample.common.get? key := by
    simp only [Settings.sections, List.forall_mem_cons]
    exact ⟨rfl, rfl, rfl, List.forall_mem_nil _⟩
  have hvalid : validationLines Inputs.rearranged.common Inputs.rearranged.subnets = [] := by
    rfl
  have hmade := Plan.sample_madeFrom
  refine ⟨hnames, hnames', hsame, hvalid, hmade.valid, ?_⟩
  rw [compile_eq_of_same_sections rfl rfl hnames hnames' rfl rfl rfl rfl hsame hvalid hmade.valid]
  exact compile_eq_ok_iff.mpr hmade

end NetworkPlan
