import NetworkPlan.Validation.Documents

/-!
# Where findings are placed

A check of a section reports nothing outside that section: the path of every finding starts with
the path of the section.
-/

namespace NetworkPlan

namespace Checked

variable {α β : Type} {start path problem : String}

/-- Every finding is at a place whose path starts with a text. -/
def Within (start : String) (x : Checked α) : Prop :=
  forall f, f ∈ x.findings -> start.toList <+: f.path.toList

@[simp] theorem within_pure (a : α) : (pure a : Checked α).Within start := by
  intro f hf
  cases hf

@[simp] theorem within_bind_iff {x : Checked α} {f : α -> Checked β} :
    (x >>= f).Within start ↔ x.Within start ∧ (f x.value).Within start := by
  simp only [Within, findings_bind, List.forall_mem_append]

@[simp] theorem within_report_iff :
    (report path problem).Within start ↔ start.toList <+: path.toList := by
  simp [Within]

@[simp] theorem within_missing_iff :
    (missing path problem : Checked (Option α)).Within start ↔
      start.toList <+: path.toList := by
  simp [Within, missing]

@[simp] theorem within_ite {c : Prop} [Decidable c] {x y : Checked α} :
    (if c then x else y).Within start ↔ (c -> x.Within start) ∧ (¬ c -> y.Within start) := by
  by_cases h : c <;> simp [h]

theorem Within.each {check : α -> Checked Unit} {items : List α}
    (h : forall item, item ∈ items -> (check item).Within start) :
    (each check items).Within start := by
  induction items with
  | nil =>
      exact within_pure ()
  | cons item rest ih =>
      rcases List.forall_mem_cons.mp h with ⟨hitem, hrest⟩
      exact within_bind_iff.mpr ⟨hitem, ih hrest⟩

/-- The path of an item starts with the path of its array. -/
theorem prefix_item (hpath : start.toList <+: path.toList) (index : Nat) :
    start.toList <+: s!"{path}[{index}]".toList := by
  simp only [toString, String.toList_append, List.append_assoc]
  exact hpath.trans (List.prefix_append _ _)

theorem Within.eachItem {check : Option Json -> String -> Checked Unit}
    (h : forall value place, start.toList <+: place.toList -> (check value place).Within start)
    (hpath : start.toList <+: path.toList) (index : Nat) (items : List Json) :
    (eachItem check path index items).Within start := by
  induction items generalizing index with
  | nil =>
      exact within_pure ()
  | cons item rest ih =>
      exact within_bind_iff.mpr ⟨h _ _ (prefix_item hpath index), ih (index + 1)⟩

@[simp] theorem within_oneOf {value : Option String} {allowed : List String}
    (h : start.toList <+: path.toList) : (oneOf value path allowed).Within start := by
  unfold oneOf
  split <;> simp [h]

@[simp] theorem within_inRange {value : Option Int} {least greatest : Int}
    (h : start.toList <+: path.toList) : (inRange value path least greatest).Within start := by
  unfold inRange
  split <;> simp [h]

@[simp] theorem within_atLeast {value : Option Int} {least : Int}
    (h : start.toList <+: path.toList) : (atLeast value path least).Within start := by
  unfold atLeast
  split <;> simp [h]

end Checked

namespace Section

open Checked

variable {s : Section} {key start : String}

/-- The path of every member starts with a text. -/
def Inside (start : String) (s : Section) : Prop :=
  forall key, start.toList <+: (s.pathTo key).toList

theorem inside_self (h : s.path ≠ "") : s.Inside (s.path ++ ".") := by
  intro key
  simp only [pathTo, if_neg h, toString, String.toList_append]
  exact List.prefix_append _ _

theorem inside_of_prefix {path : String} (h : start.toList <+: path.toList)
    (members : Option (List (String × Json))) : (⟨path, members⟩ : Section).Inside start := by
  intro key
  by_cases hempty : path = ""
  · rw [hempty, String.toList_empty, List.prefix_nil] at h
    rw [h]
    exact List.nil_prefix
  · simp only [pathTo, if_neg hempty, toString, String.toList_append, List.append_assoc]
    exact h.trans (List.prefix_append _ _)

theorem within_blockValue {path : String} {value : Option Json}
    (h : start.toList <+: path.toList) : (blockValue value path).Within start := by
  unfold blockValue
  split
  · split
    · simp [h]
    · split <;> simp [h]
  · simp [h]

theorem within_optionalAddressValue {path : String} {value : Option Json}
    (h : start.toList <+: path.toList) : (optionalAddressValue value path).Within start := by
  unfold optionalAddressValue
  split <;> simp [h]

section Member

variable (h : start.toList <+: (s.pathTo key).toList)
include h

theorem within_bool : (s.bool key).Within start := by
  unfold Section.bool
  split <;> simp [h]

theorem within_nonBlank : (s.nonBlank key).Within start := by
  unfold Section.nonBlank
  split
  · split <;> simp [h]
  · simp [h]

theorem within_int : (s.int key).Within start := by
  unfold Section.int
  split <;> simp [h]

theorem within_optionalAddress : (s.optionalAddress key).Within start :=
  within_optionalAddressValue h

theorem within_optionalAddressOrBlock : (s.optionalAddressOrBlock key).Within start := by
  unfold Section.optionalAddressOrBlock
  split <;> simp [h]

end Member

variable (h : s.Inside start)
include h

@[simp] theorem Inside.pathTo : start.toList <+: (s.pathTo key).toList :=
  h key

@[simp] theorem Inside.bool : (s.bool key).Within start :=
  within_bool (h key)

@[simp] theorem Inside.nonBlank : (s.nonBlank key).Within start :=
  within_nonBlank (h key)

@[simp] theorem Inside.string {hint : String} : (s.string key hint).Within start := by
  unfold Section.string
  split <;> simp [h]

@[simp] theorem Inside.int : (s.int key).Within start :=
  within_int (h key)

@[simp] theorem Inside.block : (s.block key).Within start :=
  within_blockValue (h key)

@[simp] theorem Inside.optionalAddress : (s.optionalAddress key).Within start :=
  within_optionalAddress (h key)

@[simp] theorem Inside.optionalAddressOrBlock : (s.optionalAddressOrBlock key).Within start :=
  within_optionalAddressOrBlock (h key)

@[simp] theorem Inside.optionalSection {required : Bool} {reason : String} :
    (s.optionalSection key required reason).Within start := by
  unfold Section.optionalSection
  split <;> simp [h]

/-- A section found in another is inside of what that one is inside of. -/
theorem Inside.of_optionalSection {required : Bool} {reason : String} {inner : Section}
    (hinner : (s.optionalSection key required reason).value = some inner) :
    inner.Inside start := by
  unfold Section.optionalSection at hinner
  split at hinner
  next members hget =>
    rw [value_pure, Option.some.injEq] at hinner
    rw [← hinner]
    exact inside_of_prefix (h key) _
  next =>
    split at hinner <;> cases hinner

end Section

/-!
## The checks of one section
-/

namespace Validation

open Checked

variable {s : Section} {start : String}

theorem within_checkIdentity (h : s.Inside start) : (checkIdentity s).Within start := by
  simp [checkIdentity, h]

theorem within_checkBlocks {path : String}
    (h : forall i : Nat, start.toList <+: s!"{path}[{i}]".toList) (index : Nat)
    (items : List Json) : (checkBlocks path index items).Within start := by
  induction items generalizing index with
  | nil =>
      exact within_pure []
  | cons item rest ih =>
      exact within_bind_iff.mpr ⟨Section.within_blockValue (h index),
        within_bind_iff.mpr ⟨ih (index + 1), within_pure _⟩⟩

theorem within_checkRanges (h : s.Inside start) : (checkRanges s).Within start := by
  unfold checkRanges
  split
  · simp [h]
  · refine within_bind_iff.mpr ⟨within_checkBlocks (prefix_item h.pathTo) 0 _, within_bind_iff.mpr ⟨?_, ?_⟩⟩
    · exact Within.each fun _ _ => within_report_iff.mpr h.pathTo
    · exact within_pure _
  · simp [h]

theorem within_checkNameServers (h : start.toList <+: (s.pathTo "vnetDnsServers").toList) :
    (checkNameServers s).Within start := by
  unfold checkNameServers
  split
  · exact Within.eachItem (fun _ _ => Section.within_optionalAddressValue) h 0 _
  · simp [h]

theorem within_checkProtectionPlan
    (h : start.toList <+: (s.pathTo "ddosProtectionPlanId").toList) (protection : Option Bool) :
    (checkProtectionPlan s protection).Within start := by
  unfold checkProtectionPlan
  split <;> simp [h]

theorem within_checkNetwork (h : s.Inside start) : (checkNetwork s).Within start := by
  simp [checkNetwork, h, within_checkProtectionPlan, within_checkRanges, within_checkNameServers]

theorem within_checkNodeCounts (hcount : start.toList <+: (s.pathTo "userPoolCount").toList)
    (hleast : start.toList <+: (s.pathTo "userPoolMinCount").toList)
    (hgreatest : start.toList <+: (s.pathTo "userPoolMaxCount").toList)
    (count least greatest : Option Int) : (checkNodeCounts s count least greatest).Within start := by
  have hcounts : start.toList <+: (s.pathTo "userPoolCount" ++ " / "
      ++ s.pathTo "userPoolMinCount" ++ " / " ++ s.pathTo "userPoolMaxCount").toList := by
    simp only [String.toList_append, List.append_assoc]
    exact hcount.trans (List.prefix_append _ _)
  unfold checkNodeCounts
  simp only [within_bind_iff, within_atLeast hcount, within_atLeast hleast,
    within_atLeast hgreatest, true_and]
  split
  · exact within_ite.mpr ⟨fun _ => within_pure (), fun _ => within_report_iff.mpr hcounts⟩
  · exact within_pure ()

theorem within_checkServiceRange (h : s.Inside start) (pods : Option Block) (ranges : List Block)
    (service : Block) : (checkServiceRange s pods ranges service).Within start := by
  have hranges (problem : Block -> String) (items : List Block) :
      (each (fun range => report (s.pathTo "serviceCidr") (problem range)) items).Within start :=
    Within.each fun _ _ => within_report_iff.mpr h.pathTo
  cases pods <;> simp [checkServiceRange, h, hranges]

theorem within_checkCluster (h : s.Inside start) (ranges : List Block) :
    (checkCluster s ranges).Within start := by
  unfold checkCluster
  simp only [within_bind_iff, h.nonBlank, h.int, h.block,
    within_checkNodeCounts h.pathTo h.pathTo h.pathTo, true_and]
  split
  · exact within_checkServiceRange h _ _ _
  · exact within_pure ()

theorem within_checkPostgresWindow (h : s.Inside start) :
    (checkPostgresWindow s).Within start := by
  simp [checkPostgresWindow, h]

theorem within_checkPostgres (h : s.Inside start) : (checkPostgres s).Within start := by
  cases hwindow : (s.optionalSection "maintenanceWindow"
      ((s.bool "enableCustomMaintenanceWindow").value == some true) windowReason).value with
  | none =>
      simp [checkPostgres, h, hwindow]
  | some window =>
      simp [checkPostgres, h, hwindow, within_checkPostgresWindow (h.of_optionalSection hwindow)]

theorem within_checkCapacity (h : s.Inside start) (product : Option String)
    (capacity : Option Int) : (checkCapacity s product capacity).Within start := by
  unfold checkCapacity
  split <;> simp [h]

theorem within_checkZones (h : s.Inside start) : (checkZones s).Within start := by
  unfold checkZones
  split
  · refine within_bind_iff.mpr ⟨Within.eachItem ?_ h.pathTo 0 _, within_pure _⟩
    intro value place hplace
    unfold checkZoneName
    split <;> simp [hplace]
  · simp [h]

theorem within_checkReplication (h : s.Inside start) (premium : Bool) (replicas : Option Int) :
    (checkReplication s premium replicas).Within start := by
  cases replicas <;> simp [checkReplication, h]

theorem within_checkRedisWindow (h : s.Inside start) : (checkRedisWindow s).Within start := by
  simp [checkRedisWindow, h]

theorem within_checkBackups (h : s.Inside start) (premium : Bool) :
    (checkBackups s premium).Within start := by
  cases hfrequency : (s.int "rdbBackupFrequencyInMinutes").value <;>
    cases hconnection : (s.string "rdbStorageConnectionString" "").value <;>
      simp [checkBackups, h, hfrequency, hconnection]

theorem within_checkRedis (h : s.Inside start) : (checkRedis s).Within start := by
  cases hwindow : (s.optionalSection "maintenanceWindow"
      ((s.bool "enableCustomMaintenanceWindow").value == some true) windowReason).value with
  | none =>
      simp [checkRedis, checkZonalPolicy, h, hwindow, within_checkCapacity, within_checkZones,
        within_checkReplication, within_checkBackups]
  | some window =>
      simp [checkRedis, checkZonalPolicy, h, hwindow, within_checkCapacity, within_checkZones,
        within_checkReplication, within_checkBackups,
        within_checkRedisWindow (h.of_optionalSection hwindow)]

theorem within_checkRegions (h : s.Inside start) : (checkRegions s).Within start := by
  unfold checkRegions
  split
  · refine Within.eachItem ?_ h.pathTo 0 _
    intro value place hplace
    unfold checkRegion
    split <;> simp [hplace]
  · simp [h]

theorem within_checkRetention (h : s.Inside start) (policy : Option String)
    (interval retention : Option Int) :
    (checkRetention s policy interval retention).Within start := by
  unfold checkRetention
  split <;> simp [h]

theorem within_checkCosmos (h : s.Inside start) : (checkCosmos s).Within start := by
  simp [checkCosmos, h, within_checkRegions, within_checkRetention]

/-- The part of the check of the toggles that comes after finding their section. -/
theorem within_toggles (h : s.Inside start) :
    (if s.isObject then each (checkToggle s) toggleKeys else pure ()).Within start := by
  refine within_ite.mpr ⟨fun _ => Within.each ?_, fun _ => within_pure ()⟩
  intro family _
  unfold checkToggle
  split <;> simp [h]

/-!
## The subnet document
-/

theorem within_checkIdentifier (h : s.Inside start) {key : String} :
    (checkIdentifier s key).Within start := by
  unfold checkIdentifier
  split
  · exact within_pure none
  · split <;> simp [h]
  · simp [h]

theorem within_checkNew {seen : Entries Nat} {path kind : String} {index : Nat}
    {value : Option String} (h : start.toList <+: path.toList) :
    (checkNew seen path kind index value).Within start := by
  cases value with
  | none =>
      exact within_pure seen
  | some value =>
      cases hseen : seen.get? value <;> simp [checkNew, hseen, h]

theorem within_checkDefinition (h : s.Inside start) (seen : SeenNames) (index : Nat) :
    (checkDefinition seen s index).Within start := by
  simp [checkDefinition, h, within_checkIdentifier, within_checkNew]

theorem within_element {path : String} (h : start.toList <+: path.toList) (index : Nat)
    (value : Json) : (Section.element path index value).Within start := by
  have hpath := prefix_item h index
  unfold Section.element
  split
  · exact within_pure _
  · exact within_bind_iff.mpr ⟨within_report_iff.mpr hpath, within_pure _⟩

theorem inside_element {path : String} (h : start.toList <+: path.toList) (index : Nat)
    (value : Json) : (Section.element path index value).value.Inside start := by
  have hpath := prefix_item h index
  unfold Section.element
  split <;> exact Section.inside_of_prefix hpath _

theorem within_checkDefinitions (seen : SeenNames) (index : Nat) (items : List Json) :
    (checkDefinitions seen index items).Within "subnetDefinitions" := by
  induction items generalizing seen index with
  | nil =>
      exact within_pure ()
  | cons item rest ih =>
      simp only [checkDefinitions, within_bind_iff, within_ite]
      refine ⟨within_element List.prefix_rfl index item, fun _ => ⟨?_, ih _ _⟩, fun _ => ⟨?_, ih _ _⟩⟩
      · exact within_checkDefinition (inside_element List.prefix_rfl index item) seen index
      · exact within_pure seen

theorem within_checkSubnets (doc : Json) : (checkSubnets doc).Within "subnetDefinitions" := by
  have hroot : (Section.root doc).path = "" := by
    cases doc <;> rfl
  have hitems : ((Section.root doc).array "subnetDefinitions" " of subnet definitions").Within
      "subnetDefinitions" := by
    unfold Section.array
    split <;> simp [Section.pathTo, hroot]
  unfold checkSubnets
  refine within_ite.mpr ⟨fun _ => within_bind_iff.mpr ⟨hitems, ?_⟩, fun _ => ?_⟩
  · split <;> simp [within_checkDefinitions]
  · simp

end Validation
end NetworkPlan
