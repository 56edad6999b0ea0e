import NetworkPlan.Proofs.Validation.Members
import NetworkPlan.Validation.Redis

/-!
# The Redis section, exactly

The check of the section reports nothing exactly if its members fit together.  Each part of the
check is read as a condition on the values it is given; the whole is their conjunction.
-/

namespace NetworkPlan

namespace Section

def IsPremium (redis : Section) : Prop :=
  redis.trimmed? "skuName" = some "Premium"

def IsUserDefined (redis : Section) : Prop :=
  redis.trimmed? "zonalAllocationPolicy" = some "UserDefined"

end Section

namespace Validation

open Checked

def redisFlags : List String := [
  "enableGeoReplication", "enableMicrosoftEntraAuthentication", "disableAccessKeyAuthentication",
  "enableCustomMaintenanceWindow", "enableRdbBackup"]

/-- What a maintenance window of the section must say. -/
structure AcceptableRedisWindow (window : Section) : Prop where
  day : window.Counts "dayOfWeek" fun n => 0 ≤ n ∧ n ≤ 6
  hour : window.Counts "startHour" fun n => 0 ≤ n ∧ n ≤ 23
  duration : exists text, window.string? "duration" = some text ∧
    "PT".toList <+: text.toList ∧ "H".toList <:+ text.toList

/-- What the section must say. -/
structure AcceptableRedis (redis : Section) : Prop where
  product : redis.Chooses "skuName" redisProducts
  strategy : redis.Chooses "scaleStrategy" scaleStrategies
  policy : redis.Chooses "zonalAllocationPolicy" zonalPolicies
  capacity : redis.Counts "capacity" fun n => 0 ≤ n ∧ n ≤ 6 ∧ (redis.IsPremium -> 1 ≤ n)
  shards : redis.Counts "shardCount" fun n => 1 ≤ n
  zones : exists zones, redis.get? "zones" = some (Json.strings zones) ∧
    (forall zone, zone ∈ zones -> zone ∈ ["1", "2", "3"]) ∧ (zones ≠ [] ↔ redis.IsUserDefined)
  zonal_premium : redis.IsUserDefined -> redis.IsPremium
  replicas : redis.Counts "replicasPerMaster" fun n =>
    0 ≤ n ∧ (redis.Affirms "enableGeoReplication" -> n = 1)
  replication_premium : redis.Affirms "enableGeoReplication" -> redis.IsPremium
  flags : forall key, key ∈ redisFlags -> redis.Decides key
  authentication : redis.Affirms "disableAccessKeyAuthentication" ->
    redis.Affirms "enableMicrosoftEntraAuthentication"
  window : redis.Affirms "enableCustomMaintenanceWindow" ->
    exists window, redis.child? "maintenanceWindow" = some window ∧ AcceptableRedisWindow window
  frequency : redis.Counts "rdbBackupFrequencyInMinutes" fun n => n ∈ [15, 30, 60, 360, 720, 1440]
  snapshots : redis.Counts "rdbBackupMaxSnapshotCount" fun n => 1 ≤ n
  connection : exists text, redis.string? "rdbStorageConnectionString" = some text ∧
    (redis.Affirms "enableRdbBackup" -> redis.IsPremium -> (Text.nonBlank? text).isSome = true)

/-!
## The parts of the check
-/

section Parts

variable {redis window : Section} {product policy : Option String} {premium : Bool}

theorem findings_checkCapacity_eq_nil_iff {capacity : Option Int} :
    (checkCapacity redis product capacity).findings = [] ↔
      forall n, capacity = some n ->
        (product = some "Basic" ∨ product = some "Standard" -> 0 ≤ n ∧ n ≤ 6) ∧
          (product = some "Premium" -> 1 ≤ n ∧ n ≤ 6) := by
  cases capacity with
  | none =>
      simp [checkCapacity]
  | some n =>
      by_cases hpremium : product = some "Premium"
      · by_cases hn : 1 ≤ n ∧ n ≤ 6 <;> simp [checkCapacity, hpremium, hn]
      · by_cases hn : 0 ≤ n ∧ n ≤ 6 <;>
          simp [checkCapacity, hpremium, hn, findings_report_ite_eq_nil_iff]

theorem findings_checkZoneName_eq_nil_iff {item : Json} {path : String} :
    (checkZoneName (some item) path).findings = [] ↔
      exists zone, item = .string zone ∧ zone ∈ zoneNames := by
  cases item with
  | string zone =>
      by_cases hzone : zone ∈ zoneNames <;> simp [checkZoneName, hzone]
  | _ =>
      simp [checkZoneName]

theorem findings_checkZones_eq_nil_iff :
    (checkZones redis).findings = [] ↔
      exists zones, redis.get? "zones" = some (Json.strings zones) ∧
        forall zone, zone ∈ zones -> zone ∈ zoneNames := by
  unfold checkZones
  cases redis.get? "zones" with
  | none =>
      simp
  | some value =>
      cases value with
      | array items =>
          simp only [findings_bind, findings_pure, List.append_nil, Option.some.injEq,
            findings_eachText_eq_nil_iff fun _ _ => findings_checkZoneName_eq_nil_iff]
      | _ =>
          simp [Json.strings]

theorem value_checkZones {zones : List String}
    (hget : redis.get? "zones" = some (Json.strings zones)) :
    (checkZones redis).value = zones.length := by
  simp [checkZones, hget, Json.strings]

theorem findings_checkZonalPolicy_eq_nil_iff {zones : Nat} :
    (checkZonalPolicy redis policy premium zones).findings = [] ↔
      (policy = some "UserDefined" -> premium = true) ∧
        (zones ≠ 0 ↔ policy = some "UserDefined") := by
  unfold checkZonalPolicy
  by_cases hpolicy : policy = some "UserDefined"
  · cases premium <;> by_cases hzones : zones = 0 <;> simp [hpolicy, hzones]
  · by_cases hzones : zones = 0 <;> simp [hpolicy, hzones, Nat.pos_iff_ne_zero]

theorem findings_checkReplication_eq_nil_iff {replicas : Option Int} :
    (checkReplication redis premium replicas).findings = [] ↔
      premium = true ∧ forall n, replicas = some n -> n = 1 := by
  cases replicas with
  | none =>
      cases premium <;> simp [checkReplication]
  | some n =>
      cases premium <;> by_cases hn : n = 1 <;> simp [checkReplication, hn]

theorem isHourDuration_iff :
    isHourDuration (window.get? "duration") = true ↔
      exists text, window.string? "duration" = some text ∧
        "PT".toList <+: text.toList ∧ "H".toList <:+ text.toList := by
  unfold isHourDuration Section.string?
  cases window.get? "duration" with
  | none =>
      simp
  | some value =>
      cases value <;> simp [Json.string?]

theorem findings_checkRedisWindow_eq_nil_iff :
    (checkRedisWindow window).findings = [] ↔ AcceptableRedisWindow window := by
  simp only [checkRedisWindow, findings_bind, List.append_eq_nil_iff, Section.value_int,
    findings_inRange_eq_nil_iff, findings_report_ite_eq_nil_iff, Bool.not_eq_true',
    Bool.not_eq_false, isHourDuration_iff]
  constructor
  · rintro ⟨hday, hhour, hdays, hhours, hduration⟩
    exact
      { day := Section.findings_int_and_iff.mp ⟨hday, hdays⟩
        hour := Section.findings_int_and_iff.mp ⟨hhour, hhours⟩
        duration := hduration }
  · intro h
    rcases Section.findings_int_and_iff.mpr h.day with ⟨hday, hdays⟩
    rcases Section.findings_int_and_iff.mpr h.hour with ⟨hhour, hhours⟩
    exact ⟨hday, hhour, hdays, hhours, h.duration⟩

theorem findings_checkBackups_eq_nil_iff :
    (checkBackups redis premium).findings = [] ↔
      redis.Decides "enableRdbBackup" ∧
        redis.Counts "rdbBackupFrequencyInMinutes" (fun n => n ∈ backupIntervals) ∧
        redis.Counts "rdbBackupMaxSnapshotCount" (fun n => 1 ≤ n) ∧
        exists text, redis.string? "rdbStorageConnectionString" = some text ∧
          (redis.Affirms "enableRdbBackup" -> premium = true ->
            (Text.nonBlank? text).isSome = true) := by
  simp only [checkBackups, findings_bind, List.append_eq_nil_iff, Section.value_bool,
    Section.value_int, Section.value_string, Section.findings_bool_eq_nil_iff,
    ← Section.findings_int_and_iff, ← Section.findings_string_and_iff ""]
  cases hfrequency : redis.integer? "rdbBackupFrequencyInMinutes" with
  | none =>
      simp [Section.findings_int_eq_nil_iff, hfrequency]
  | some n =>
      cases hconnection : redis.string? "rdbStorageConnectionString" with
      | none =>
          simp [Section.findings_string_eq_nil_iff, hconnection]
      | some text =>
          simp only [findings_ite_bind, findings_bind, List.append_eq_nil_iff, ite_eq_right_iff,
            findings_report_ite_eq_nil_iff, findings_atLeast_eq_nil_iff, findings_report,
            List.cons_ne_nil, imp_false, Bool.not_eq_true', Bool.not_eq_false,
            List.contains_iff_mem, Option.isNone_iff_eq_none, Option.isSome_iff_ne_none,
            Option.some.injEq, forall_eq', Section.Affirms]
          tauto

end Parts

/-!
## The whole check
-/

variable {redis : Section}

theorem findings_checkRedis_eq_nil_iff :
    (checkRedis redis).findings = [] ↔
      redis.Chooses "skuName" redisProducts ∧ redis.Counts "capacity" (fun n => 0 ≤ n) ∧
      redis.Counts "shardCount" (fun n => 1 ≤ n) ∧ redis.Chooses "scaleStrategy" scaleStrategies ∧
      (checkCapacity redis (redis.trimmed? "skuName") (redis.integer? "capacity")).findings = [] ∧
      redis.Chooses "zonalAllocationPolicy" zonalPolicies ∧ (checkZones redis).findings = [] ∧
      redis.Counts "replicasPerMaster" (fun n => 0 ≤ n) ∧
      redis.Decides "enableGeoReplication" ∧ redis.Decides "enableMicrosoftEntraAuthentication" ∧
      redis.Decides "disableAccessKeyAuthentication" ∧
      (checkZonalPolicy redis (redis.trimmed? "zonalAllocationPolicy")
        (redis.trimmed? "skuName" == some "Premium") (checkZones redis).value).findings = [] ∧
      (redis.Affirms "enableGeoReplication" ->
        (checkReplication redis (redis.trimmed? "skuName" == some "Premium")
          (redis.integer? "replicasPerMaster")).findings = []) ∧
      ¬ (redis.Affirms "disableAccessKeyAuthentication" ∧
        redis.bool? "enableMicrosoftEntraAuthentication" = some false) ∧
      redis.Decides "enableCustomMaintenanceWindow" ∧
      (redis.Affirms "enableCustomMaintenanceWindow" ->
        exists window, redis.child? "maintenanceWindow" = some window ∧
          (checkRedisWindow window).findings = []) ∧
      (checkBackups redis (redis.trimmed? "skuName" == some "Premium")).findings = [] := by
  simp only [checkRedis, findings_bind, List.append_eq_nil_iff, findings_ite_bind,
    Section.value_nonBlank, Section.value_bool, Section.value_int, Section.value_optionalSection,
    Section.findings_optionalSection_eq_nil_iff, Section.findings_bool_eq_nil_iff,
    ite_eq_right_iff, findings_report, List.cons_ne_nil, imp_false, beq_iff_eq, Section.Chooses,
    Section.Affirms, ← Section.findings_nonBlank_and_iff, ← Section.findings_int_and_iff,
    findings_oneOf_eq_nil_iff, findings_atLeast_eq_nil_iff, and_assoc]
  -- The checks after the window come in each of its cases.
  cases redis.child? "maintenanceWindow" with
  | none =>
      simp
  | some window =>
      simp [findings_ite_bind]

/-!
## What the parts mean together
-/

theorem counts_capacity_iff (hproduct : redis.Chooses "skuName" redisProducts) :
    (redis.Counts "capacity" fun n => 0 ≤ n ∧ n ≤ 6 ∧ (redis.IsPremium -> 1 ≤ n)) ↔
      redis.Counts "capacity" (fun n => 0 ≤ n) ∧
        (checkCapacity redis (redis.trimmed? "skuName") (redis.integer? "capacity")).findings =
          [] := by
  rcases hproduct with ⟨product, htrimmed, hproduct⟩
  rw [findings_checkCapacity_eq_nil_iff, Section.IsPremium, Section.Counts, Section.Counts,
    htrimmed]
  cases redis.integer? "capacity" with
  | none =>
      simp
  | some n =>
      -- The two bounds of the check depend on the product, and each product has one.
      simp only [redisProducts, List.mem_cons, List.not_mem_nil, or_false] at hproduct
      rcases hproduct with rfl | rfl | rfl
      · simp
      · simp
      · simp only [Option.some.injEq, forall_const, exists_eq_left', String.reduceEq, or_self,
          IsEmpty.forall_iff, true_and, forall_eq']
        omega

theorem zones_iff :
    ((exists zones, redis.get? "zones" = some (Json.strings zones) ∧
        (forall zone, zone ∈ zones -> zone ∈ zoneNames) ∧ (zones ≠ [] ↔ redis.IsUserDefined)) ∧
      (redis.IsUserDefined -> redis.IsPremium)) ↔
      (checkZones redis).findings = [] ∧
        (checkZonalPolicy redis (redis.trimmed? "zonalAllocationPolicy")
          (redis.trimmed? "skuName" == some "Premium") (checkZones redis).value).findings = [] := by
  rw [findings_checkZonalPolicy_eq_nil_iff, findings_checkZones_eq_nil_iff, beq_iff_eq]
  constructor
  · rintro ⟨⟨zones, hget, hnames, hzonal⟩, hpremium⟩
    rw [value_checkZones hget, Ne, List.length_eq_zero_iff]
    exact ⟨⟨zones, hget, hnames⟩, hpremium, hzonal⟩
  · rintro ⟨⟨zones, hget, hnames⟩, hpremium, hzonal⟩
    rw [value_checkZones hget, Ne, List.length_eq_zero_iff] at hzonal
    exact ⟨⟨zones, hget, hnames, hzonal⟩, hpremium⟩

theorem replication_iff :
    ((redis.Counts "replicasPerMaster" fun n =>
        0 ≤ n ∧ (redis.Affirms "enableGeoReplication" -> n = 1)) ∧
      (redis.Affirms "enableGeoReplication" -> redis.IsPremium)) ↔
      redis.Counts "replicasPerMaster" (fun n => 0 ≤ n) ∧
        (redis.Affirms "enableGeoReplication" ->
          (checkReplication redis (redis.trimmed? "skuName" == some "Premium")
            (redis.integer? "replicasPerMaster")).findings = []) := by
  rw [findings_checkReplication_eq_nil_iff, beq_iff_eq, Section.Counts, Section.Counts]
  cases redis.integer? "replicasPerMaster" with
  | none =>
      simp
  | some n =>
      simp only [Section.IsPremium, Option.some.injEq, exists_eq_left', forall_eq']
      tauto

theorem authentication_iff (hentra : redis.Decides "enableMicrosoftEntraAuthentication") :
    (redis.Affirms "disableAccessKeyAuthentication" ->
        redis.Affirms "enableMicrosoftEntraAuthentication") ↔
      ¬ (redis.Affirms "disableAccessKeyAuthentication" ∧
        redis.bool? "enableMicrosoftEntraAuthentication" = some false) := by
  rcases hentra with ⟨entra, hentra⟩
  cases entra <;> simp [Section.Affirms, hentra]

/-- The section is accepted exactly if its members fit together. -/
theorem redis_checked_exactly (redis : Section) :
    (checkRedis redis).findings = [] ↔ AcceptableRedis redis := by
  rw [findings_checkRedis_eq_nil_iff]
  simp only [findings_checkRedisWindow_eq_nil_iff, findings_checkBackups_eq_nil_iff, beq_iff_eq]
  constructor
  · rintro ⟨hproduct, hcapacity, hshards, hstrategy, hbounds, hpolicy, hzones, hreplicas,
      hreplication, hentra, hkeys, hzonal, hreplicated, hauthentication, hcustom, hwindow, hbackup,
      hfrequency, hsnapshots, hconnection⟩
    have hzones := zones_iff.mpr ⟨hzones, hzonal⟩
    have hreplicas := replication_iff.mpr ⟨hreplicas, hreplicated⟩
    exact
      { product := hproduct
        strategy := hstrategy
        policy := hpolicy
        capacity := (counts_capacity_iff hproduct).mpr ⟨hcapacity, hbounds⟩
        shards := hshards
        zones := hzones.left
        zonal_premium := hzones.right
        replicas := hreplicas.left
        replication_premium := hreplicas.right
        flags := by simp [redisFlags, hreplication, hentra, hkeys, hcustom, hbackup]
        authentication := (authentication_iff hentra).mpr hauthentication
        window := hwindow
        frequency := hfrequency
        snapshots := hsnapshots
        connection := hconnection }
  · intro h
    have hflags : forall key, key ∈ redisFlags -> redis.Decides key := h.flags
    simp only [redisFlags, List.forall_mem_cons, List.not_mem_nil, false_imp_iff, forall_const,
      and_true] at hflags
    rcases hflags with ⟨hreplication, hentra, hkeys, hcustom, hbackup⟩
    rcases (counts_capacity_iff h.product).mp h.capacity with ⟨hcapacity, hbounds⟩
    rcases zones_iff.mp ⟨h.zones, h.zonal_premium⟩ with ⟨hzones, hzonal⟩
    rcases replication_iff.mp ⟨h.replicas, h.replication_premium⟩ with ⟨hreplicas, hreplicated⟩
    exact ⟨h.product, hcapacity, h.shards, h.strategy, hbounds, h.policy, hzones, hreplicas,
      hreplication, hentra, hkeys, hzonal, hreplicated,
      (authentication_iff hentra).mp h.authentication, hcustom, h.window, hbackup, h.frequency,
      h.snapshots, h.connection⟩

end Validation
end NetworkPlan
