import NetworkPlan.Proofs.Number.Rounding
import NetworkPlan.Proofs.Validation.Members
import NetworkPlan.Validation.Cosmos

/-!
# The Cosmos DB section, exactly

The check of the section reports nothing exactly if its members are what they should be.  The hours
for which backups must be kept are computed in doubles; for every interval that is in range the rule
is nevertheless the exact inequality.
-/

namespace NetworkPlan
namespace Validation

open Checked

def cosmosFlags : List String := [
  "enableAutomaticFailover", "enableMultipleWriteLocations", "disableLocalAuth",
  "disableKeyBasedMetadataWriteAccess"]

/-- What the section must say. -/
structure AcceptableCosmos (cosmos : Section) : Prop where
  mode : cosmos.Chooses "throughputMode" throughputModes
  policy : cosmos.Chooses "backupPolicyType" backupPolicies
  redundancy : cosmos.Chooses "periodicBackupStorageRedundancy" redundancies
  tier : cosmos.Chooses "continuousBackupTier" continuousTiers
  consistency : cosmos.Chooses "consistencyLevel" consistencyLevels
  manual : cosmos.Counts "manualThroughputRu" fun n => 400 ≤ n
  autoscale : cosmos.Counts "autoscaleMaxThroughputRu" fun n => 1000 ≤ n
  interval : cosmos.Counts "periodicBackupIntervalInMinutes" fun i => 60 ≤ i ∧ i ≤ 1440
  retention : cosmos.Counts "periodicBackupRetentionIntervalInHours" fun h => 8 ≤ h ∧ h ≤ 720
  retained : cosmos.trimmed? "backupPolicyType" = some "Periodic" -> forall i h,
    cosmos.integer? "periodicBackupIntervalInMinutes" = some i ->
      cosmos.integer? "periodicBackupRetentionIntervalInHours" = some h -> 2 * i ≤ 60 * h
  regions : exists regions, cosmos.get? "failoverRegions" = some (Json.strings regions) ∧
    forall region, region ∈ regions -> (Text.nonBlank? region).isSome = true
  flags : forall key, key ∈ cosmosFlags -> cosmos.Decides key

/-!
## Two backups
-/

/-- The hours that two backups take are rounded up as if they were computed exactly. -/
theorem lt_leastRetentionHours_iff {i h : Nat} (hi : 0 < i)
    (hle : 2 * i ≤ Binary64.fullSignificand) :
    (h : Int) < leastRetentionHours i ↔ h * 60 < 2 * i := by
  have hpos : 0 < 2 * i := Nat.mul_pos Nat.two_pos hi
  rcases Binary64.exists_ofInt hpos hle with ⟨minutes, hminutes, hm⟩
  rcases Binary64.exists_ofInt (by decide : 0 < 60) (by decide) with ⟨sixty, hsixty, hs⟩
  have hbound : 60 ≤ twoTo 1074 :=
    Nat.le_trans (by decide : 60 ≤ twoTo 6) (twoTo_le_twoTo (by decide))
  rcases hm.exists_div hs hpos hle (by decide) hbound with ⟨quotient, hquotient, hceil⟩
  have hleast : leastRetentionHours i = quotient.ceil := by
    unfold leastRetentionHours
    rw [Nat.cast_mul, Nat.cast_ofNat] at hminutes
    rw [Nat.cast_ofNat] at hsixty
    simp [hminutes, hsixty, hquotient]
  rw [hleast]
  exact hceil h

variable {cosmos : Section} {policy : Option String}

theorem retained_iff
    (hinterval : cosmos.Counts "periodicBackupIntervalInMinutes" fun i => 60 ≤ i ∧ i ≤ 1440)
    (hretention : cosmos.Counts "periodicBackupRetentionIntervalInHours"
      fun h => 8 ≤ h ∧ h ≤ 720) :
    (checkRetention cosmos policy (cosmos.integer? "periodicBackupIntervalInMinutes")
        (cosmos.integer? "periodicBackupRetentionIntervalInHours")).findings = [] ↔
      (policy = some "Periodic" -> forall i h,
        cosmos.integer? "periodicBackupIntervalInMinutes" = some i ->
          cosmos.integer? "periodicBackupRetentionIntervalInHours" = some h ->
            2 * i ≤ 60 * h) := by
  rcases hinterval with ⟨i, hi, hleast, hgreatest⟩
  rcases hretention with ⟨h, hh, hpositive, _⟩
  rw [hi, hh]
  -- Both are natural numbers, and twice the minutes is far below the precision of a double.
  lift i to Nat using by omega
  lift h to Nat using by omega
  have hexact : (h : Int) < leastRetentionHours i ↔ h * 60 < 2 * i :=
    lt_leastRetentionHours_iff (by omega)
      (Nat.le_trans (by omega : 2 * i ≤ 2880) (by decide))
  simp only [checkRetention, findings_report_ite_eq_nil_iff, hexact, not_and, Option.some.injEq]
  refine imp_congr_right fun _ => ?_
  constructor
  · rintro hle _ _ rfl rfl
    omega
  · intro hle
    have := hle i h rfl rfl
    omega

/-!
## Regions
-/

theorem findings_checkRegion_eq_nil_iff {item : Json} {path : String} :
    (checkRegion (some item) path).findings = [] ↔
      exists region, item = .string region ∧ (Text.nonBlank? region).isSome = true := by
  cases item with
  | string region =>
      cases hregion : Text.nonBlank? region <;> simp [checkRegion, hregion]
  | _ =>
      simp [checkRegion]

theorem findings_checkRegions_eq_nil_iff :
    (checkRegions cosmos).findings = [] ↔
      exists regions, cosmos.get? "failoverRegions" = some (Json.strings regions) ∧
        forall region, region ∈ regions -> (Text.nonBlank? region).isSome = true := by
  unfold checkRegions
  cases cosmos.get? "failoverRegions" with
  | none =>
      simp
  | some value =>
      cases value with
      | array items =>
          simp only [Option.some.injEq,
            findings_eachText_eq_nil_iff fun _ _ => findings_checkRegion_eq_nil_iff]
      | _ =>
          simp [Json.strings]

/-!
## The whole check
-/

theorem findings_checkCosmos_eq_nil_iff :
    (checkCosmos cosmos).findings = [] ↔
      cosmos.Chooses "throughputMode" throughputModes ∧
      cosmos.Counts "manualThroughputRu" (fun n => 400 ≤ n) ∧
      cosmos.Counts "autoscaleMaxThroughputRu" (fun n => 1000 ≤ n) ∧
      cosmos.Chooses "backupPolicyType" backupPolicies ∧
      cosmos.Counts "periodicBackupIntervalInMinutes" (fun i => 60 ≤ i ∧ i ≤ 1440) ∧
      cosmos.Counts "periodicBackupRetentionIntervalInHours" (fun h => 8 ≤ h ∧ h ≤ 720) ∧
      cosmos.Chooses "periodicBackupStorageRedundancy" redundancies ∧
      cosmos.Chooses "continuousBackupTier" continuousTiers ∧
      (checkRetention cosmos (cosmos.trimmed? "backupPolicyType")
        (cosmos.integer? "periodicBackupIntervalInMinutes")
        (cosmos.integer? "periodicBackupRetentionIntervalInHours")).findings = [] ∧
      (checkRegions cosmos).findings = [] ∧
      cosmos.Decides "enableAutomaticFailover" ∧ cosmos.Decides "enableMultipleWriteLocations" ∧
      cosmos.Decides "disableLocalAuth" ∧ cosmos.Decides "disableKeyBasedMetadataWriteAccess" ∧
      cosmos.Chooses "consistencyLevel" consistencyLevels := by
  simp only [checkCosmos, findings_bind, List.append_eq_nil_iff, Section.value_nonBlank,
    Section.value_int, Section.findings_bool_eq_nil_iff, Section.Chooses,
    ← Section.findings_nonBlank_and_iff, ← Section.findings_int_and_iff,
    findings_oneOf_eq_nil_iff, findings_atLeast_eq_nil_iff, findings_inRange_eq_nil_iff, and_assoc]

end Validation
end NetworkPlan
