import NetworkPlan.Validation.Checks

/-!
# The Cosmos DB section

Throughput, backups and replication.
-/

namespace NetworkPlan
namespace Validation

def throughputModes : List String := ["Manual", "Autoscale", "Serverless"]

def backupPolicies : List String := ["Periodic", "Continuous"]

def redundancies : List String := ["Geo", "Local", "Zone"]

def continuousTiers : List String := ["Continuous7Days", "Continuous30Days"]

def consistencyLevels : List String := [
  "Strong", "BoundedStaleness", "Session", "ConsistentPrefix", "Eventual"]

/-- The hours for which backups must be kept so that there are always two of them: twice the
minutes between backups as a double, divided by sixty and rounded up. -/
def leastRetentionHours (intervalMinutes : Int) : Int :=
  let hours? := do
    let minutes ← Binary64.ofInt (2 * intervalMinutes)
    minutes.div (← Binary64.ofInt 60)
  (hours?.map Binary64.ceil).getD 0

/-- The name of a region is not blank. -/
def checkRegion (value : Option Json) (path : String) : Checked Unit :=
  let failure := Checked.report path "must be a non-empty region name"
  match value with
  | some (.string region) => if (Text.nonBlank? region).isSome then pure () else failure
  | _ => failure

def checkRegions (cosmos : Section) : Checked Unit :=
  let path := cosmos.pathTo "failoverRegions"
  match cosmos.get? "failoverRegions" with
  | some (.array regions) => Checked.eachItem checkRegion path 0 regions
  | _ => Checked.report path "must be an array of strings (empty when unset)"

/-- Periodic backups are kept long enough for two of them. -/
def checkRetention (cosmos : Section) (policy : Option String) (interval retention : Option Int) :
    Checked Unit :=
  match interval, retention with
  | some interval, some retention =>
      let least := leastRetentionHours interval
      if policy = some "Periodic" ∧ retention < least then
        Checked.report (cosmos.pathTo "periodicBackupRetentionIntervalInHours")
          (s!"must keep at least twice periodicBackupIntervalInMinutes ({least} hours for "
            ++ s!"{interval} minutes)")
      else pure ()
  | _, _ => pure ()

def checkCosmos (cosmos : Section) : Checked Unit := do
  let mode ← cosmos.nonBlank "throughputMode"
  Checked.oneOf mode (cosmos.pathTo "throughputMode") throughputModes
  let manual ← cosmos.int "manualThroughputRu"
  Checked.atLeast manual (cosmos.pathTo "manualThroughputRu") 400
  let autoscale ← cosmos.int "autoscaleMaxThroughputRu"
  Checked.atLeast autoscale (cosmos.pathTo "autoscaleMaxThroughputRu") 1000
  let policy ← cosmos.nonBlank "backupPolicyType"
  Checked.oneOf policy (cosmos.pathTo "backupPolicyType") backupPolicies
  let interval ← cosmos.int "periodicBackupIntervalInMinutes"
  Checked.inRange interval (cosmos.pathTo "periodicBackupIntervalInMinutes") 60 1440
  let retention ← cosmos.int "periodicBackupRetentionIntervalInHours"
  Checked.inRange retention (cosmos.pathTo "periodicBackupRetentionIntervalInHours") 8 720
  let redundancy ← cosmos.nonBlank "periodicBackupStorageRedundancy"
  Checked.oneOf redundancy (cosmos.pathTo "periodicBackupStorageRedundancy") redundancies
  let tier ← cosmos.nonBlank "continuousBackupTier"
  Checked.oneOf tier (cosmos.pathTo "continuousBackupTier") continuousTiers
  checkRetention cosmos policy interval retention
  checkRegions cosmos
  let _ ← cosmos.bool "enableAutomaticFailover"
  let _ ← cosmos.bool "enableMultipleWriteLocations"
  let _ ← cosmos.bool "disableLocalAuth"
  let _ ← cosmos.bool "disableKeyBasedMetadataWriteAccess"
  let consistency ← cosmos.nonBlank "consistencyLevel"
  Checked.oneOf consistency (cosmos.pathTo "consistencyLevel") consistencyLevels

end Validation
end NetworkPlan
