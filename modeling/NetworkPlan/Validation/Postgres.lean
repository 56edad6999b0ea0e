import NetworkPlan.Validation.Checks

/-!
# The PostgreSQL section
-/

namespace NetworkPlan
namespace Validation

def postgresTiers : List String := ["Burstable", "GeneralPurpose", "MemoryOptimized"]

def checkPostgresWindow (window : Section) : Checked Unit := do
  let day ← window.int "dayOfWeek"
  let hour ← window.int "startHour"
  let minute ← window.int "startMinute"
  Checked.inRange day (window.pathTo "dayOfWeek") 0 6
  Checked.inRange hour (window.pathTo "startHour") 0 23
  Checked.inRange minute (window.pathTo "startMinute") 0 59

def checkPostgres (postgres : Section) : Checked Unit := do
  let tier ← postgres.nonBlank "skuTier"
  Checked.oneOf tier (postgres.pathTo "skuTier") postgresTiers
  let _ ← postgres.nonBlank "skuName"
  let storage ← postgres.int "storageSizeGB"
  Checked.atLeast storage (postgres.pathTo "storageSizeGB") 32
  let _ ← postgres.bool "enableStorageAutoGrow"
  let _ ← postgres.bool "enableZoneRedundantHa"
  let _ ← postgres.bool "enableGeoRedundantBackup"
  let retention ← postgres.int "backupRetentionDays"
  Checked.inRange retention (postgres.pathTo "backupRetentionDays") 7 35
  let custom ← postgres.bool "enableCustomMaintenanceWindow"
  let window ← postgres.optionalSection "maintenanceWindow" (custom == some true) windowReason
  match window with
  | some window => if custom == some true then checkPostgresWindow window
  | none => pure ()

end Validation
end NetworkPlan
