import NetworkPlan.Validation.Checks

/-!
# The Redis section

Most rules tie members together: zones go with a user defined policy, and that policy, geo
replication and backups go with the premium product.
-/

namespace NetworkPlan
namespace Validation

def redisProducts : List String := ["Basic", "Standard", "Premium"]

def scaleStrategies : List String := ["vertical", "horizontal"]

def zonalPolicies : List String := ["Automatic", "NoZones", "UserDefined"]

def zoneNames : List String := ["1", "2", "3"]

/-- The minutes that may lie between two backups. -/
def backupIntervals : List Int := [15, 30, 60, 360, 720, 1440]

/-- The capacity that each product allows. -/
def checkCapacity (redis : Section) (product : Option String) (capacity : Option Int) :
    Checked Unit :=
  let path := redis.pathTo "capacity"
  match capacity with
  | none => pure ()
  | some capacity =>
      if (product = some "Basic" ∨ product = some "Standard") ∧ ¬ (0 ≤ capacity ∧ capacity ≤ 6) then
        Checked.report path "must be between 0 and 6 for Basic/Standard"
      else if product = some "Premium" ∧ ¬ (1 ≤ capacity ∧ capacity ≤ 6) then
        Checked.report path "must be between 1 and 6 for Premium"
      else pure ()

/-- The name of a zone. -/
def checkZoneName (value : Option Json) (path : String) : Checked Unit :=
  let failure := Checked.report path "must be '1', '2' or '3'"
  match value with
  | some (.string zone) => if zoneNames.contains zone then pure () else failure
  | _ => failure

/-- The zones; gives their number. -/
def checkZones (redis : Section) : Checked Nat :=
  let path := redis.pathTo "zones"
  match redis.get? "zones" with
  | some (.array zones) => do
      Checked.eachItem checkZoneName path 0 zones
      return zones.length
  | _ => do
      Checked.report path "must be an array of zone numbers (empty when unset)"
      return 0

/-- Zones are given exactly with a user defined policy, which only the premium product has. -/
def checkZonalPolicy (redis : Section) (policy : Option String) (premium : Bool) (zones : Nat) :
    Checked Unit :=
  let path := redis.pathTo "zones"
  if policy = some "UserDefined" then do
    if !premium then
      Checked.report (redis.pathTo "zonalAllocationPolicy")
        "UserDefined is only allowed with skuName Premium"
    if zones = 0 then
      Checked.report path "needs at least one zone when zonalAllocationPolicy is UserDefined"
  else if 0 < zones then
    Checked.report path "only allowed when zonalAllocationPolicy is UserDefined"
  else pure ()

/-- Geo replication needs the premium product and exactly one replica. -/
def checkReplication (redis : Section) (premium : Bool) (replicas : Option Int) : Checked Unit := do
  if !premium then
    Checked.report (redis.pathTo "enableGeoReplication")
      "true is only allowed with skuName Premium"
  match replicas with
  | some n =>
      if n ≠ 1 then
        Checked.report (redis.pathTo "replicasPerMaster")
          "must be 1 when enableGeoReplication is true"
  | none => pure ()

/-- A duration in hours starts with `PT` and ends with `H`. -/
def isHourDuration (value : Option Json) : Bool :=
  match value with
  | some (.string text) =>
      "PT".toList.isPrefixOf text.toList && "H".toList.isSuffixOf text.toList
  | _ => false

def checkRedisWindow (window : Section) : Checked Unit := do
  let day ← window.int "dayOfWeek"
  let hour ← window.int "startHour"
  Checked.inRange day (window.pathTo "dayOfWeek") 0 6
  Checked.inRange hour (window.pathTo "startHour") 0 23
  if !isHourDuration (window.get? "duration") then
    Checked.report (window.pathTo "duration") "must be an ISO 8601 duration in hours (e.g. PT5H)"

/-- Backups; a premium product with backups on needs a place for them. -/
def checkBackups (redis : Section) (premium : Bool) : Checked Unit := do
  let backup ← redis.bool "enableRdbBackup"
  let frequency ← redis.int "rdbBackupFrequencyInMinutes"
  let snapshots ← redis.int "rdbBackupMaxSnapshotCount"
  let connection ← redis.string "rdbStorageConnectionString" ""
  match frequency with
  | some n =>
      if !backupIntervals.contains n then
        Checked.report (redis.pathTo "rdbBackupFrequencyInMinutes")
          "must be one of 15 / 30 / 60 / 360 / 720 / 1440"
  | none => pure ()
  Checked.atLeast snapshots (redis.pathTo "rdbBackupMaxSnapshotCount") 1
  match connection with
  | some text =>
      if backup = some true ∧ premium = true ∧ (Text.nonBlank? text).isNone then
        Checked.report (redis.pathTo "rdbStorageConnectionString")
          "must name the backup storage when enableRdbBackup is true"
  | none => pure ()

def checkRedis (redis : Section) : Checked Unit := do
  let product ← redis.nonBlank "skuName"
  Checked.oneOf product (redis.pathTo "skuName") redisProducts
  let premium := product == some "Premium"
  let capacity ← redis.int "capacity"
  Checked.atLeast capacity (redis.pathTo "capacity") 0
  let shards ← redis.int "shardCount"
  Checked.atLeast shards (redis.pathTo "shardCount") 1
  let strategy ← redis.nonBlank "scaleStrategy"
  Checked.oneOf strategy (redis.pathTo "scaleStrategy") scaleStrategies
  checkCapacity redis product capacity
  let policy ← redis.nonBlank "zonalAllocationPolicy"
  Checked.oneOf policy (redis.pathTo "zonalAllocationPolicy") zonalPolicies
  let zones ← checkZones redis
  let replicas ← redis.int "replicasPerMaster"
  Checked.atLeast replicas (redis.pathTo "replicasPerMaster") 0
  let replication ← redis.bool "enableGeoReplication"
  let entra ← redis.bool "enableMicrosoftEntraAuthentication"
  let keysDisabled ← redis.bool "disableAccessKeyAuthentication"
  checkZonalPolicy redis policy premium zones
  if replication = some true then checkReplication redis premium replicas
  if keysDisabled = some true ∧ entra = some false then
    Checked.report (redis.pathTo "disableAccessKeyAuthentication")
      "true requires enableMicrosoftEntraAuthentication to be true"
  let custom ← redis.bool "enableCustomMaintenanceWindow"
  let window ← redis.optionalSection "maintenanceWindow" (custom == some true) windowReason
  match window with
  | some window => if custom == some true then checkRedisWindow window
  | none => pure ()
  checkBackups redis premium

end Validation
end NetworkPlan
