import NodeScaling.Json.Record
import NodeScaling.Json.Printer

/-!
The application definition: the record in which the capacity service keeps the scaling of one
node group. It is written as an object with its fields in a fixed order. On reading, every field
may be left out or null, which stands for its zero value, and unknown members are passed over.
-/
namespace NodeScaling

/-- The scaling configuration of one node group, with its capacity target in vCPUs. -/
structure Definition where
  groupId : String := ""
  region : String := ""
  appType : String := ""
  instanceTypes : List String := []
  scaleMode : String := ""
  maxSpotPercentTotal : UInt32 := 0
  maxSpotPercentOneMarket : UInt32 := 0
  targetSpareCpuPercent : UInt32 := 0
  clusterName : String := ""
  targetSpareMemoryPercent : UInt32 := 0
  queueName : String := ""
  targetQueueSize : UInt32 := 0
  instanceSpinUpSeconds : UInt32 := 0
  maxMinutesToTargetQueueSize : UInt32 := 0
  displayName : String := ""
  detailedMonitoringEnabled : Bool := false
  enabled : Bool := false
  osFamily : String := ""
  maxHoursInstanceAge : UInt32 := 0
  targetCapacity : UInt32 := 0
  deriving DecidableEq

namespace Definition

def fieldCount : Nat := 20

def toJson (d : Definition) : Json :=
  .object [
    ("aws_autoscaling_group_name", .string d.groupId),
    ("aws_region", .string d.region),
    ("AppType", .string d.appType),
    ("instance_types", .ofStrings d.instanceTypes),
    ("scale_mode", .string d.scaleMode),
    ("max_spot_percent_total", .ofUInt32 d.maxSpotPercentTotal),
    ("max_spot_percent_one_market", .ofUInt32 d.maxSpotPercentOneMarket),
    ("target_spare_cpu_percent", .ofUInt32 d.targetSpareCpuPercent),
    ("cluster_name", .string d.clusterName),
    ("target_spare_memory_percent", .ofUInt32 d.targetSpareMemoryPercent),
    ("queue_name", .string d.queueName),
    ("target_queue_size", .ofUInt32 d.targetQueueSize),
    ("instance_spin_up_seconds", .ofUInt32 d.instanceSpinUpSeconds),
    ("max_minutes_to_target_queue_size", .ofUInt32 d.maxMinutesToTargetQueueSize),
    ("display_name", .string d.displayName),
    ("detailed_monitoring_enabled", .bool d.detailedMonitoringEnabled),
    ("autoscalr_enabled", .bool d.enabled),
    ("os_family", .string d.osFamily),
    ("max_hours_instance_age", .ofUInt32 d.maxHoursInstanceAge),
    ("target_capacity", .ofUInt32 d.targetCapacity)]

def zeroField? {α : Type} (j : Json) (place : Nat) (names : List String) (zero : α)
    (decode : Json → Option α) : Option α := do
  let slot ← j.field? place names
  slot.orDefault? zero (Json.orNull? zero decode)

def textField? (j : Json) (place : Nat) (names : List String) : Option String :=
  zeroField? j place names "" Json.string?

def countField? (j : Json) (place : Nat) (name : String) : Option UInt32 :=
  zeroField? j place [name] 0 Json.uint32?

def flagField? (j : Json) (place : Nat) (name : String) : Option Bool :=
  zeroField? j place [name] false Json.bool?

def ofJson? (j : Json) : Option Definition :=
  if j.isRecord fieldCount then do
    let groupId ← textField? j 0 ["aws_autoscaling_group_name"]
    let region ← textField? j 1 ["aws_region"]
    let appType ← textField? j 2 ["AppType", "app_type"]
    let instanceTypes ← zeroField? j 3 ["instance_types"] [] (Json.list? Json.string?)
    let scaleMode ← textField? j 4 ["scale_mode"]
    let maxSpotPercentTotal ← countField? j 5 "max_spot_percent_total"
    let maxSpotPercentOneMarket ← countField? j 6 "max_spot_percent_one_market"
    let targetSpareCpuPercent ← countField? j 7 "target_spare_cpu_percent"
    let clusterName ← textField? j 8 ["cluster_name"]
    let targetSpareMemoryPercent ← countField? j 9 "target_spare_memory_percent"
    let queueName ← textField? j 10 ["queue_name"]
    let targetQueueSize ← countField? j 11 "target_queue_size"
    let instanceSpinUpSeconds ← countField? j 12 "instance_spin_up_seconds"
    let maxMinutesToTargetQueueSize ← countField? j 13 "max_minutes_to_target_queue_size"
    let displayName ← textField? j 14 ["display_name"]
    let detailedMonitoringEnabled ← flagField? j 15 "detailed_monitoring_enabled"
    let enabled ← flagField? j 16 "autoscalr_enabled"
    let osFamily ← textField? j 17 ["os_family"]
    let maxHoursInstanceAge ← countField? j 18 "max_hours_instance_age"
    let targetCapacity ← countField? j 19 "target_capacity"
    return { groupId, region, appType, instanceTypes, scaleMode, maxSpotPercentTotal,
             maxSpotPercentOneMarket, targetSpareCpuPercent, clusterName,
             targetSpareMemoryPercent, queueName, targetQueueSize, instanceSpinUpSeconds,
             maxMinutesToTargetQueueSize, displayName, detailedMonitoringEnabled,
             enabled, osFamily, maxHoursInstanceAge, targetCapacity }
  else none

end Definition

end NodeScaling
