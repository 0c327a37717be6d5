import NodeScaling.Text.Blank
import NodeScaling.Text.Integer
import NodeScaling.Text.Quoted

/-!
The configuration of the bridge, the environment variables that settle it, and the failures on
the way to it.
-/
namespace NodeScaling

structure Config where
  groupId : String
  region : String
  apiKey : String
  displayName : String
  maxSpotPercentTotal : UInt32
  maxSpotPercentOneMarket : UInt32
  detailedMonitoring : Bool
  /-- The greatest age of an instance in hours; zero is no limit. -/
  maxHoursInstanceAge : UInt32
  /-- The allowed instance types; the first is the base type. -/
  instanceTypes : List String
  targetCapacityVcpus : UInt32
  targetCapacityInstances : UInt32
  targetSpareCpuPercent : UInt32
  targetSpareMemoryPercent : UInt32
  osFamily : String
  apiEndpoint : String
  clusterStateEndpoint : String
  deriving DecidableEq

namespace Config

/-- The type by whose vCPUs nodes are counted: the first one, or nothing. -/
def baseInstanceType (c : Config) : String :=
  c.instanceTypes.headD ""

def redacted : String := "<redacted>"

def inspected (c : Config) : String :=
  let fields : List (String × String) := [
    ("group_id", Text.quoted c.groupId),
    ("region", Text.quoted c.region),
    ("api_key", Text.quoted redacted),
    ("display_name", Text.quoted c.displayName),
    ("max_spot_percent_total", toString c.maxSpotPercentTotal.toNat),
    ("max_spot_percent_one_market", toString c.maxSpotPercentOneMarket.toNat),
    ("detailed_monitoring", toString c.detailedMonitoring),
    ("max_hours_instance_age", toString c.maxHoursInstanceAge.toNat),
    ("instance_types", Text.quotedList c.instanceTypes),
    ("target_capacity_vcpus", toString c.targetCapacityVcpus.toNat),
    ("target_capacity_instances", toString c.targetCapacityInstances.toNat),
    ("target_spare_cpu_percent", toString c.targetSpareCpuPercent.toNat),
    ("target_spare_memory_percent", toString c.targetSpareMemoryPercent.toNat),
    ("os_family", Text.quoted c.osFamily),
    ("api_endpoint", Text.quoted c.apiEndpoint),
    ("cluster_state_endpoint", Text.quoted c.clusterStateEndpoint)]
  Text.inspectedRecord "BridgeConfig" fields

end Config

inductive Variable where
  | groupId
  | region
  | apiKey
  | displayName
  | maxSpotPercentTotal
  | maxSpotPercentOneMarket
  | detailedMonitoring
  | maxHoursInstanceAge
  | instanceTypes
  | targetCapacityVcpus
  | targetCapacityInstances
  | targetSpareCpuPercent
  | targetSpareMemoryPercent
  | osFamily
  | apiEndpoint
  | clusterStateEndpoint
  deriving DecidableEq, Repr

def Variable.name : Variable → String
  | groupId => "AUTOSCALING_GROUP_NAME"
  | region => "AWS_REGION"
  | apiKey => "AUTOSCALR_API_KEY"
  | displayName => "DISPLAY_NAME"
  | maxSpotPercentTotal => "MAX_SPOT_PERCENT_TOTAL"
  | maxSpotPercentOneMarket => "MAX_SPOT_PERCENT_ONE_MARKET"
  | detailedMonitoring => "DETAILED_MONITORING_ENABLED"
  | maxHoursInstanceAge => "MAX_HOURS_INSTANCE_AGE"
  | instanceTypes => "INSTANCE_TYPES"
  | targetCapacityVcpus => "TARGET_CAPACITY_VCPUS"
  | targetCapacityInstances => "TARGET_CAPACITY_INSTANCES"
  | targetSpareCpuPercent => "TARGET_SPARE_CPU_PERCENT"
  | targetSpareMemoryPercent => "TARGET_SPARE_MEMORY_PERCENT"
  | osFamily => "OS_FAMILY"
  | apiEndpoint => "AUTOSCALR_API_URL"
  | clusterStateEndpoint => "AUTOSCALR_CLUSTER_STATE_URL"

inductive ValueFault where
  | number (fault : Text.IntegerFault)
  | truthValue
  | percentage
  deriving DecidableEq, Repr

def ValueFault.message : ValueFault → String
  | .number fault => fault.message
  | .truthValue => "expected a boolean"
  | .percentage => "percentage must be between 0 and 100"

inductive ConfigError where
  | missingValue (setting : Variable)
  | invalidValue (setting : Variable) (value : String) (fault : ValueFault)
  | fileNotFound (path : String)
  | yaml (detail : String)
  | io (detail : String)
  deriving DecidableEq, Repr

def ConfigError.message : ConfigError → String
  | .missingValue v => "Missing required setting: " ++ v.name
  | .invalidValue v value fault =>
    "Invalid value for " ++ v.name ++ ": " ++ Text.quoted value ++ " (" ++ fault.message ++ ")"
  | .fileNotFound path => "Config file not found: " ++ path
  | .yaml detail => "YAML error: " ++ detail
  | .io detail => "IO error: " ++ detail

end NodeScaling
