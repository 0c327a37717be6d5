import NodeScaling.Config

/-!
Settings: a configuration of which any part may be missing. They come from a file, environment
variables are laid over them, and `resolve` makes a configuration of them or says what is missing
or out of range.
-/
namespace NodeScaling.Settings

def cleaned (texts : List String) : List String :=
  (texts.map Text.trim).filter fun t => !t.isEmpty

def splitTypes (s : String) : List String :=
  cleaned ((s.toList.splitOn ',').map String.ofList)

end NodeScaling.Settings

namespace NodeScaling

structure Settings where
  groupId : Option String := none
  region : Option String := none
  apiKey : Option String := none
  displayName : Option String := none
  maxSpotPercentTotal : Option UInt32 := none
  maxSpotPercentOneMarket : Option UInt32 := none
  detailedMonitoring : Option Bool := none
  maxHoursInstanceAge : Option UInt32 := none
  instanceTypes : Option (List String) := none
  targetCapacityVcpus : Option UInt32 := none
  targetCapacityInstances : Option UInt32 := none
  targetSpareCpuPercent : Option UInt32 := none
  targetSpareMemoryPercent : Option UInt32 := none
  osFamily : Option String := none
  apiEndpoint : Option String := none
  clusterStateEndpoint : Option String := none
  deriving DecidableEq

abbrev Environment := String → Option String

def Environment.value? (env : Environment) (v : Variable) : Option String :=
  (env v.name).filter fun value => !Text.isBlankText value

theorem Environment.ink_of_value {env : Environment} {v : Variable} {text : String}
    (set : env.value? v = some text) : Text.isBlankText text = false := by
  have kept := (Option.filter_eq_some_iff.mp set).2
  simpa using kept

namespace Settings

def defaultApiEndpoint : String := "https://app.autoscalr.com/api/autoScalrApp"

def defaultClusterStateEndpoint : String := "https://api.autoscalr.com/v1/k8sClusterState"

def readTruth? (s : String) : Option Bool :=
  let word := (Text.trim s).toList.map Char.toLower
  if ["1", "t", "true"].contains (String.ofList word) then some true
  else if ["0", "f", "false"].contains (String.ofList word) then some false
  else none

def number (v : Variable) (value : String) : Except ConfigError UInt32 :=
  (Text.readUInt32 (Text.trim value)).mapError fun fault => .invalidValue v value (.number fault)

def truth (v : Variable) (value : String) : Except ConfigError Bool :=
  match readTruth? value with
  | some b => .ok b
  | none => .error (.invalidValue v value .truthValue)

/-- One step of laying the environment over settings: a variable that is set is read and put
into its field; one that is not leaves the settings as they are. -/
def overlayField {α : Type} (env : Environment) (v : Variable)
    (read : Variable → String → Except ConfigError α) (put : Settings → α → Settings)
    (s : Settings) : Except ConfigError Settings :=
  match env.value? v with
  | none => .ok s
  | some value => (read v value).map (put s)

def overlayTexts (env : Environment) (s : Settings) : Settings :=
  let pick (v : Variable) (current : Option String) :=
    ((env.value? v).map Text.trim).orElse fun _ => current
  { s with
    groupId := pick .groupId s.groupId
    region := pick .region s.region
    apiKey := pick .apiKey s.apiKey
    displayName := pick .displayName s.displayName
    osFamily := pick .osFamily s.osFamily
    apiEndpoint := pick .apiEndpoint s.apiEndpoint
    clusterStateEndpoint := pick .clusterStateEndpoint s.clusterStateEndpoint }

def overlaySteps (env : Environment) : List (Settings → Except ConfigError Settings) := [
  overlayField env .maxSpotPercentTotal number fun s n => { s with maxSpotPercentTotal := n },
  overlayField env .maxSpotPercentOneMarket number
    fun s n => { s with maxSpotPercentOneMarket := n },
  overlayField env .maxHoursInstanceAge number fun s n => { s with maxHoursInstanceAge := n },
  overlayField env .targetCapacityVcpus number fun s n => { s with targetCapacityVcpus := n },
  overlayField env .targetCapacityInstances number
    fun s n => { s with targetCapacityInstances := n },
  overlayField env .targetSpareCpuPercent number fun s n => { s with targetSpareCpuPercent := n },
  overlayField env .targetSpareMemoryPercent number
    fun s n => { s with targetSpareMemoryPercent := n },
  overlayField env .detailedMonitoring truth fun s b => { s with detailedMonitoring := b },
  overlayField env .instanceTypes (fun _ value => .ok (splitTypes value))
    fun s types => { s with instanceTypes := types }]

/-- Takes steps up to the first that fails. The settings that were reached are answered in any
case, and with them the failure. -/
def takeSteps : List (Settings → Except ConfigError Settings) → Settings →
    Settings × Option ConfigError
  | [], s => (s, none)
  | step :: steps, s =>
    match step s with
    | .ok s => takeSteps steps s
    | .error e => (s, some e)

/-- Lays the environment over settings. Variables that are not set or blank change nothing. On a
failure the settings are answered as they stood before the faulty variable. -/
def overlay (env : Environment) (s : Settings) : Settings × Option ConfigError :=
  takeSteps (overlaySteps env) (overlayTexts env s)

def overlaid (env : Environment) (s : Settings) : Except ConfigError Settings :=
  match overlay env s with
  | (s, none) => .ok s
  | (_, some e) => .error e

def required (v : Variable) (value : Option String) : Except ConfigError String :=
  match value.filter fun t => !Text.isBlankText t with
  | some t => .ok t
  | none => .error (.missingValue v)

def percent (v : Variable) (value : Option UInt32) : Except ConfigError UInt32 :=
  let n := value.getD 0
  if 100 < n then .error (.invalidValue v (toString n.toNat) .percentage) else .ok n

/-- The configuration that settings describe. There has to be an instance type that is not blank,
then a group, a region and an API key, and then the percentages have to be in range. -/
def resolve (s : Settings) : Except ConfigError Config := do
  let instanceTypes := cleaned (s.instanceTypes.getD [])
  if instanceTypes.isEmpty then
    throw (.missingValue .instanceTypes)
  let groupId ← required .groupId s.groupId
  let region ← required .region s.region
  let apiKey ← required .apiKey s.apiKey
  let maxSpotPercentTotal ← percent .maxSpotPercentTotal s.maxSpotPercentTotal
  let maxSpotPercentOneMarket ← percent .maxSpotPercentOneMarket s.maxSpotPercentOneMarket
  let targetSpareCpuPercent ← percent .targetSpareCpuPercent s.targetSpareCpuPercent
  let targetSpareMemoryPercent ← percent .targetSpareMemoryPercent s.targetSpareMemoryPercent
  return {
    groupId, region, apiKey
    displayName := s.displayName.getD ""
    maxSpotPercentTotal, maxSpotPercentOneMarket
    detailedMonitoring := s.detailedMonitoring.getD false
    maxHoursInstanceAge := s.maxHoursInstanceAge.getD 0
    instanceTypes
    targetCapacityVcpus := s.targetCapacityVcpus.getD 0
    targetCapacityInstances := s.targetCapacityInstances.getD 0
    targetSpareCpuPercent, targetSpareMemoryPercent
    osFamily := s.osFamily.getD ""
    apiEndpoint := s.apiEndpoint.getD defaultApiEndpoint
    clusterStateEndpoint := s.clusterStateEndpoint.getD defaultClusterStateEndpoint }

end Settings

namespace Config

def ofEnvironment (env : Environment) : Except ConfigError Config := do
  (← Settings.overlaid env {}).resolve

end Config

end NodeScaling
