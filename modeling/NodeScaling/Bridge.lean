import NodeScaling.Catalog
import NodeScaling.CheckedWord
import NodeScaling.Node
import NodeScaling.Client

/-!
The bridge between a node group and its definition at the capacity service. The group counts
nodes, the definition vCPUs; a node counts as many vCPUs as the base type has. Each operation is a
conversation in requests to the service.
-/
namespace NodeScaling

abbrev Exchange (α : Type) := Talk Request Outcome α

inductive Lookup where
  | present (definition : Definition)
  | absent
  | readFailed (cause : BridgeError)

def Lookup.isPresent : Lookup → Bool
  | present _ => true
  | _ => false

/-- The bridge between a group and its definition: the configuration of the group, and the
catalog by which nodes are counted in vCPUs. -/
structure Bridge where
  catalog : Catalog
  config : Config

namespace Bridge

/-- The vCPU difference that is sent with every removal of nodes. -/
def removalDelta : UInt32 := 1

def appType : String := "k8s"

def scaleMode : String := "fixed"

def spinUpSeconds : UInt32 := 15

def request (r : Request) : Exchange (Except BridgeError Unit) :=
  .ask r fun outcome => .done (outcome.map fun _ => ())

def lookup : Exchange Lookup :=
  .ask .get fun
    | .ok (some definition) => .done (.present definition)
    | .ok none => .done .absent
    | .error cause => .done (.readFailed cause)

def baseVcpus (b : Bridge) : Except BridgeError UInt32 :=
  b.catalog.vcpusOf b.config.baseInstanceType

/-- The number of nodes that a definition stands for, rounded down. -/
def nodesOf (b : Bridge) (definition : Definition) : Except BridgeError UInt32 := do
  return definition.targetCapacity / (← b.baseVcpus)

def targetNodes (b : Bridge) : Exchange (Except BridgeError UInt32) :=
  .ask .get fun
    | .ok (some definition) => .done (b.nodesOf definition)
    | .ok none => .done (.ok 0)
    | .error e => .done (.error e)

def raisedTarget? (current more base : UInt64) : Option UInt32 := do
  let nodes ← CheckedWord.add? current more
  let vcpus ← CheckedWord.mul? nodes base
  CheckedWord.narrow? vcpus

def targetOverflow (current : UInt32) (delta : Int64) (base : UInt32) : BridgeError :=
  .cloud (.invalidSize (toString current.toNat ++ " + " ++ toString delta.toInt ++ " nodes of " ++
    toString base.toNat ++ " vCPUs overflows the target capacity"))

def raisedTarget (b : Bridge) (current : UInt32) (delta : Int64) :
    Except BridgeError UInt32 := do
  let base ← b.baseVcpus
  match raisedTarget? current.toUInt64 delta.toUInt64 base.toUInt64 with
  | some target => .ok target
  | none => .error (targetOverflow current delta base)

def increaseBy (b : Bridge) (delta : Int64) : Exchange (Except BridgeError Unit) :=
  if delta ≤ 0 then .done (.error (.invalidDelta delta))
  else
    b.targetNodes.andThen fun current =>
      match b.raisedTarget current delta with
      | .ok target => request (.update target)
      | .error e => .done (.error e)

def removeNodes (nodes : List Node) : Exchange (Except BridgeError Unit) :=
  if nodes.isEmpty then .done (.ok ())
  else
    match instanceIds (nodes.map Node.providerId) with
    | .ok ids => request (.deleteNodes removalDelta ids)
    | .error e => .done (.error e)

/-- The vCPU target of a new definition: the one that is given in vCPUs, or else the one that is
given in nodes, or else zero. -/
def initialTarget (b : Bridge) : Except BridgeError UInt32 :=
  if b.config.targetCapacityVcpus ≠ 0 then .ok b.config.targetCapacityVcpus
  else if b.config.targetCapacityInstances ≠ 0 then
    b.baseVcpus.map (CheckedWord.saturatingMul b.config.targetCapacityInstances)
  else .ok 0

def newDefinition (b : Bridge) : Except BridgeError Definition := do
  let targetCapacity ← b.initialTarget
  let c := b.config
  return {
    groupId := c.groupId
    region := c.region
    appType := appType
    instanceTypes := c.instanceTypes
    scaleMode := scaleMode
    maxSpotPercentTotal := c.maxSpotPercentTotal
    maxSpotPercentOneMarket := c.maxSpotPercentOneMarket
    targetSpareCpuPercent := c.targetSpareCpuPercent
    targetSpareMemoryPercent := c.targetSpareMemoryPercent
    instanceSpinUpSeconds := spinUpSeconds
    displayName := c.displayName
    detailedMonitoringEnabled := c.detailedMonitoring
    enabled := true
    osFamily := c.osFamily
    maxHoursInstanceAge := c.maxHoursInstanceAge
    targetCapacity }

def provision (b : Bridge) : Exchange (Except BridgeError Unit) :=
  match b.newDefinition with
  | .ok definition => request (.create definition)
  | .error e => .done (.error e)

def teardown : Exchange (Except BridgeError Unit) :=
  request .delete

end Bridge

end NodeScaling
