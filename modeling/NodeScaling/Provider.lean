import NodeScaling.NodeGroup

/-!
Cloud providers: what an orchestrator asks of one as a whole. A static provider serves a fixed
list of groups. A bridging provider serves the groups of another one, with the group that its
configuration names bridged to the capacity service and the others forwarded. Limits bound the
resources of a whole cluster; a resource without a least amount may go down to zero, one without a
greatest amount is unbounded.
-/
namespace NodeScaling

structure Limits where
  least : Dictionary Int64 := .empty
  greatest : Dictionary Int64 := .empty
  deriving DecidableEq

namespace Limits

/-- The greatest signed word, which stands for no bound. -/
def unbounded : Int64 := 9223372036854775807

def min (l : Limits) (resource : String) : Int64 :=
  (l.least.get? resource).getD 0

def max (l : Limits) (resource : String) : Int64 :=
  (l.greatest.get? resource).getD unbounded

def resources (l : Limits) : List String :=
  (Dictionary.ofList ((l.least.keys ++ l.greatest.keys).map fun name => (name, ()))).keys

def toJson (l : Limits) : Json :=
  .object [
    ("min_limits", .ofDictionary .ofInt64 l.least),
    ("max_limits", .ofDictionary .ofInt64 l.greatest)]

def ofJson? (j : Json) : Option Limits :=
  if j.isRecord 2 then do
    let least ← (← j.field? 0 ["min_limits"]).required? (Json.dictionary? Json.int64?)
    let greatest ← (← j.field? 1 ["max_limits"]).required? (Json.dictionary? Json.int64?)
    return { least, greatest }
  else none

end Limits

inductive PriceList

structure CloudProvider where
  name : String
  groups : List NodeGroup
  groupOf : Node → Except CloudError (Option NodeGroup)
  pricing : Except CloudError PriceList
  machineTypes : Except CloudError (List String)
  /-- A group of a machine type with labels and further resources, which is not yet created. -/
  newGroup : String → Dictionary String → Dictionary Int64 → Except CloudError NodeGroup
  limits : Except CloudError Limits
  cleanup : Except CloudError Unit
  refresh : Except CloudError Unit

structure StaticProvider where
  groups : List StaticGroup := []
  machineTypes : List String := []
  limits : Limits := {}

namespace StaticProvider

def groupOf (p : StaticProvider) (node : Node) : Option StaticGroup :=
  p.groups.find? fun g => g.contains node.providerId

def toProvider (p : StaticProvider) : CloudProvider where
  name := "static"
  groups := p.groups.map .fixed
  groupOf node := .ok ((p.groupOf node).map .fixed)
  pricing := .error (.notImplemented "pricing is not available for the static provider")
  machineTypes := .ok p.machineTypes
  newGroup machineType _ _ :=
    .error (.notImplemented ("node group autoprovisioning (" ++ machineType ++ ")"))
  limits := .ok p.limits
  cleanup := .ok ()
  refresh := .ok ()

end StaticProvider

namespace Bridge

/-- A group as the bridging provider serves it: bridged if it is the configured one. -/
def wrap (b : Bridge) (g : NodeGroup) : NodeGroup :=
  if g.id = b.config.groupId then .bridged g b else .forwarding g

def configuredGroup? (b : Bridge) (p : CloudProvider) : Option NodeGroup :=
  p.groups.find? fun g => g.id = b.config.groupId

def toProvider (b : Bridge) (p : CloudProvider) : CloudProvider where
  name := "autoscalr"
  groups := p.groups.map b.wrap
  groupOf node := (p.groupOf node).map fun found => found.map b.wrap
  pricing := p.pricing
  machineTypes := p.machineTypes
  newGroup machineType labels extra := (p.newGroup machineType labels extra).map b.wrap
  limits := p.limits
  cleanup := p.cleanup
  refresh := p.refresh

end Bridge

end NodeScaling
