import NodeScaling.Failure
import NodeScaling.Json.Printer
import NodeScaling.Json.Record

/-!
Nodes of the orchestrator and templates of nodes to come, with the records they are written as.
Labels and capacities are maps by ascending name. The instance id of the capacity service is taken
from the provider id of a node: the first seven bytes are its scheme, and what follows is a path
whose last segment is the instance id.
-/
namespace NodeScaling

structure Node where
  name : String
  providerId : String
  labels : Dictionary String := .empty
  deriving DecidableEq

structure NodeTemplate where
  name : String
  instanceType : Option String := none
  labels : Dictionary String := .empty
  capacity : Dictionary Int64 := .empty
  deriving DecidableEq

namespace Json

def ofDictionary {α : Type} (encode : α → Json) (d : Dictionary α) : Json :=
  .object (d.entries.map fun (name, value) => (name, encode value))

def dictionary? {α : Type} (decode : Json → Option α) (j : Json) : Option (Dictionary α) :=
  (j.entries? decode).map Dictionary.ofList

end Json

namespace Node

def toJson (n : Node) : Json :=
  .object [
    ("name", .string n.name),
    ("provider_id", .string n.providerId),
    ("labels", .ofDictionary .string n.labels)]

def ofJson? (j : Json) : Option Node :=
  if j.isRecord 3 then do
    let name ← (← j.field? 0 ["name"]).required? Json.string?
    let providerId ← (← j.field? 1 ["provider_id"]).required? Json.string?
    let labels ← (← j.field? 2 ["labels"]).orDefault? .empty (Json.dictionary? Json.string?)
    return { name, providerId, labels }
  else none

end Node

namespace NodeTemplate

def toJson (t : NodeTemplate) : Json :=
  .object [
    ("name", .string t.name),
    ("instance_type", (t.instanceType.map Json.string).getD .null),
    ("labels", .ofDictionary .string t.labels),
    ("capacity", .ofDictionary .ofInt64 t.capacity)]

/-- The template that a value describes. The labels and the capacity may be left out, and in an
object the instance type too. -/
def ofJson? (j : Json) : Option NodeTemplate :=
  if j.isRecord 4 then do
    let name ← (← j.field? 0 ["name"]).required? Json.string?
    let instanceType ← (← j.field? 1 ["instance_type"]).optional? Json.string?
    let labels ← (← j.field? 2 ["labels"]).orDefault? .empty (Json.dictionary? Json.string?)
    let capacity ← (← j.field? 3 ["capacity"]).orDefault? .empty (Json.dictionary? Json.int64?)
    return { name, instanceType, labels, capacity }
  else none

end NodeTemplate

/-- How many bytes of a provider id are its scheme. -/
def schemeBytes : Nat := 7

/-- The text after the given number of UTF-8 bytes, if a character ends there. -/
def dropBytes : Nat → List Char → Option (List Char)
  | 0, cs => some cs
  | _ + 1, [] => none
  | n + 1, c :: cs => if c.utf8Size ≤ n + 1 then dropBytes (n + 1 - c.utf8Size) cs else none

def lastSegment? (cs : List Char) : Option (List Char) :=
  if cs.contains '/' then some (cs.reverse.takeWhile (· ≠ '/')).reverse else none

/-- The instance id of a provider id: the segment after the last slash behind the scheme, which
must not be empty. -/
def instanceId (providerId : String) : Except BridgeError String :=
  match (dropBytes schemeBytes providerId.toList).bind lastSegment? with
  | some (c :: cs) => .ok (String.ofList (c :: cs))
  | _ => .error (.malformedProviderId providerId)

theorem instanceId_error {id : String} {e : BridgeError} (h : instanceId id = .error e) :
    e = .malformedProviderId id := by
  unfold instanceId at h
  split at h
  · contradiction
  · exact (Except.error.inj h).symm

def instanceIds : List String → Except BridgeError (List String)
  | [] => .ok []
  | p :: ps => do
    let id ← instanceId p
    let ids ← instanceIds ps
    return id :: ids

end NodeScaling
