import NodeScaling.Client
import NodeScaling.Json.Printer

/-!
Cluster state reports. A snapshot of the deployments and nodes of the cluster is posted to an
endpoint of its own, under the group and region of the configuration. Any body acknowledges it,
as long as it reports no error.
-/
namespace NodeScaling

structure Snapshot where
  deployments : List Json := []
  nodes : List Json := []

structure ClusterState where
  apiKey : String
  region : String
  groupId : String
  snapshot : Snapshot

namespace Snapshot

/-- How many levels of arrays and objects an element may have: two are around it. -/
def elementLevels : Nat := Json.levelLimit - 2

def elements? : Json → Option (List Json)
  | .array xs => xs.mapM (Json.canonical? elementLevels)
  | _ => none

def ofJson? (j : Json) : Option Snapshot :=
  if j.isRecord 2 then do
    let deployments ← (← j.field? 0 ["deployments"]).orDefault? [] elements?
    let nodes ← (← j.field? 1 ["nodes"]).orDefault? [] elements?
    return { deployments, nodes }
  else none

def read? (s : String) : Option Snapshot :=
  (Json.read? s).bind ofJson?

end Snapshot

namespace ClusterState

def ofSnapshot (c : Config) (s : Snapshot) : ClusterState :=
  { apiKey := c.apiKey, region := c.region, groupId := c.groupId, snapshot := s }

def toJson (s : ClusterState) : Json :=
  .object [
    ("api_key", .string s.apiKey),
    ("AwsRegion", .string s.region),
    ("AutoScalingGroupName", .string s.groupId),
    ("deployments", .array s.snapshot.deployments),
    ("nodes", .array s.snapshot.nodes)]

def inspected (s : ClusterState) : String :=
  Text.inspectedRecord "ClusterState" [
    ("api_key", Text.quoted Config.redacted),
    ("region", Text.quoted s.region),
    ("group_id", Text.quoted s.groupId),
    ("deployments", Text.inspectedList (s.snapshot.deployments.map Json.inspected)),
    ("nodes", Text.inspectedList (s.snapshot.nodes.map Json.inspected))]

/-- A failure to report, with an unexpected status in the words of this endpoint. -/
def reworded : BridgeError → BridgeError
  | .httpStatus status _ =>
    .httpStatus status ("k8sClusterStateAPI returned: " ++ toString status.toNat)
  | other => other

def outcome (response : Response) : Except BridgeError UInt16 :=
  match response.classify some with
  | .ok _ => .ok 200
  | .error e => .error (reworded e)

def endpoint (library : HttpLibrary) (c : Config) : Except BridgeError String :=
  (httpClient library).map fun _ => c.clusterStateEndpoint

def report (endpoint : String) (s : ClusterState) :
    Talk Post Response (Except BridgeError UInt16) :=
  .ask { endpoint, body := s.toJson } fun response => .done (outcome response)

end ClusterState

end NodeScaling
