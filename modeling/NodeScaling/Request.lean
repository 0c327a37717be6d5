import NodeScaling.Definition

/-!
The five requests to the capacity service. Each is sent as one object: the API key, the name of
the operation and a payload narrowed to that operation.
-/
namespace NodeScaling

inductive Operation where
  | create
  | get
  | update
  | deleteNodes
  | delete
  deriving DecidableEq, Repr

def Operation.name : Operation → String
  | create => "Create"
  | get => "Get"
  | update => "Update"
  | deleteNodes => "DeleteAppNodes"
  | delete => "Delete"

inductive Request where
  | create (definition : Definition)
  | get
  /-- Set the target capacity, in vCPUs. -/
  | update (target : UInt32)
  | deleteNodes (delta : UInt32) (ids : List String)
  | delete
  deriving DecidableEq

structure GroupKey where
  groupId : String
  region : String
  deriving DecidableEq

namespace Request

def operation : Request → Operation
  | create _ => .create
  | get => .get
  | update _ => .update
  | deleteNodes _ _ => .deleteNodes
  | delete => .delete

def keyMembers (key : GroupKey) : List (String × Json) :=
  [("aws_autoscaling_group_name", .string key.groupId), ("aws_region", .string key.region)]

/-- The payload of a request. A definition names its own group and region. -/
def payload (key : GroupKey) : Request → Json
  | create definition => definition.toJson
  | get => .object (keyMembers key)
  | update target => .object (keyMembers key ++ [("target_capacity", .ofUInt32 target)])
  | deleteNodes delta ids =>
    .object (keyMembers key ++
      [("delta_vcpu", .ofUInt32 delta), ("nodes_to_delete", .ofStrings ids)])
  | delete => .object (keyMembers key)

def envelope (apiKey : String) (key : GroupKey) (r : Request) : Json :=
  .object [
    ("api_key", .string apiKey),
    ("request_type", .string r.operation.name),
    ("autoscalr_app_def", r.payload key)]

def wireText (apiKey : String) (key : GroupKey) (r : Request) : String :=
  (r.envelope apiKey key).text

end Request

end NodeScaling
