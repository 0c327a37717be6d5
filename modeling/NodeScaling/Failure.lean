import NodeScaling.Text.Quoted

/-!
The failures of the bridge and of the cloud provider contract. Each may wrap one of the other
kind. The wording of every failure is fixed here, in `message`.
-/
namespace NodeScaling

mutual

inductive BridgeError where
  /-- No response was obtained. -/
  | transport (status : UInt16) (detail : String)
  | httpStatus (status : UInt16) (message : String)
  | remote (message : String) (code : String)
  | unknownInstanceType (name : String)
  | malformedProviderId (id : String)
  | invalidDelta (delta : Int64)
  | clientBuild (detail : String)
  | json (detail : String)
  | cloud (inner : CloudError)

inductive CloudError where
  | nodeGroupNotFound (name : String)
  | nodeNotFound (name : String)
  | notImplemented (what : String)
  | invalidSize (reason : String)
  | invalidConfig (reason : String)
  | apiError (reason : String)
  | provider (inner : BridgeError)
  /-- A failure of a provider behind the contract that is not this bridge. -/
  | foreign (message : String)
  | json (detail : String)

end

/-- The status of an exchange that got no response. -/
def transportStatus : UInt16 := 500

mutual

def BridgeError.message : BridgeError → String
  | .transport _ detail => "AutoScalr API request failed: " ++ detail
  | .httpStatus _ message => message
  | .remote message _ => "Error response: " ++ message
  | .unknownInstanceType name => "Unknown instance type: " ++ Text.quoted name
  | .malformedProviderId id => "Malformed provider id: " ++ Text.quoted id
  | .invalidDelta delta => "Size delta must be positive, got " ++ toString delta.toInt
  | .clientBuild detail => "Failed to build HTTP client: " ++ detail
  | .json detail => "JSON error: " ++ detail
  | .cloud inner => "Cloud error: " ++ inner.message

def CloudError.message : CloudError → String
  | .nodeGroupNotFound name => "Node group not found: " ++ name
  | .nodeNotFound name => "Node not found: " ++ name
  | .notImplemented what => "Not implemented: " ++ what
  | .invalidSize reason => "Invalid size: " ++ reason
  | .invalidConfig reason => "Invalid configuration: " ++ reason
  | .apiError reason => "API error: " ++ reason
  | .provider inner => inner.message
  | .foreign message => message
  | .json detail => "JSON error: " ++ detail

end

@[simp] theorem BridgeError.message_cloud (inner : CloudError) :
    (BridgeError.cloud inner).message = "Cloud error: " ++ inner.message := rfl

@[simp] theorem CloudError.message_provider (inner : BridgeError) :
    (CloudError.provider inner).message = inner.message := rfl

namespace BridgeError

def status? : BridgeError → Option UInt16
  | transport status _ => some status
  | httpStatus status _ => some status
  | remote _ _ => some 200
  | _ => none

def isRemote : BridgeError → Bool
  | transport _ _ => true
  | httpStatus _ _ => true
  | remote _ _ => true
  | _ => false

/-- The failure as the cloud contract reports it: a wrapped cloud failure comes out again, any
other is wrapped. -/
def toCloud : BridgeError → CloudError
  | cloud inner => inner
  | other => .provider other

end BridgeError

def CloudError.bridgeError? : CloudError → Option BridgeError
  | .provider inner => some inner
  | _ => none

end NodeScaling
