import NodeScaling.Json.Reader
import NodeScaling.Json.Record
import NodeScaling.Json.Printer
import NodeScaling.Failure

/-!
Replies of the capacity service. The service may report an error inside a response of status 200,
so a body is first read as an error and, if it carries no message, as the expected payload. A
body that is neither counts as an empty success.
-/
namespace NodeScaling

structure ServiceError where
  message : String
  code : String
  deriving DecidableEq

inductive Reply (α : Type) where
  | success (payload : α)
  | failure (error : ServiceError)
  | unrecognized
  deriving DecidableEq

namespace ServiceError

/-- The code of an error as text: a text as it is, null as the empty text, any other value by its
compact text. -/
def codeText : Json → String
  | .null => ""
  | .string s => s
  | other => other.text

def ofJson? (j : Json) : Option ServiceError :=
  if j.isRecord 2 then do
    let message ← (← j.field? 0 ["errorMessage"]).orDefault? "" (Json.orNull? "" Json.string?)
    let code ← (← j.field? 1 ["code"]).orDefault? "" fun value => some (codeText value)
    return { message, code }
  else none

/-- The error that a body reports: the one under `error`, unless its message is empty. -/
def reported? (body : Json) : Option ServiceError := do
  if body.isRecord 1 then
    let slot ← body.field? 0 ["error"]
    let error ← slot.orDefault? none (Json.orNull? none fun value => (ofJson? value).map some)
    error.filter fun e => !e.message.isEmpty
  else none

end ServiceError

namespace Reply

def bodyValue? (body : ByteArray) : Option Json :=
  (Json.readBytes? body).bind (Json.canonical? Json.levelLimit)

def ofBody {α : Type} (decode : Json → Option α) (body : ByteArray) : Reply α :=
  match bodyValue? body with
  | none => unrecognized
  | some value =>
    match ServiceError.reported? value with
    | some error => failure error
    | none =>
      match decode value with
      | some payload => success payload
      | none => unrecognized

end Reply

/-- The outcome of a response: any status but 200 is a failure, and so is a reported error; a
body that is not recognised is a success without payload. -/
def classify {α : Type} (decode : Json → Option α) (status : UInt16) (body : ByteArray) :
    Except BridgeError (Option α) :=
  if status ≠ 200 then
    .error (.httpStatus status ("AutoScalr API returned: " ++ toString status.toNat))
  else
    match Reply.ofBody decode body with
    | .success payload => .ok (some payload)
    | .failure error => .error (.remote error.message error.code)
    | .unrecognized => .ok none

/-- A failure as callers see it: a status above 400 is reported in general words. A missing
response keeps its own words, whatever status it carries. -/
def BridgeError.gated : BridgeError → BridgeError
  | .httpStatus status message =>
    if 400 < status then
      .httpStatus status ("AutoScalr API returned status code: " ++ toString status.toNat)
    else .httpStatus status message
  | other => other

def applyStatusGate {α : Type} (outcome : Except BridgeError α) : Except BridgeError α :=
  outcome.mapError BridgeError.gated

end NodeScaling
