import NodeScaling.Config
import NodeScaling.Reply
import NodeScaling.Request
import NodeScaling.Talk

/-!
The client of the capacity service. Every request is one post to one endpoint, and every response
is classified alike. What the client asks and what it makes of the responses is a conversation,
so that any service can be put on the other side: one that plays a list of responses, or one in
memory, which keeps at most one definition.
-/
namespace NodeScaling

structure Post where
  endpoint : String
  body : Json

inductive Response where
  /-- No complete response was obtained. -/
  | lost (detail : String)
  | received (status : UInt16) (body : ByteArray)

/-- The outcome of a response for payloads of a type. A missing response counts as a status of its
own. -/
def Response.classify {α : Type} (decode : Json → Option α) :
    Response → Except BridgeError (Option α)
  | lost detail => .error (.transport transportStatus detail)
  | received status body => NodeScaling.classify decode status body

/-- Whether the library can build an HTTP client, or why not in its own words. -/
abbrev HttpLibrary := Except String Unit

/-- The HTTP client that posts go through. It holds nothing, but it has to be built. -/
def httpClient (library : HttpLibrary) : Except BridgeError Unit :=
  library.mapError .clientBuild

/-- What a request leads to: the definition that was read, if any, or a failure. A request other
than a read leads to no definition. -/
abbrev Outcome := Except BridgeError (Option Definition)

structure Client where
  endpoint : String
  apiKey : String
  key : GroupKey
  deriving DecidableEq

namespace Client

def ofConfig (c : Config) : Client :=
  { endpoint := c.apiEndpoint, apiKey := c.apiKey, key := ⟨c.groupId, c.region⟩ }

def build (library : HttpLibrary) (c : Config) : Except BridgeError Client :=
  (httpClient library).map fun _ => ofConfig c

/-- What a request leads to, by the definition in its response. Only a read answers one, and one
without a group counts as none. -/
def settle (r : Request) (found : Option Definition) : Option Definition :=
  match r with
  | .get => found.filter fun d => !d.groupId.isEmpty
  | _ => none

def post (c : Client) (r : Request) : Post :=
  { endpoint := c.endpoint, body := r.envelope c.apiKey c.key }

def outcome (r : Request) (response : Response) : Outcome :=
  (applyStatusGate (response.classify Definition.ofJson?)).map (settle r)

def call (c : Client) (r : Request) : Talk Post Response Outcome :=
  .ask (c.post r) fun response => .done (outcome r response)

end Client

/-- A service that plays a list of responses, one for each post. Past the end of the list no
response is obtained, and an unreachable service never gives one. -/
structure ScriptedService where
  reachable : Bool := true
  script : List Response := []
  lostDetail : String := "connection refused"
  arrived : List Post := []

namespace ScriptedService

def answer (s : ScriptedService) (post : Post) : Response × ScriptedService :=
  if s.reachable then
    match s.script with
    | [] => (.lost s.lostDetail, { s with arrived := s.arrived ++ [post] })
    | response :: rest => (response, { s with script := rest, arrived := s.arrived ++ [post] })
  else (.lost s.lostDetail, s)

end ScriptedService

structure Store where
  definition : Option Definition := none
  failures : List (Operation × BridgeError) := []

namespace Store

def takeFirst {κ α : Type} [DecidableEq κ] (key : κ) : List (κ × α) → Option (α × List (κ × α))
  | [] => none
  | (k, x) :: queue =>
    if k = key then some (x, queue)
    else (takeFirst key queue).map fun (y, left) => (y, (k, x) :: left)

def perform (s : Store) : Request → Outcome × Store
  | .create definition => (.ok none, { s with definition := some definition })
  | .get => (.ok s.definition, s)
  | .update target =>
    let changed := s.definition.map fun d => { d with targetCapacity := target }
    (.ok none, { s with definition := changed })
  | .deleteNodes _ _ => (.ok none, s)
  | .delete => (.ok none, { s with definition := none })

def answer (s : Store) (r : Request) : Outcome × Store :=
  match takeFirst r.operation s.failures with
  | some (failure, left) => (.error failure, { s with failures := left })
  | none => s.perform r

theorem answer_of_no_failures {s : Store} (calm : s.failures = []) (r : Request) :
    s.answer r = s.perform r := by
  rw [answer, calm]
  rfl

def queueFailure (s : Store) (operation : Operation) (failure : BridgeError) : Store :=
  { s with failures := s.failures ++ [(operation, failure)] }

end Store

end NodeScaling
