import EngineGateway.Backend.Basic
import EngineGateway.Json.Printer
import EngineGateway.Json.Writable
import EngineGateway.Name
import EngineGateway.Rest.Bracket
import EngineGateway.Text.Octets
import EngineGateway.Text.Upper
import EngineGateway.Text.Wide

/-!
# Directly over HTTP

The backend that speaks an engine's own protocol and so reaches engines of every generation. Each
name becomes one segment of a path: what could end the segment is percent-encoded. Commas and
asterisks stay in the names of indices, where they select several.
-/

namespace EngineGateway.Rest

/-- What comes back over HTTP: an answer with its status and octets, or trouble on the way. -/
inductive Answer where
  | failed (kind text : Text)
  | answered (status : Status) (octets : List UInt8)

/-- A request as it is asked for. -/
structure Plan where
  method : Json
  path : Json
  body : Json := .null
  parameters : Json := .null

/-- A request by a method to a path. -/
def planFor (method path : String) : Plan := { method := .str method, path := .str path }

/-- The parameters with one parameter, if it is given. -/
def parameterIf (given : Bool) (name : String) (value : Json) : Json :=
  if given then .obj [(name, value)] else .null

/-- The method, path, body and parameters of a call, unless a name in it is no segment. There is
none for the question whether a pipeline exists, which only client libraries know. -/
def plan : Call → Except Failure Plan
  | .info => .ok (planFor "GET" "/")
  | .createIndex index body => do
    return { planFor "PUT" ("/" ++ (← indexSegment index)) with body }
  | .indexExists index => do return planFor "HEAD" ("/" ++ (← indexSegment index))
  | .deleteIndex index => do return planFor "DELETE" ("/" ++ (← indexSegment index))
  | .health index hold => do
    return { planFor "GET" ("/_cluster/health/" ++ (← indexSegment index)) with
      parameters := parameterIf (!hold.isNull) "timeout" hold }
  | .refresh index => do return planFor "POST" ("/" ++ (← indexSegment index) ++ "/_refresh")
  | .writeDocument index id document pipeline => do
    return { planFor "PUT" ("/" ++ (← indexSegment index) ++ "/_doc/" ++ (← segment id)) with
      body := document
      parameters := parameterIf pipeline.truthy "pipeline" pipeline }
  | .search index body => do
    return { planFor "POST" ("/" ++ (← indexSegment index) ++ "/_search") with body }
  | .putPipeline id body => do return { planFor "PUT" (← pipelinePath id) with body }
  | .pipelineExists _ => .error .noMember
  | .raw method path body parameters => .ok { method, path, body, parameters }

/-- The body of a request as it is sent; `null` means none. -/
def bodyOf : Json → Option Json
  | .null => none
  | .obj fields => some (.obj (Fields.respelled Json.spelledKey fields))
  | body => some body

/-- Checks the host to which a request goes. A name in Punycode has to be what it stands for, and a
scope has to be ASCII. -/
def checkHost (host : List Char) : Except Failure Unit := do
  if host.take 4 == punycodeSign then (checkName host).mapError .badName
  if host.all (·.toNat < 0x80) then .ok () else .error .unencodable

/-- The method of a request as it is sent. -/
def Plan.sentMethod (plan : Plan) : Except Failure Text := do
  return (← plan.method.textOr .noMember).upper

/-- The address of a request. -/
def Plan.address (engine : Address) (plan : Plan) : Except Failure Address := do
  let place ← (join engine (← plan.path.textOr .wrongKind)).mapError .badAddress
  let parameters ← parametersOf? plan.parameters
  let _ ← plan.sentMethod
  (place.withParameters parameters).mapError .badAddress

/-- Checks that a body can be written: its numbers have to be spelled, and then its text has to have
octets. -/
def checkBody (body : Json) : Except Failure Unit :=
  match body.numberFault? with
  | some fault => .error fault.failure
  | none => if body.isWritable then .ok () else .error .unencodable

/-- A request on the wire. -/
def Plan.request (engine : Address) (plan : Plan) : Except Failure Request := do
  let address ← plan.address engine
  let method ← plan.sentMethod
  checkBody plan.body
  checkHost address.host
  return .http method (String.ofList address.target) (bodyOf plan.body)

/-- What reading octets as JSON text comes to; `none` if they are no text. -/
def readOctets? (octets : List UInt8) : Option (Except Json.ReadError Json) :=
  let (encoding, rest) := Text.Wide.detect octets
  (Text.Wide.points? encoding rest).map fun points => Json.read ⟨points⟩

/-- What the body of an answer stands for. -/
def payloadOf (octets : List UInt8) : Except Failure Json :=
  if octets.isEmpty then .ok (.obj [])
  else
    match readOctets? octets with
    | some (.ok value) => .ok value
    | some (.error .tooDeep) => .error (.unreadable .tooDeep)
    | _ => .ok (.str (.ofChars (Text.Octets.decodeLossy octets)))

/-- Trouble that is not the transport's and is handed on as it came. -/
def passesThrough (kind : Text) : Bool := kind == "DecodingError" || kind == "TooManyRedirects"

/-- The failure that trouble on the way means. -/
def trouble (kind text : Text) : Failure :=
  if passesThrough kind then .passed kind text else .unreachable kind text

/-- The status and payload of an answer. -/
def respond : Answer → Except Failure RawResponse
  | .failed kind text => .error (trouble kind text)
  | .answered status octets => do return ⟨status, ← payloadOf octets⟩

/-- The object in an answer of success. -/
def expectObject (call : Call) (response : RawResponse) : Except Failure Json :=
  if !response.ok then .error (.reported response.status response.payload)
  else
    match response.payload with
    | .obj fields => .ok (.obj fields)
    | payload => do
      let plan ← plan call
      throw (.notAnObject plan.method.plain plan.path.plain payload)

/-- The answer to the question whether something exists: absent on 404, present on success. -/
def expectPresence (response : RawResponse) : Except Failure Bool :=
  if response.status.isMissing then .ok false
  else if !response.ok then .error (.reported response.status response.payload)
  else .ok true

/-- The reply of a kind that an answer means. -/
def replyOf (call : Call) (response : RawResponse) : (want : Want) → Except Failure want.Reply
  | .data => expectObject call response
  | .presence => expectPresence response
  | .response => .ok response

/-- The reply that an answer means. -/
def decode (call : Call) (answer : Answer) : Except Failure call.Reply :=
  match respond answer with
  | .ok response => replyOf call response call.want
  | .error failure => .error failure

/-- What makes the answer to a request to an address useless: that the address does not say by which
rules it is to be read, or that its brackets do not enclose a host. -/
def Address.fault? (address : Address) : Option Failure :=
  if !address.saysHow then some (.unknownScheme address.shown)
  else
    match address.checkBrackets with
    | .ok _ => none
    | .error fault => some (.badBrackets fault)

/-- What makes the answer to a call's request useless. -/
def addressFault? (engine : Address) (call : Call) : Option Failure :=
  match (plan call).bind (Plan.address engine) with
  | .ok address => address.fault?
  | .error _ => none

/-- The reply that an answer to a request means. The address of the request is looked at once more
when the answer is there. -/
def receive (engine : Address) (call : Call) (answer : Answer) : Except Failure call.Reply :=
  match answer, addressFault? engine call with
  | .answered .., some failure => .error failure
  | _, _ => decode call answer

/-- The backend for an engine at an address. -/
def backend (engine : Address) : Backend Answer where
  name := .http
  typedProbe := false
  encode call := (plan call).bind (Plan.request engine)
  decode := receive engine
  closing := none
  silence := trouble "ConnectError" exhausted

end EngineGateway.Rest
