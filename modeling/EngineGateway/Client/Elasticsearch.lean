import EngineGateway.Backend.Basic
import EngineGateway.Client.Answer

/-!
# Through the Elasticsearch client library

The library takes the settings of an index and the parts of a pipeline as arguments of their own
names, beside the name of what they are for; a body that repeats that name cannot be handed over. It
has no way to ask for a pipeline, so a raw request takes its place.
-/

namespace EngineGateway.Client.Elasticsearch

/-- The kinds of errors that are looked for in the library. -/
def errorKinds : List Text := ["ApiError", "TransportError"]

/-- The headers of a raw request. -/
def headers : Json :=
  .obj [("accept", .str "application/json"), ("content-type", .str "application/json")]

/-- A call whose arguments are a name and the fields of a body, whose keys have to be texts. -/
def spread (call key : String) (name : Name) (body : Json) : Except Failure Request :=
  match body with
  | .obj fields =>
    if Fields.has fields key || !fields.all fun field => field.1.isText then .error .wrongKind
    else .ok (.named call ((key, name) :: fields))
  | _ => .error .wrongKind

/-- The request for a call. -/
def encode : Call → Except Failure Request
  | .info => .ok (.named "info" [])
  | .createIndex index body =>
    if body.truthy then spread "indices.create" "index" index body
    else .ok (.named "indices.create" [("index", index)])
  | .indexExists index => .ok (.named "indices.exists" [("index", index)])
  | .deleteIndex index => .ok (.named "indices.delete" [("index", index)])
  | .health index hold =>
    .ok (.named "cluster.health"
      (("index", index) :: if hold.isNull then [] else [("timeout", hold)]))
  | .refresh index => .ok (.named "indices.refresh" [("index", index)])
  | .writeDocument index id document pipeline =>
    .ok (.named "index" [("index", index), ("id", id), ("document", document),
      ("pipeline", pipeline)])
  | .search index body => .ok (.named "search" [("index", index), ("body", body)])
  | .putPipeline id body => spread "ingest.put_pipeline" "id" id body
  | .pipelineExists _ => .error .noMember
  | .raw method path body parameters =>
    .ok (.call "perform_request" [method, path]
      [("params", parameters), ("headers", headers), ("body", body)])

/-- The body of an answer, without the response object around it. -/
def bodyOf : Answer → Except Error Json
  | .value v => .ok v
  | .response _ body => .ok body
  | .raised error => .error error

/-- Whether an answer says that something exists. -/
def presenceOf : Answer → Except Error Bool
  | .value v => .ok v.truthy
  | .response .. => .ok true
  | .raised error => .error error

/-- The outcome of a raw request. The status stands in the response object, or in an error. -/
def responseOf (known : List Text) : Answer → Except Failure RawResponse
  | .value _ => .error .noMember
  | .response status body => .ok ⟨status, body⟩
  | .raised error => error.responseAmong known

/-- The reply of a kind that an answer means. -/
def replyOf (known : List Text) (answer : Answer) : (want : Want) → Except Failure want.Reply
  | .data => (bodyOf answer).mapError (Error.failureAmong known)
  | .presence => (presenceOf answer).mapError (Error.failureAmong known)
  | .response => responseOf known answer

/-- The backend over a library of which the given kinds of errors are known. -/
def backend (known : List Text) : Backend Answer where
  name := .elasticsearch
  typedProbe := false
  encode := encode
  decode call answer := replyOf known answer call.want
  closing := some (.named "close" [])
  silence := silence known

/-- The call that makes a client. -/
def construction (url : Json) (timeout : Float) (verifyCerts : Bool) : Except Failure Request :=
  .ok (.named "Elasticsearch" [("hosts", .arr [url]), ("request_timeout", .float timeout),
    ("verify_certs", .bool verifyCerts)])

end EngineGateway.Client.Elasticsearch
