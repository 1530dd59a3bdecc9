import EngineGateway.Backend.Basic
import EngineGateway.Client.Answer
import EngineGateway.Json.Membership

/-!
# Through the OpenSearch client library

The library takes bodies whole, and can ask for a pipeline by its id. Where an object is expected,
whatever can be taken for one is. The library answers a raw question for existence with a bare yes
or no, for which the two usual statuses stand.
-/

namespace EngineGateway.Client.Opensearch

/-- The kinds of errors that are looked for in the library. -/
def errorKinds : List Text := ["TransportError"]

/-- The request for a call. -/
def encode : Call → Except Failure Request
  | .info => .ok (.named "info" [])
  | .createIndex index body =>
    .ok (.named "indices.create" [("index", index), ("body", body)])
  | .indexExists index => .ok (.named "indices.exists" [("index", index)])
  | .deleteIndex index => .ok (.named "indices.delete" [("index", index)])
  | .health index hold =>
    .ok (.named "cluster.health"
      (("index", index) :: if hold.isNull then [] else [("timeout", hold)]))
  | .refresh index => .ok (.named "indices.refresh" [("index", index)])
  | .writeDocument index id document pipeline =>
    .ok (.named "index" [("index", index), ("body", document), ("id", id),
      ("pipeline", pipeline)])
  | .search index body => .ok (.named "search" [("index", index), ("body", body)])
  | .putPipeline id body => .ok (.named "ingest.put_pipeline" [("id", id), ("body", body)])
  | .pipelineExists id => .ok (.named "ingest.get_pipeline" [("id", id)])
  | .raw method path body parameters =>
    .ok (.call "transport.perform_request" [method, path]
      [("params", parameters), ("body", body)])

/-- The object that an answer is taken for. -/
def objectOf (known : List Text) : Answer → Except Failure Json
  | .value v => (Json.asFields v).map Json.obj
  | .response .. => .error .wrongKind
  | .raised error => .error (error.failureAmong known)

/-- Whether an answer says that an index exists. -/
def presenceOf (known : List Text) : Answer → Except Failure Bool
  | .value v => .ok v.truthy
  | .response .. => .ok true
  | .raised error => .error (error.failureAmong known)

/-- Whether an answer holds a pipeline of exactly this id. Not found means no. -/
def pipelinePresence (known : List Text) (id : Name) : Answer → Except Failure Bool
  | .value v => v.holds id
  | .response .. => .error .wrongKind
  | .raised error =>
    if error.isAmong known && error.status? == some 404 then .ok false
    else .error (error.failureAmong known)

/-- The outcome of a raw request. -/
def responseOf (known : List Text) : Answer → Except Failure RawResponse
  | .value (.bool found) => .ok ⟨if found then Status.success else Status.missing, .obj []⟩
  | .value payload => .ok ⟨Status.success, payload⟩
  | .response .. => .error .wrongKind
  | .raised error => error.responseAmong known

/-- The id of a pipeline that a call asks for. -/
def askedPipeline? : Call → Option Name
  | .pipelineExists id => some id
  | _ => none

/-- The reply of a kind that an answer means. -/
def replyOf (known : List Text) (call : Call) (answer : Answer) :
    (want : Want) → Except Failure want.Reply
  | .data => objectOf known answer
  | .presence =>
    match askedPipeline? call with
    | some id => pipelinePresence known id answer
    | none => presenceOf known answer
  | .response => responseOf known answer

/-- The backend over a library of which the given kinds of errors are known. -/
def backend (known : List Text) : Backend Answer where
  name := .opensearch
  typedProbe := true
  encode := encode
  decode call answer := replyOf known call answer call.want
  closing := some (.named "close" [])
  silence := silence known

/-- The call that makes a client. Encryption follows from the address. -/
def construction (url : Json) (timeout : Float) (verifyCerts : Bool) : Except Failure Request := do
  let written ← url.textOr .noMember
  return .named "OpenSearch" [("hosts", .arr [url]), ("timeout", .float timeout),
    ("use_ssl", .bool (written.startsWith "https://")), ("verify_certs", .bool verifyCerts)]

end EngineGateway.Client.Opensearch
