import EngineGateway.Name

/-!
# Calls and requests

What can be asked of an engine whatever the way to it, and what each call is answered with. Most
calls are answered with data; the two questions whether something exists with yes or no; and a raw
request with a status and a payload, whatever the status. What a call is given is data that nobody
has checked, and `null` stands for what is not given.

A request is what is handed to an engine for a call, as it can be observed: an HTTP request with its
method, its target and its body, or the call of a client library's method with its arguments.
-/

namespace EngineGateway

/-- The outcome of a raw request. -/
structure RawResponse where
  status : Status
  payload : Json

/-- Whether a raw request succeeded. -/
def RawResponse.ok (response : RawResponse) : Bool := response.status.isSuccess

/-- Something to ask of an engine. -/
inductive Call where
  /-- Who the engine is. -/
  | info
  /-- Create an index with settings. -/
  | createIndex (index : Name) (body : Json)
  /-- Whether an index exists. -/
  | indexExists (index : Name)
  /-- Delete an index. -/
  | deleteIndex (index : Name)
  /-- The health of an index, held back for the time given at most. -/
  | health (index : Name) (hold : Json)
  /-- Make what was written visible to searches. -/
  | refresh (index : Name)
  /-- Write a document without a type in its address, perhaps through a pipeline. -/
  | writeDocument (index id : Name) (document : Json) (pipeline : Name)
  /-- Search an index. -/
  | search (index : Name) (body : Json)
  /-- Store a pipeline. -/
  | putPipeline (id : Name) (body : Json)
  /-- Whether a pipeline exists. -/
  | pipelineExists (id : Name)
  /-- Any request by method and path. -/
  | raw (method path body parameters : Json)

/-- The kinds of replies. -/
inductive Want where
  /-- Data. -/
  | data
  /-- Whether something exists. -/
  | presence
  /-- A status and a payload, whatever they are. -/
  | response
  deriving Repr, DecidableEq

/-- The replies of a kind. -/
def Want.Reply : Want → Type
  | .data => Json
  | .presence => Bool
  | .response => RawResponse

/-- The kind of reply that a call is answered with. -/
def Call.want : Call → Want
  | .indexExists _ | .pipelineExists _ => .presence
  | .raw .. => .response
  | _ => .data

/-- What a call is answered with. -/
abbrev Call.Reply (call : Call) : Type := call.want.Reply

/-- A request to an engine. -/
inductive Request where
  | http (method : Text) (target : String) (body : Option Json)
  | call (name : String) (positional : List Json) (named : Fields)

/-- A call with nothing but named arguments. -/
def Request.named (name : String) (arguments : Fields) : Request := .call name [] arguments

end EngineGateway
