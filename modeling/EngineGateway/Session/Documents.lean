import EngineGateway.Document
import EngineGateway.Name
import EngineGateway.Session.Detection
import EngineGateway.Session.Indices

/-!
# Writing documents

A document is written under its id. Engines of older generations want a type between the index and
the id; the client libraries cannot address documents so, and a raw request does.
-/

namespace EngineGateway.Session

variable {α τ : Type} [Seconds τ]

/-- The raw request that writes a document at a path. -/
def typedWrite (path : String) (document : Document) : Call :=
  .raw (.str "PUT") (.str path) (.obj document.source)
    (.ofFields? (document.namedPipeline.map fun name => [("pipeline", .str name)]))

/-- Writes a document with a type. An answer that is no object says nothing. -/
def writeTyped (session : Session α τ) (document : Document) : Talk α τ Json := do
  let path ← Talk.outcome
    (Rest.typedPath (.str document.index) (.str session.legacyDocumentType) (.str document.id))
  let response : RawResponse ← Talk.ask session.backend (typedWrite path document)
  if !response.ok then throw (.reported response.status response.payload)
  match response.payload with
  | .obj fields => return .obj fields
  | _ => return .obj []

/-- The call that writes a document without a type. -/
def plainWrite (document : Document) : Call :=
  .writeDocument (.str document.index) (.str document.id) (.obj document.source)
    (.ofText? document.pipeline)

/-- Whether the answer to a write says that the document is new. -/
def saysCreated (fields : Fields) : Bool :=
  match fields.get? "created" with
  | some (.bool b) => b
  | _ => (fields.getD "result" .null).text? == some "created"

/-- How the answer to a write puts what was done. -/
def writeResult (fields : Fields) : Option Text :=
  match fields.getD "result" .null with
  | .null => none
  | word => some word.plain

/-- Hands a document to an engine in the way in which the engine takes it. -/
def write (session : Session α τ) (able : Capabilities) (document : Document) : Talk α τ Json :=
  if able.documentTypeRequired then writeTyped session document
  else Talk.ask session.backend (plainWrite document)

/-- Writes a document. -/
def index (session : Session α τ) (document : Document) : Talk α τ Acknowledgement := do
  let able ← capabilities session
  if document.namedPipeline.isSome && !able.ingestSupported then refuseIngest session
  let answer ← write session able document
  Talk.say .debug ("Indexed document [" ++ document.id ++ "] in [" ++ document.index ++ "]")
  let fields ← fieldsOf answer
  return {
    resource := document.index ++ "/" ++ document.id
    created := some (saysCreated fields)
    result := writeResult fields }

end EngineGateway.Session
