import EngineGateway.Json.Membership
import EngineGateway.Name
import EngineGateway.Pipeline
import EngineGateway.Session.Detection
import EngineGateway.Session.Indices

/-!
# Ingest pipelines

Pipelines exist only on engines that know them. Whether one exists is asked through the backend if
it has a way to ask, and by a raw request otherwise.
-/

namespace EngineGateway.Session

variable {α τ : Type} [Seconds τ]

/-- Stores a pipeline. -/
def putPipeline (session : Session α τ) (pipeline : Pipeline) : Talk α τ Acknowledgement := do
  if !(← isIngestSupported session) then refuseIngest session
  let answer : Json ←
    Talk.ask session.backend (.putPipeline (.str pipeline.id) (.obj pipeline.body))
  Talk.say .info ("Stored ingest pipeline [" ++ pipeline.id ++ "]")
  let fields ← fieldsOf answer
  return { resource := pipeline.id, acknowledged := acknowledged fields }

/-- The raw request for a pipeline at a path. -/
def pipelineProbe (path : String) : Call := .raw (.str "GET") (.str path) .null .null

/-- What the answer to the raw request says. A success that names no pipelines at all counts as a
yes. -/
def probeOutcome (id : Name) (response : RawResponse) : Except Failure Bool :=
  if response.status.isMissing then .ok false
  else if !response.ok then .error (.reported response.status response.payload)
  else
    match response.payload with
    | .obj (field :: rest) => (Json.obj (field :: rest)).holds id
    | _ => .ok true

/-- Whether a pipeline with exactly this id exists. -/
def isExistingPipeline (session : Session α τ) (id : Name) : Talk α τ Bool := do
  if !(← isIngestSupported session) then
    Talk.say .debug ("Engine has no ingest support, pipeline [" ++ id.plain ++ "] cannot exist")
    return false
  if session.backend.typedProbe then
    let found : Bool ← Talk.ask session.backend (.pipelineExists id)
    return found
  Talk.say .debug ("No typed pipeline probe on " ++ session.backend.name.name ++
    " backend, using a raw request")
  let path ← Talk.outcome (Rest.pipelinePath id)
  let response : RawResponse ← Talk.ask session.backend (pipelineProbe path)
  Talk.outcome (probeOutcome id response)

end EngineGateway.Session
