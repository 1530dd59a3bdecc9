import EngineGateway.Session.Documents
import EngineGateway.Session.Health
import EngineGateway.Session.Pipelines
import EngineGateway.Session.Searches

/-!
# The operations of a session

Everything that a session can be asked to do, as data, so that whole courses of operations can be
spoken of. `Operation.run` is the session's one entry point.
-/

namespace EngineGateway

/-- Something that a session can be asked to do. -/
inductive Operation (τ : Type) where
  | detectVersion
  | detectedVersion
  | capabilities
  | isIngestSupported
  | createIndex (name : Name) (keep : Bool) (settings : Json)
  | isExistingIndex (name : Name)
  | deleteIndex (name : Name)
  | indexHealth (name : Name) (hold : Option (Span τ))
  | waitForHealthyIndex (name : Name) (timeout : Option (Span τ))
  | refresh (name : Name)
  | index (document : Document)
  | search (query : SearchQuery)
  | storedFields (request : Session.FieldRequest)
  | putPipeline (pipeline : Pipeline)
  | isExistingPipeline (id : Name)
  | close

namespace Operation

variable {α τ : Type}

/-- What an operation gives. -/
def Result : Operation τ → Type
  | .detectVersion => Version
  | .detectedVersion => Option Version
  | .capabilities => Capabilities
  | .isIngestSupported | .isExistingIndex _ | .isExistingPipeline _ => Bool
  | .createIndex .. | .deleteIndex _ | .refresh _ | .index _ | .putPipeline _ => Acknowledgement
  | .indexHealth .. | .waitForHealthyIndex .. => IndexDescriptor
  | .search _ => SearchResult
  | .storedFields _ => List Json
  | .close => Unit

/-- Closes the connection if the session made it. -/
def closeOwned (session : Session α τ) : Talk α τ Unit :=
  if session.ownsBackend then Talk.close session.backend else pure ()

/-- Carries an operation out. -/
def run [Seconds τ] (session : Session α τ) : (operation : Operation τ) → Talk α τ operation.Result
  | .detectVersion => session.detectVersion
  | .detectedVersion => Session.detectedVersion
  | .capabilities => session.capabilities
  | .isIngestSupported => session.isIngestSupported
  | .createIndex name keep settings => session.createIndex name keep settings
  | .isExistingIndex name => session.isExistingIndex name
  | .deleteIndex name => session.deleteIndex name
  | .indexHealth name hold => session.indexHealth name hold
  | .waitForHealthyIndex name timeout => session.waitForHealthyIndex name timeout
  | .refresh name => session.refresh name
  | .index document => session.index document
  | .search query => session.search query
  | .storedFields request => session.storedFields request
  | .putPipeline pipeline => session.putPipeline pipeline
  | .isExistingPipeline id => session.isExistingPipeline id
  | .close => closeOwned session

end Operation

/-- The conversation after some operations, carried out one after the other. An operation that fails
leaves behind what it did before it failed, and the next one follows all the same. -/
def Session.after {α τ : Type} [Seconds τ] (session : Session α τ) :
    List (Operation τ) → Conversation α τ → Conversation α τ
  | [], c => c
  | operation :: rest, c => session.after rest ((operation.run session).run.run c).2

end EngineGateway
