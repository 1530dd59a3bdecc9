import EngineGateway.Backend.Connect
import EngineGateway.Cli.Invocation
import EngineGateway.Cli.JsonArgument
import EngineGateway.Record
import EngineGateway.Session.Operation
import EngineGateway.Settings.Environment

/-!
# Carrying commands out

Each command opens one session, asks it for what it needs, closes it whatever comes of it, and gives
an object to be written. Arguments that hold objects are read before the session is opened or inside
it, as the command needs them; a session that was opened is always closed.
-/

namespace EngineGateway.Cli

/-- The settings of a command: those of the environment with the connection in their place. -/
def settingsFor (environment : Settings) (connection : Connection) : Except Failure Settings :=
  (Settings.ofJson (.obj [
    ("backend", connection.backend), ("url", connection.url), ("timeout_s", connection.timeout),
    ("verify_certs", .bool connection.verifyCerts), ("health_timeout_s", connection.healthTimeout),
    ("health_poll_initial_s", .float environment.firstPoll),
    ("health_poll_max_s", .float environment.longestPoll),
    ("legacy_document_type", .str environment.legacyDocumentType)])).toExcept Settings.modelName

/-- What a command is about to do in a session. -/
inductive Job where
  | showVersion
  | createIndex (index : Name) (settings : Json) (override wait : Bool)
  | awaitHealth (index : Name) (timeout : Json)
  | refresh (index : Name)
  | search (query : SearchQuery)
  | readField (index : Name) (query : Json) (field : Name) (size pathHint : Json)
  | putPipeline (pipeline : Pipeline)
  | findPipeline (id : Name)

/-- The query of a search command. -/
def searchQuery (files : Files) (index query fields size : Json) : Except Failure SearchQuery := do
  let filter ← objectArgument files query
  let written ← fields.textOr .noMember
  (SearchQuery.ofJson (.obj [
    ("target_index", index), ("filter", .ofFields? filter),
    ("requested_fields", .ofTexts (fieldNames written)),
    ("max_results", size)])).toExcept SearchQuery.modelName

/-- The pipeline that a definition describes. -/
def pipelineFrom (files : Files) (id definition : Json) : Except Failure Pipeline := do
  match ← objectArgument files definition with
  | none => throw .missingDefinition
  | some fields =>
    (Pipeline.ofJson (.obj [
      ("id", id), ("processors", fields.getD "processors" (.arr [])),
      ("description", fields.getD "description" .null)])).toExcept Pipeline.modelName

/-- What a command is about to do. What can be wrong with it before a session is opened is told
here. -/
def Command.job (files : Files) : Command → Except Failure Job
  | .version => .ok .showVersion
  | .createIndex index settings override wait => .ok (.createIndex index settings override wait)
  | .waitHealth index timeout => .ok (.awaitHealth index timeout)
  | .refresh index => .ok (.refresh index)
  | .search index query fields size => Job.search <$> searchQuery files index query fields size
  | .storedFields index query field size pathHint =>
    .ok (.readField index query field size pathHint)
  | .putPipeline id definition => Job.putPipeline <$> pipelineFrom files id definition
  | .pipelineExists id => .ok (.findPipeline id)

section

variable {α : Type} (session : Session α Float)

/-- Shows the version and what follows from it. -/
def showVersion : Talk α Float Fields := do
  let version ← session.detectVersion
  let able ← session.capabilities
  return [("version", .str version.text), ("distribution", .str version.distribution),
    ("capabilities", .obj able.toFields)]

/-- Creates an index and, if asked to, waits for it. -/
def createAndWait (files : Files) (index : Name) (settings : Json) (override wait : Bool) :
    Talk α Float Fields := do
  let body ← Talk.outcome (objectArgument files settings)
  let ack ← session.createIndex index override (.ofFields? body)
  if wait then
    let descriptor ← session.waitForHealthyIndex index none
    return ack.toFields.put "health" (.str descriptor.health.name)
  else return ack.toFields

/-- Reads the values of one field. -/
def readField (files : Files) (index : Name) (query : Json) (field : Name)
    (size pathHint : Json) : Talk α Float Fields := do
  let filter ← Talk.outcome (objectArgument files query)
  let values ← session.storedFields {
    index, limit := size, field, pathHint, filter := .ofFields? filter }
  return [("index", index), ("field", field), ("values", .arr values)]

/-- Does what a command is about to do. -/
def Job.run (files : Files) : Job → Talk α Float Fields
  | .showVersion => EngineGateway.Cli.showVersion session
  | .createIndex index settings override wait =>
    createAndWait session files index settings override wait
  | .awaitHealth index timeout => do
    let descriptor ← session.waitForHealthyIndex index (Span.ofJson? timeout)
    Talk.outcome descriptor.toRecord.handedOn
  | .refresh index => return (← session.refresh index).toFields
  | .search query => do
    let result ← session.search query
    Talk.outcome result.toRecord.handedOn
  | .readField index query field size pathHint =>
    EngineGateway.Cli.readField session files index query field size pathHint
  | .putPipeline pipeline => return (← session.putPipeline pipeline).toFields
  | .findPipeline id => do
    let found ← session.isExistingPipeline id
    return [("pipeline_id", id), ("exists", .bool found)]

end

/-- What an engine will answer, over either kind of connection. -/
structure Engine where
  rest : List (Timed Rest.Answer Float) := []
  client : List (Timed Client.Answer Float) := []

/-- Something that happens in a run. -/
inductive Deed where
  /-- A client is made, and making it is told by these requests. -/
  | opened (construction : List EngineGateway.Request)
  /-- A request is sent. -/
  | sent (request : EngineGateway.Request)
  /-- The client is closed. -/
  | closed
  /-- The command gives an object. -/
  | returned (payload : Fields)
  /-- The command fails. -/
  | raised (failure : Failure)
  /-- The object is handed to the output. -/
  | emitted (payload : Fields)

/-- The requests that a deed tells of. -/
def Deed.requests : Deed → List EngineGateway.Request
  | .opened construction => construction
  | .sent request => [request]
  | _ => []

/-- What happened over a connection, in order. A closing stands behind as many requests as it
counts, and `earlier` requests are counted that are told elsewhere. -/
def happened (earlier : Nat) (sent : List EngineGateway.Request) : List Nat → List Deed
  | [] => sent.map .sent
  | count :: later =>
    (sent.take (count - earlier)).map .sent ++
      .closed :: happened count (sent.drop (count - earlier)) later

/-- What can be observed of a session after its end. -/
structure Course where
  outcome : Except Failure Fields
  sent : List EngineGateway.Request := []
  sleeps : List Float := []
  log : List LogEntry := []
  history : List Deed := []

/-- The course of a job in a session that is closed afterwards. -/
def Course.of (session : Session α Float) (pending : List (Timed α Float))
    (opening : List EngineGateway.Request) (files : Files) (job : Job) : Course :=
  let start : Conversation α Float := { pending, now := 0, sent := opening }
  let (outcome, after) := (job.run session files).run.run start
  let (_, final) := (Operation.closeOwned session).run.run after
  { outcome, sent := final.sent, sleeps := final.sleeps, log := final.log
    history := .opened opening ::
      happened opening.length (final.sent.drop opening.length) final.closings }

/-- What settings say of the engine to connect to. -/
def endpoint (settings : Settings) : Endpoint where
  backend := .str settings.backend.name
  url := .str settings.url
  timeout := settings.timeout
  verifyCerts := settings.verifyCerts

/-- Opens a session, does a job in it and closes it. -/
def conduct (libraries : Libraries) (engine : Engine) (settings : Settings) (files : Files)
    (job : Job) : Course :=
  match connect libraries (endpoint settings) with
  | .error failure => { outcome := .error failure }
  | .ok (.rest backend, opening) =>
    .of (Session.over backend settings true) engine.rest opening files job
  | .ok (.client backend, opening) =>
    .of (Session.over backend settings true) engine.client opening files job

/-- What an invocation is about to do, and with which settings. -/
def prepare (environment : Settings) (files : Files) (invocation : Invocation) :
    Except Failure (Job × Settings) := do
  let job ← invocation.command.job files
  let settings ← settingsFor environment invocation.connection
  return (job, settings)

/-- Carries an invocation out. -/
def perform (libraries : Libraries) (engine : Engine) (environment : Settings) (files : Files)
    (invocation : Invocation) : Course :=
  match prepare environment files invocation with
  | .error failure => { outcome := .error failure }
  | .ok (job, settings) => conduct libraries engine settings files job

end EngineGateway.Cli
