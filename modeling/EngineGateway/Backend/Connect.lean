import EngineGateway.Client.Elasticsearch
import EngineGateway.Client.Opensearch
import EngineGateway.Rest.Backend

/-!
# Connecting

From the name of a backend to the backend. A client that exists already is used as it is; otherwise
one is made for an address, which has to be given. The client libraries may be missing.
-/

namespace EngineGateway

/-- A backend, by the kind of answers it gets. -/
inductive Line where
  | rest (backend : Backend Rest.Answer)
  | client (backend : Backend Client.Answer)

/-- What can be found on the machine: the libraries that are missing and the kinds of errors that
the others make known. -/
structure Libraries where
  missing : List BackendName := []
  exports : List Text := ["ApiError", "TransportError"]

/-- Of some kinds of errors those that the libraries make known. -/
def Libraries.known (libraries : Libraries) (kinds : List Text) : List Text :=
  kinds.filter libraries.exports.contains

/-- What to connect to. Neither the name nor the addresses have been checked. -/
structure Endpoint where
  /-- The name of a backend as a person wrote it. -/
  backend : Json
  /-- The address of a client that exists already. -/
  client : Option Json := none
  /-- The address to make a client for; `null` if there is none. -/
  url : Json
  timeout : Float := 30
  verifyCerts : Bool := true

/-- Connects through a client library. -/
def connectClient (libraries : Libraries) (endpoint : Endpoint) (backend : Backend Client.Answer)
    (construction : Json → Float → Bool → Except Failure Request) :
    Except Failure (Line × List Request) :=
  let library : Except Failure Unit :=
    if libraries.missing.contains backend.name then .error (.missingLibrary backend.name)
    else .ok ()
  match endpoint.client, endpoint.url with
  | some _, _ => do
    library
    return (.client backend, [])
  | none, .null => .error .missingUrl
  | none, url => do
    library
    return (.client backend, [← construction url endpoint.timeout endpoint.verifyCerts])

/-- The line to what an address denotes, if it is one. Nothing is sent yet. -/
def restLine : Except Rest.AddressFault Rest.Address → Except Failure (Line × List Request)
  | .ok engine => .ok (.rest (Rest.backend engine), [])
  | .error fault => .error (.badAddress fault)

/-- Connects over HTTP. -/
def connectRest (endpoint : Endpoint) : Except Failure (Line × List Request) :=
  match endpoint.client, endpoint.url with
  | some url, _ => do restLine (Rest.base (← url.textOr .wrongKind))
  | none, .null => .error .missingUrl
  | none, url => do restLine (Rest.engineAt (← url.textOr .noMember))

/-- Connects to an engine; beside the backend, what was asked for on the way. -/
def connect (libraries : Libraries) (endpoint : Endpoint) :
    Except Failure (Line × List Request) := do
  let name ← endpoint.backend.textOr .noMember
  match BackendName.parse? name with
  | some .elasticsearch =>
    connectClient libraries endpoint
      (Client.Elasticsearch.backend (libraries.known Client.Elasticsearch.errorKinds))
      Client.Elasticsearch.construction
  | some .opensearch =>
    connectClient libraries endpoint
      (Client.Opensearch.backend (libraries.known Client.Opensearch.errorKinds))
      Client.Opensearch.construction
  | some .http => connectRest endpoint
  | none => throw (.unsupportedBackend name)

end EngineGateway
