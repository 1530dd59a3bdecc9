import EngineGateway.Text.Blank
import EngineGateway.Text.Lower

/-!
# Kinds of connection

The three ways to reach an engine. A person may write their names in any case and with blanks around
them; `normalized` is the form in which names are compared and shown.
-/

namespace EngineGateway

/-- A way to reach an engine: through one of two client libraries, or directly over HTTP. -/
inductive BackendName where
  | elasticsearch
  | opensearch
  | http
  deriving Repr, DecidableEq

namespace BackendName

/-- The name of a connection. -/
def name : BackendName → String
  | .elasticsearch => "elasticsearch"
  | .opensearch => "opensearch"
  | .http => "http"

/-- Every connection, in the order in which they are offered. -/
def all : List BackendName := [.elasticsearch, .opensearch, .http]

/-- The connection with exactly this name. -/
def ofName? (name : Text) : Option BackendName := all.find? fun backend => backend.name == name

/-- The usual form of a name that a person wrote. -/
def normalized (written : Text) : Text := written.trim.lower

/-- The connection that a person asked for. -/
def parse? (written : Text) : Option BackendName := ofName? (normalized written)

/-- A connection is found by its name. -/
theorem ofName?_name (backend : BackendName) : ofName? backend.name = some backend := by
  cases backend <;> rfl

/-- A name that is found is the name of what was found. -/
theorem name_of_ofName? {name : Text} {backend : BackendName}
    (found : ofName? name = some backend) :
    backend.name = name := by
  simpa using List.find?_some found

end BackendName

end EngineGateway
