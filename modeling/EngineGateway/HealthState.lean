import EngineGateway.Json.Value
import EngineGateway.Text.Blank
import EngineGateway.Text.Lower

/-!
# Index health

The three colours that an engine gives the health of an index, and `unknown` for everything else
that it may answer. An index is usable from yellow on.
-/

namespace EngineGateway

/-- The health of an index. -/
inductive HealthState where
  | red
  | yellow
  | green
  | unknown
  deriving Repr, DecidableEq

namespace HealthState

/-- The name of a state. -/
def name : HealthState → String
  | .red => "red"
  | .yellow => "yellow"
  | .green => "green"
  | .unknown => "unknown"

/-- Every state, in the order of their declaration. -/
def all : List HealthState := [.red, .yellow, .green, .unknown]

/-- The state with exactly this name. -/
def ofName? (name : Text) : Option HealthState := all.find? fun state => state.name == name

/-- The state that an engine's answer names: a text, in any case and with blanks around it. -/
def ofJson : Json → HealthState
  | .str text => (ofName? text.trim.lower).getD .unknown
  | _ => .unknown

/-- At least yellow. -/
def isHealthy : HealthState → Bool
  | .yellow | .green => true
  | .red | .unknown => false

/-- A state is found by its name. -/
theorem ofName?_name (state : HealthState) : ofName? state.name = some state := by
  cases state <;> rfl

end HealthState

end EngineGateway
