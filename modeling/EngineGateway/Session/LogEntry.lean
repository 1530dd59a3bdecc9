import EngineGateway.Text.Basic

/-!
# Log entries

What an operation says about itself while it runs, by how much it matters. Entries below a level
that the user chooses are not shown.
-/

namespace EngineGateway

/-- How much an entry matters. -/
inductive LogLevel where
  | debug
  | info
  | warning
  | error
  deriving Repr, DecidableEq

namespace LogLevel

/-- The name of a level. -/
def name : LogLevel → String
  | .debug => "DEBUG"
  | .info => "INFO"
  | .warning => "WARNING"
  | .error => "ERROR"

/-- Every level, the lowest first. -/
def all : List LogLevel := [.debug, .info, .warning, .error]

/-- The level with exactly this name. -/
def ofName? (name : Text) : Option LogLevel := all.find? fun level => level.name == name

/-- The rank of a level. -/
def rank : LogLevel → Nat
  | .debug => 0
  | .info => 1
  | .warning => 2
  | .error => 3

/-- A level is found by its name. -/
theorem ofName?_name (level : LogLevel) : ofName? level.name = some level := by
  cases level <;> rfl

end LogLevel

/-- Something that was said. -/
structure LogEntry where
  level : LogLevel
  text : Text
  deriving Repr, DecidableEq

/-- The entries at or above a level. -/
def LogEntry.shown (least : LogLevel) (entries : List LogEntry) : List LogEntry :=
  entries.filter fun entry => least.rank ≤ entry.level.rank

end EngineGateway
