import EngineGateway.Decimal.Numeral
import EngineGateway.Json.Writable

/-!
# Shapes of fields

What a field of a record makes of the value in it when the record is handed on. A field may hold any
value, since setting one makes no check; where the value is not of the field's shape it is handed on
like data of no known shape. Only such data has a bound on its levels: the levels that a shape
accounts for do not count.
-/

namespace EngineGateway

/-- What a field is for. -/
inductive Shape where
  /-- Anything. -/
  | plain
  /-- A whole number. -/
  | whole
  /-- A float. -/
  | float
  /-- A dictionary of anything. -/
  | dictionary
  /-- A list whose items have a shape. -/
  | list (item : Shape)
  /-- A record whose fields have shapes. -/
  | record (shapeOf : Text → Shape)

namespace Shape

/-- What the field of a whole number makes of a value: true counts as one and false as zero. -/
def wholeFrom : Json → Except Failure Json
  | .bool b => .ok (.int (if b then 1 else 0))
  | value => value.handedOn

/-- What the field of a float makes of a value: whole numbers become floats, and no float is left
out. -/
def floatFrom : Json → Except Failure Json
  | .float x => .ok (.float x)
  | .bool b => .ok (.float (if b then 1 else 0))
  | .int i =>
    match Decimal.ofInt? i with
    | some x => .ok (.float x)
    | none => .error .endlessDuration
  | value => value.handedOn

/-- A key with U+FFFD for what is no character in it. -/
def shownKey : Key → Key
  | .name text => .name text.shown
  | key => key

/-- What the field of a dictionary makes of the fields of an object. Their keys are shown, and keys
that come to be one key become one. -/
def dictionaryFrom (fields : Fields) : Except Failure Fields := do
  let handed ← fields.mapM fun (key, value) => do return (key, ← value.handedOn)
  if handed.all fun field => field.1.isWritable then return handed
  else return Fields.ofAssignments (handed.map fun (key, value) => (shownKey key, value))

/-- What a field of a shape makes of a value. -/
def handedOn : Shape → Json → Except Failure Json
  | .plain => Json.handedOn
  | .whole => wholeFrom
  | .float => floatFrom
  | .dictionary => fun value =>
    match value with
    | .obj fields => Json.obj <$> dictionaryFrom fields
    | other => other.handedOn
  | .list item => fun value =>
    match value with
    | .arr items => Json.arr <$> items.mapM (handedOn item)
    | other => other.handedOn
  | .record shapeOf => fun value =>
    match value with
    | .obj fields => Json.obj <$> fields.mapM fun (key, value) => do
        return (key, ← handedOn (shapeOf (key.name?.getD "")) value)
    | other => other.handedOn

/-- The shape of a field once it was set: what is set is no record. -/
def onceSet : Shape → Shape
  | .list item => .list item.onceSet
  | .record _ => .plain
  | shape => shape

end Shape

end EngineGateway
