import EngineGateway.Decimal.Layout
import EngineGateway.Json.Value
import EngineGateway.Text.Quoted

/-!
# Values in messages

How a value is shown to a person. Inside a message texts stand between quotes (`display`); a
message that consists of the value alone shows a text as it is (`plain`). A key is shown like the
value that it is.
-/

namespace EngineGateway.Json

/-- A yes or no in a message. -/
def displayBool (b : Bool) : String := if b then "True" else "False"

/-- A key inside a message. -/
def displayKey : Key → String
  | .name text => text.quoted
  | .null => "None"
  | .bool b => displayBool b
  | .int i => toString i
  | .float x => Decimal.Layout.message.text x

/-- A key that is no text, spelled as it is shown. -/
def plainKey (key : Key) : Key := if key.isText then key else displayKey key

mutual

/-- A value inside a message. -/
def display : Json → String
  | .null => "None"
  | .bool b => displayBool b
  | .int i => toString i
  | .float x => Decimal.Layout.message.text x
  | .str text => text.quoted
  | .arr items => "[" ++ displayItems items ++ "]"
  | .obj fields => "\x7b" ++ displayFields fields ++ "\x7d"

/-- Items of an array in a message. -/
def displayItems : List Json → String
  | [] => ""
  | [item] => display item
  | item :: rest => display item ++ ", " ++ displayItems rest

/-- Fields of an object in a message. -/
def displayFields : List (Key × Json) → String
  | [] => ""
  | [(key, value)] => displayKey key ++ ": " ++ display value
  | (key, value) :: rest =>
    displayKey key ++ ": " ++ display value ++ ", " ++ displayFields rest

end

/-- A value as the whole of a message. -/
def plain : Json → Text
  | .str text => text
  | value => display value

/-- A text alone is shown without quotes. -/
theorem plain_str (text : Text) : plain (.str text) = text := rfl

end EngineGateway.Json
