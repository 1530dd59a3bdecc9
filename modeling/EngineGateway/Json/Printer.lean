import EngineGateway.Decimal.Layout
import EngineGateway.Json.Value
import EngineGateway.Text.CharacterSet

/-!
# Writing JSON text

Two forms: `compact` without any blanks, and `indented` with two blanks for each level and every
item on a line of its own. Characters outside ASCII and halves of pairs are written as they are;
`escaped` makes a string of such a text. Floats that are no numbers are written as the words that
the reader knows. A key that is no text is spelled like the value that it is.

Each function writes in front of `rest`, the points that follow, so that nothing is copied on the
way out of nested values.
-/

namespace EngineGateway

/-- A text with escapes in the place of halves. -/
def Text.escaped (text : Text) : String :=
  String.ofList <| text.points.flatMap fun point =>
    match point with
    | .char c => [c]
    | .half unit => '\\' :: 'u' :: hexDigits 4 unit

namespace Json

/-- A character of a string. -/
def stringChar (c : Char) : List Char :=
  if c == '"' then ['\\', '"']
  else if c == '\\' then ['\\', '\\']
  else if c == '\n' then ['\\', 'n']
  else if c == '\r' then ['\\', 'r']
  else if c == '\t' then ['\\', 't']
  else if c == '\x0c' then ['\\', 'f']
  else if c == '\x08' then ['\\', 'b']
  else if c.toNat < 0x20 then '\\' :: 'u' :: Text.hexDigits 4 c.toNat
  else [c]

/-- A text between double quotes. -/
def stringText (text : Text) : Text :=
  "\"" ++ (⟨text.points.flatMap (Text.Point.mapChar stringChar)⟩ : Text) ++ "\""

/-- A value that has no parts. -/
def scalarText : Json → Text
  | .null => "null"
  | .bool true => "true"
  | .bool false => "false"
  | .int i => toString i
  | .float x => Decimal.Layout.json.text x
  | .str text => stringText text
  | .arr _ => "[]"
  | .obj _ => "\x7b\x7d"

/-- A key that is no text, spelled like the value that it is. -/
def spelledKey (key : Key) : Key := if key.isText then key else .name (scalarText (ofKey key))

/-- A key between double quotes. -/
def keyText (key : Key) : Text := scalarText (ofKey (spelledKey key))

/-- A line break and the blanks of a level. -/
def lineBreak (level : Nat) : List Text.Point :=
  .char '\n' :: List.replicate (2 * level) (.char ' ')

mutual

/-- A value without blanks, in front of `rest`. -/
def compactBefore (rest : List Text.Point) : Json → List Text.Point
  | .arr items => .char '[' :: compactItems (.char ']' :: rest) items
  | .obj fields => .char '\x7b' :: compactFields (.char '\x7d' :: rest) fields
  | value => (scalarText value).points ++ rest

/-- Items with commas between them, in front of `rest`. -/
def compactItems (rest : List Text.Point) : List Json → List Text.Point
  | [] => rest
  | [item] => compactBefore rest item
  | item :: more => compactBefore (.char ',' :: compactItems rest more) item

/-- Fields with commas between them, in front of `rest`. -/
def compactFields (rest : List Text.Point) : List (Key × Json) → List Text.Point
  | [] => rest
  | [(key, value)] => (keyText key).points ++ .char ':' :: compactBefore rest value
  | (key, value) :: more =>
    (keyText key).points ++
      .char ':' :: compactBefore (.char ',' :: compactFields rest more) value

end

/-- A value without blanks. -/
def compact (value : Json) : Text := ⟨compactBefore [] value⟩

mutual

/-- A value whose parts stand one level below `level`, in front of `rest`; what is empty takes no
lines. -/
def indentedBefore (level : Nat) (rest : List Text.Point) : Json → List Text.Point
  | .arr (item :: more) =>
    .char '[' :: indentedItems (level + 1) (lineBreak level ++ .char ']' :: rest) (item :: more)
  | .obj (field :: more) =>
    .char '\x7b' ::
      indentedFields (level + 1) (lineBreak level ++ .char '\x7d' :: rest) (field :: more)
  | value => (scalarText value).points ++ rest

/-- Items, each on a line of its own, in front of `rest`. -/
def indentedItems (level : Nat) (rest : List Text.Point) : List Json → List Text.Point
  | [] => rest
  | [item] => lineBreak level ++ indentedBefore level rest item
  | item :: more =>
    lineBreak level ++ indentedBefore level (.char ',' :: indentedItems level rest more) item

/-- Fields, each on a line of its own, in front of `rest`. -/
def indentedFields (level : Nat) (rest : List Text.Point) : List (Key × Json) → List Text.Point
  | [] => rest
  | [(key, value)] =>
    lineBreak level ++ (keyText key).points ++
      .char ':' :: .char ' ' :: indentedBefore level rest value
  | (key, value) :: more =>
    lineBreak level ++ (keyText key).points ++
      .char ':' :: .char ' ' ::
        indentedBefore level (.char ',' :: indentedFields level rest more) value

end

/-- A value over several lines. -/
def indented (value : Json) : Text := ⟨indentedBefore 0 [] value⟩

/-- A text of characters needs no escapes. -/
theorem escaped_ofString (s : String) : (Text.ofString s).escaped = s := by
  simp [Text.escaped, Text.ofString, Text.ofChars, Text.pointsOf, List.flatMap_map]

end Json

end EngineGateway
