import EngineGateway.Json.Display
import EngineGateway.Json.Membership
import EngineGateway.Json.Writable
import EngineGateway.Rest.Reference
import EngineGateway.Text.Percent
import EngineGateway.Text.Split

/-!
# Parameters

The parameters of a request are keys with values, and are sent in a form: pairs of texts with marks
between them. They may be given as an object, in which a list stands for several values, as a list
of pairs, or as the text of a form. What counts as false gives no parameters.
-/

namespace EngineGateway.Rest

open Text (Point)

/-- A point in a form: a blank is a plus, and only unreserved characters stand for themselves. -/
def formPoint? : Point → Option (List Char)
  | .char ' ' => some ['+']
  | point => Text.Percent.encodePoint? Text.Percent.isUnreserved point

/-- A text in a form. -/
def formEncode? (text : Text) : Option (List Char) :=
  (text.points.mapM formPoint?).map List.flatten

/-- A value in a form. -/
def formText : Json → Text
  | .null => ""
  | .bool b => if b then "true" else "false"
  | value => value.plain

/-- The values that stand in a form for one value: an array stands for its items. -/
def formValues : Json → List Json
  | .arr items => items
  | value => [value]

/-- The pairs of texts that parameters stand for. -/
def formPairs (parameters : Fields) : List (Text × Text) :=
  parameters.flatMap fun (key, value) =>
    (formValues value).map fun item => ((Json.ofKey key).plain, formText item)

/-- A pair of texts in a form. -/
def formPair? (pair : Text × Text) : Option (List Char) := do
  return (← formEncode? pair.1) ++ '=' :: (← formEncode? pair.2)

/-- The query that parameters spell. -/
def formQuery (parameters : Fields) : Except AddressFault (List Char) :=
  match (formPairs parameters).mapM formPair? with
  | some pairs => .ok (Text.joinWith '&' pairs)
  | none => .error .half

/-- Whether a point is an ASCII character. -/
def isAsciiPoint (point : Point) : Bool := Point.passes (fun c => c.toNat < 0x80) point

/-- The points that are written in a form. A plus is a blank, and percent-encoded octets are what
they stand for, with U+FFFD for what is no character; beyond ASCII everything stands for itself. -/
def formDecode : List Point → List Point
  | [] => []
  | point :: rest =>
    if isAsciiPoint point then
      let row := (point :: rest.takeWhile isAsciiPoint).filterMap Point.char?
      let written := row.map fun c => if c == '+' then ' ' else c
      Text.pointsOf (Text.Octets.decodeLossy (Text.Percent.octets written)) ++
        formDecode (rest.dropWhile isAsciiPoint)
    else point :: formDecode rest
termination_by points => points.length
decreasing_by
  · have shorter := (List.dropWhile_sublist isAsciiPoint (l := rest)).length_le
    simp only [List.length_cons]
    omega
  · simp

/-- A text that is written in a form. -/
def formTextOf (points : List Point) : Text := ⟨formDecode points⟩

/-- The pair that is written before the next mark; without an equals sign the value is empty. -/
def formPairOf (points : List Point) : Key × Json :=
  let (name, value) := splitAt (.char '=') points
  (.name (formTextOf name), .str (formTextOf (value.getD [])))

/-- Adds a value to those of its key. -/
def gatherInto (fields : Fields) (pair : Key × Json) : Fields :=
  match fields.find? fun field => field.1.same pair.1 with
  | some (_, .arr values) => fields.put pair.1 (.arr (values ++ [pair.2]))
  | _ => fields.put pair.1 (.arr [pair.2])

/-- Keys with the lists of their values. -/
def gather (pairs : List (Key × Json)) : Fields := pairs.foldl gatherInto []

/-- The parameters that a form spells. Between two marks that follow each other there are none. -/
def parametersOfForm (form : Text) : Fields :=
  gather (((Text.splitBy (· == .char '&') form.points).filter (!·.isEmpty)).map formPairOf)

/-- The item of a list or the point of a text at a position. -/
def itemAt (position : Nat) : Json → Except Failure Json
  | .arr items => (items[position]?.map Except.ok).getD (.error .noItem)
  | .str text =>
    match text.points[position]? with
    | some point => .ok (.str ⟨[point]⟩)
    | none => .error .noItem
  | .obj _ => .error .noKey
  | _ => .error .wrongKind

/-- The key and the value that an item begins with. -/
def parameterOf (item : Json) : Except Failure (Key × Json) := do
  let key ← (← itemAt 0 item).asKey
  return (key, ← itemAt 1 item)

/-- Parameters whose whole numbers can be written. -/
def writtenOut (parameters : Fields) : Except Failure Fields :=
  if (Json.obj parameters).isCountable then .ok parameters else .error .numberTooLong

/-- The parameters that a value stands for; `none` if nothing is given. Of keys that are spelled
alike the last one wins. -/
def parametersOf? : Json → Except Failure (Option Fields)
  | .null => .ok none
  | .str form => .ok (some (parametersOfForm form))
  | .arr items => do
    let parameters ← writtenOut (gather (← items.mapM parameterOf))
    return some (parameters.respelled Json.plainKey)
  | .obj fields => do return some (← writtenOut fields)
  | value => if value.truthy then .error .noMember else .ok (some [])

end EngineGateway.Rest
