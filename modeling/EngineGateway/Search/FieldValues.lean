import EngineGateway.Capabilities
import EngineGateway.Json.Value

/-!
# Field values of a hit

Where the values of a field stand in a hit depends on the generation of the engine. Stored fields
are listed under their full names and win wherever they are. Engines without mapping types hand out
the document instead, and the field's name is a path into it: its steps lie between the points. A
list on the way is gone through item by item; at the end lists are flattened and what is missing is
dropped.

How deep lists and objects may stand inside each other before a walk through them fails depends on
the room that an interpreter has on its stack. That room is left out here: every walk comes to its
end, and where the answer was read from text, the reader's own limit on levels holds already.
-/

namespace EngineGateway.Search

mutual

/-- The values in a value: lists are opened at every depth, for which no stack is too small here,
and `null` is dropped. -/
def flatten : Json → List Json
  | .null => []
  | .arr items => flattenItems items
  | value => [value]

/-- The values in the items of a list. -/
def flattenItems : List Json → List Json
  | [] => []
  | item :: rest => flatten item ++ flattenItems rest

end

/-- The name that a list of steps spells. -/
def spelled (steps : List Text) : Text := Text.joined "." steps

mutual

/-- The values at the end of a path. A key that spells the rest of the path wins over a key that is
its first step. -/
def valuesAt (steps : List Text) : Json → List Json
  | .arr items => if steps.isEmpty then flattenItems items else valuesAtEach steps items
  | .obj fields =>
    match steps with
    | [] => [.obj fields]
    | first :: rest =>
      match Fields.get? fields (spelled (first :: rest)) with
      | some value => flatten value
      | none => valuesUnder first rest fields
  | value => if steps.isEmpty then flatten value else []

/-- The values at the end of a path from each item. -/
def valuesAtEach (steps : List Text) : List Json → List Json
  | [] => []
  | item :: rest => valuesAt steps item ++ valuesAtEach steps rest

/-- The values at the end of a path that begins with a key. -/
def valuesUnder (key : Text) (steps : List Text) : List (Key × Json) → List Json
  | [] => []
  | (k, value) :: more => if k.isName key then valuesAt steps value else valuesUnder key steps more

end

/-- The steps of a field's name. -/
def pathSteps (field : Text) : List Text := field.split '.'

/-- The stored fields of a hit. -/
def storedBlock? (hit : Fields) : Option Fields := (hit.get? "fields").bind Json.fields?

/-- The values of a field in a hit. -/
def fieldValues (hit : Fields) (field : Text) (style : MappingStyle) : List Json :=
  match (storedBlock? hit).bind (·.get? field) with
  | some stored => flatten stored
  | none =>
    match style with
    | .legacy => []
    | .typeless => valuesAt (pathSteps field) (hit.getD "_source" .null)

mutual

/-- No list and no `null` is left among the values. -/
theorem mem_flatten {value v : Json} (inside : v ∈ flatten value) :
    v ≠ .null ∧ ∀ items, v ≠ .arr items := by
  match value with
  | .null => simp [flatten] at inside
  | .arr items =>
    rw [flatten] at inside
    exact mem_flattenItems inside
  | .bool b | .int i | .float x | .str text | .obj fields =>
    simp only [flatten, List.mem_singleton] at inside
    simp [inside]

/-- The items of a list, as `mem_flatten` says. -/
theorem mem_flattenItems {items : List Json} {v : Json} (inside : v ∈ flattenItems items) :
    v ≠ .null ∧ ∀ items, v ≠ .arr items := by
  match items with
  | [] => simp [flattenItems] at inside
  | item :: rest =>
    rw [flattenItems, List.mem_append] at inside
    rcases inside with first | later
    · exact mem_flatten first
    · exact mem_flattenItems later

end

end EngineGateway.Search
