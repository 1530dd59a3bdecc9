import EngineGateway.Failure

/-!
# What is in a value

Where an object is wanted, an object is taken as it is, and so is a list of pairs: each item gives
one field, the later ones winning. Only lists, texts and objects have items; what has none is of the
wrong kind, and an item that is no pair is refused.

Whether a value is among the keys of an object or the items of a list, or a part of a text, is a
question of equality. Values are compared by what they are equal to: numbers by size, lists item by
item, and objects field by field, in whatever order the fields stand.
-/

namespace EngineGateway.Json

/-- A value in the place of a key. What has parts cannot be one. -/
def asKey (value : Json) : Except Failure Key :=
  match value.key? with
  | some key => .ok key
  | none => .error .wrongKind

/-- An item that is a pair. -/
def asPair (item : Json) : Except Failure (Key × Json) :=
  match item.elements? with
  | none => .error .wrongKind
  | some [key, value] => do return (← asKey key, value)
  | some _ => .error .notPairs

/-- A value taken for an object. -/
def asFields : Json → Except Failure Fields
  | .obj fields => .ok fields
  | value =>
    match value.elements? with
    | none => .error .wrongKind
    | some items => do return Fields.ofAssignments (← items.mapM asPair)

/-- Whether one list occurs in another without gaps. -/
def occursIn {α : Type} [BEq α] (part : List α) : List α → Bool
  | [] => part.isEmpty
  | x :: rest => part.isPrefixOf (x :: rest) || occursIn part rest

/-- Whether two values without parts are equal. -/
def sameScalar (a b : Json) : Bool :=
  match a.key?, b.key? with
  | some left, some right => left.same right
  | _, _ => false

mutual

/-- Whether two values are equal. -/
def same : Json → Json → Bool
  | .arr items, other =>
    match other with
    | .arr others => sameItems items others
    | _ => false
  | .obj fields, other =>
    match other with
    | .obj others => fields.length == others.length && sameFields fields others
    | _ => false
  | scalar, other => sameScalar scalar other

/-- Whether two lists have equal items. -/
def sameItems : List Json → List Json → Bool
  | [], others => others.isEmpty
  | item :: rest, others =>
    match others with
    | other :: more => same item other && sameItems rest more
    | [] => false

/-- Whether every field is one of `others`. -/
def sameFields : List (Key × Json) → List (Key × Json) → Bool
  | [], _ => true
  | (key, value) :: rest, others =>
    (others.any fun other => other.1.same key && same value other.2) && sameFields rest others

end

/-- Whether a value is in another. Numbers, a yes or no and `null` cannot be asked, and a text can
be asked for texts only. -/
def holds (whole part : Json) : Except Failure Bool :=
  match whole with
  | .obj fields => do
    let key ← part.asKey
    return fields.any fun field => field.1.same key
  | .arr items => .ok (items.any part.same)
  | .str text => do return occursIn (← part.textOr .wrongKind).points text.points
  | _ => .error .wrongKind

/-- An object holds the texts that are its keys. -/
theorem holds_obj_str (fields : Fields) (text : Text) :
    holds (.obj fields) (.str text) = .ok (fields.any fun field => field.1.isName text) := by
  simp [holds, asKey, key?, Key.same_name, bind, Except.bind, pure, Except.pure]

end EngineGateway.Json
