import EngineGateway.Decimal.Binary
import EngineGateway.Text.Basic

/-!
# Keys of fields

Data that is read has texts for keys. An object that is made of pairs may have any value without
parts for one, and such keys are one key when they are equal as values: true counts as one and false
as zero, and a float counts as the whole number that it is.
-/

namespace EngineGateway

/-- The key of a field. -/
inductive Key where
  | name (text : Text)
  | null
  | bool (b : Bool)
  | int (i : Int)
  | float (x : Float)
  deriving Inhabited

namespace Key

instance : Coe Text Key := ⟨.name⟩

instance : Coe String Key := ⟨fun s => .name s⟩

/-- The text that a key is, if it is one. -/
def name? : Key → Option Text
  | .name text => some text
  | _ => none

/-- Whether a key is a given text. -/
def isName : Key → Text → Bool
  | .name text, asked => text = asked
  | _, _ => false

/-- Whether a key is a text. -/
def isText : Key → Bool
  | .name _ => true
  | _ => false

/-- Whether a key can be written in octets. -/
def isWritable : Key → Bool
  | .name text => text.isString
  | _ => true

/-- The whole number that a key counts as. -/
def whole? : Key → Option Int
  | .bool b => some (if b then 1 else 0)
  | .int i => some i
  | .float x => Decimal.whole? x
  | _ => none

/-- Whether two keys are one key. An undefined float is the same key wherever it stands. -/
def same : Key → Key → Bool
  | .name s, .name t => s = t
  | .null, .null => true
  | .float x, .float y => x == y || (x.isNaN && y.isNaN)
  | left, right =>
    match left.whole?, right.whole? with
    | some m, some n => m = n
    | _, _ => false

/-- A key and a text are one key when the key is the text. -/
theorem same_name (key : Key) (text : Text) : key.same (.name text) = key.isName text := by
  cases key <;> simp [same, isName, whole?]

/-- A text is itself and no other text. -/
@[simp] theorem isName_name (s t : Text) : (Key.name s).isName t = decide (s = t) := rfl

end Key

end EngineGateway
