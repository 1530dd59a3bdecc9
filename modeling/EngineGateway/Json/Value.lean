import EngineGateway.Json.Key

/-!
# JSON values

The data that an engine is asked with and answers. Whole numbers and floats are different values and
keep their difference. An object is the list of its fields in the order in which they were first
written; `Fields.put` keeps that order and keeps keys unique.
-/

namespace EngineGateway

/-- A JSON value. -/
inductive Json where
  | null
  | bool (b : Bool)
  | int (i : Int)
  | float (x : Float)
  | str (text : Text)
  | arr (items : List Json)
  | obj (fields : List (Key × Json))
  deriving Inhabited

/-- The fields of an object, in order. -/
abbrev Fields := List (Key × Json)

namespace Fields

/-- The value of the first field with a key. -/
def get? : Fields → Text → Option Json
  | [], _ => none
  | (k, value) :: rest, name => if k.isName name then some value else get? rest name

/-- The value of a field, or `default` if the key is absent. A `null` that is present counts as a
value. -/
def getD (fields : Fields) (name : Text) (default : Json) : Json := (fields.get? name).getD default

/-- Whether a key is present. -/
def has (fields : Fields) (name : Text) : Bool := (fields.get? name).isSome

/-- The keys in order. -/
def keys (fields : Fields) : List Key := fields.map Prod.fst

/-- Sets a field. A key that is present keeps its place, a new one comes last. -/
def put : Fields → Key → Json → Fields
  | [], key, value => [(key, value)]
  | (k, v) :: rest, key, value =>
    if k.same key then (k, value) :: rest else (k, v) :: put rest key value

/-- The fields of a list of assignments, the later ones winning. -/
def ofAssignments (assignments : List (Key × Json)) : Fields :=
  assignments.foldl (fun fields a => fields.put a.1 a.2) []

/-- The fields with keys that are no texts spelled as texts; fields that come to have one key become
one. -/
def respelled (spell : Key → Key) (fields : Fields) : Fields :=
  if fields.all fun field => field.1.isText then fields
  else ofAssignments (fields.map fun field => (spell field.1, field.2))

/-- What was put is found. -/
theorem get?_put_self (fields : Fields) (name : Text) (value : Json) :
    (fields.put name value).get? name = some value := by
  induction fields with
  | nil => simp [put, get?, Key.isName]
  | cons field rest inductionHypothesis =>
    by_cases same : field.1.isName name = true <;>
      simp [put, get?, Key.same_name, same, inductionHypothesis]

/-- Putting one key leaves every other key as it was. -/
theorem get?_put_of_ne {name asked : Text} (different : asked ≠ name) (fields : Fields)
    (value : Json) : (fields.put name value).get? asked = fields.get? asked := by
  induction fields with
  | nil => simp [put, get?, Key.isName, different.symm]
  | cons field rest inductionHypothesis =>
    by_cases same : field.1.isName name = true
    · have other : field.1.isName asked = false := by
        cases key : field.1 <;> simp_all [Key.isName, different.symm]
      simp [put, get?, Key.same_name, same, other]
    · simp only [put, Key.same_name, same, if_false, Bool.false_eq_true, get?, inductionHypothesis]

/-- Putting a key that is present leaves the order of keys alone; a new key comes last. -/
theorem keys_put (fields : Fields) (key : Key) (value : Json) :
    (fields.put key value).keys =
      if fields.keys.any (·.same key) then fields.keys else fields.keys ++ [key] := by
  induction fields with
  | nil => simp [put, keys]
  | cons field rest inductionHypothesis =>
    simp only [keys] at inductionHypothesis ⊢
    by_cases same : field.1.same key = true
    · simp [put, same]
    · simp only [put, same, if_false, Bool.false_eq_true, List.map_cons, inductionHypothesis,
        List.any_cons, Bool.false_or]
      by_cases present : (rest.map Prod.fst).any (fun k => k.same key) = true <;> simp [present]

/-- Fields whose keys are all texts are spelled as they are. -/
theorem respelled_of_forall {fields : Fields} (texts : ∀ field ∈ fields, field.1.isText = true)
    (spell : Key → Key) : fields.respelled spell = fields := by
  simp only [respelled, List.all_eq_true.2 texts, if_true]

end Fields

namespace Json

/-- The fields of an object; `none` for every other value. -/
def fields? : Json → Option Fields
  | .obj fields => some fields
  | _ => none

/-- The value that a key is. -/
def ofKey : Key → Json
  | .name text => .str text
  | .null => .null
  | .bool b => .bool b
  | .int i => .int i
  | .float x => .float x

/-- The text that a value is; `none` for every other value. -/
def text? : Json → Option Text
  | .str text => some text
  | _ => none

/-- A text, or `null`. -/
def ofText? (text : Option Text) : Json := (text.map Json.str).getD .null

/-- A yes or no, or `null`. -/
def ofBool? (answer : Option Bool) : Json := (answer.map Json.bool).getD .null

/-- An object, or `null`. -/
def ofFields? (fields : Option Fields) : Json := (fields.map Json.obj).getD .null

/-- A list of texts. -/
def ofTexts (texts : List Text) : Json := .arr (texts.map Json.str)

/-- A natural number. -/
def ofNat (n : Nat) : Json := .int n

/-- Whether a value is `null`. -/
def isNull : Json → Bool
  | .null => true
  | _ => false

/-- The key that a value can be. What has parts can be none. -/
def key? : Json → Option Key
  | .str text => some (.name text)
  | .null => some .null
  | .bool b => some (.bool b)
  | .int i => some (.int i)
  | .float x => some (.float x)
  | .arr _ | .obj _ => none

/-- The whole number that a value counts as where it is compared with numbers: true is one and false
zero, and a float without fraction is the number that it is. -/
def whole? (value : Json) : Option Int := value.key?.bind Key.whole?

/-- Whether a value counts as true where only a yes or no is wanted: `null`, false, zero, and what
is empty do not. An undefined float does. -/
def truthy : Json → Bool
  | .null => false
  | .bool b => b
  | .int i => i != 0
  | .float x => !(x == 0.0)
  | .str text => !text.isEmpty
  | .arr items => !items.isEmpty
  | .obj fields => !fields.isEmpty

/-- What is met in going through a value item by item: the items of an array, the keys of an object,
the points of a text. Other values have no items. -/
def elements? : Json → Option (List Json)
  | .arr items => some items
  | .obj fields => some (fields.map fun field => ofKey field.1)
  | .str text => some (text.points.map fun point => .str ⟨[point]⟩)
  | _ => none

/-- What a key is can be a key, and that key. -/
theorem key?_ofKey (key : Key) : (ofKey key).key? = some key := by
  cases key <;> rfl

/-- Whether a key satisfies `whole` where it is a whole number, and `float` where it is a float. -/
def keyNumbers (whole : Int → Bool) (float : Float → Bool) : Key → Bool
  | .int i => whole i
  | .float x => float x
  | _ => true

section

variable (whole : Int → Bool) (float : Float → Bool)

mutual

/-- Whether every value and every key inside satisfies `whole` where it is a whole number, and
`float` where it is a float. -/
def allNumbers : Json → Bool
  | .int i => whole i
  | .float x => float x
  | .arr items => allNumbersList items
  | .obj fields => allNumbersFields fields
  | _ => true

/-- The items of an array, as `allNumbers` asks. -/
def allNumbersList : List Json → Bool
  | [] => true
  | item :: rest => allNumbers item && allNumbersList rest

/-- The fields of an object, as `allNumbers` asks. -/
def allNumbersFields : List (Key × Json) → Bool
  | [] => true
  | (key, value) :: rest =>
    keyNumbers whole float key && allNumbers value && allNumbersFields rest

end

end

end Json

end EngineGateway
