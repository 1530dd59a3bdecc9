import EngineGateway.Decimal.Binary
import EngineGateway.Failure

/-!
# Data that can be written

Strict JSON text has no spelling for infinity and for an undefined float, and a whole number is
written only if it has no more digits than a number may have. The first number that has no spelling
tells why the data cannot be sent.

Half a pair of code units has no octets, so data with one in it can be read and shown, but cannot be
written to a file or sent. Data that is handed on from a record has `null` in the place of floats
that are no numbers; there a half is suffered in a text, but not in a key, and only so many values
may stand inside each other.
-/

namespace EngineGateway.Json

/-- Whether every float inside is a number. -/
def isFinite (value : Json) : Bool := value.allNumbers (fun _ => true) Decimal.isFinite

/-- Whether no whole number inside has more digits than it may be written with. -/
def isCountable (value : Json) : Bool := value.allNumbers Decimal.isCountable fun _ => true

/-- Why a number has no spelling in strict JSON text. -/
inductive NumberFault where
  | notFinite
  | tooLong
  deriving Repr, DecidableEq

/-- The failure to write such a number. -/
def NumberFault.failure : NumberFault → Failure
  | .notFinite => .notFinite
  | .tooLong => .numberTooLong

/-- Why a key has no spelling, if it is a number. -/
def keyFault? : Key → Option NumberFault
  | .int i => if Decimal.isCountable i then none else some .tooLong
  | .float x => if Decimal.isFinite x then none else some .notFinite
  | _ => none

mutual

/-- Why the first number inside that has no spelling has none. -/
def numberFault? : Json → Option NumberFault
  | .int i => keyFault? (.int i)
  | .float x => keyFault? (.float x)
  | .arr items => itemsFault? items
  | .obj fields => fieldsFault? fields
  | _ => none

/-- The items of an array, as `numberFault?` goes through them. -/
def itemsFault? : List Json → Option NumberFault
  | [] => none
  | item :: rest => (numberFault? item).or (itemsFault? rest)

/-- The fields of an object, as `numberFault?` goes through them. -/
def fieldsFault? : List (Key × Json) → Option NumberFault
  | [] => none
  | (key, value) :: rest => ((keyFault? key).or (numberFault? value)).or (fieldsFault? rest)

end

/-- A key is spelled exactly if it is no number that has no spelling. -/
theorem keyFault?_eq_none_iff (key : Key) :
    keyFault? key = none ↔ keyNumbers (fun _ => true) Decimal.isFinite key = true ∧
      keyNumbers Decimal.isCountable (fun _ => true) key = true := by
  cases key <;> simp [keyFault?, keyNumbers]

mutual

/-- No number keeps a value from being written exactly if its floats are numbers and its whole
numbers short enough. -/
theorem numberFault?_eq_none_iff : (value : Json) →
    (numberFault? value = none ↔ value.isFinite = true ∧ value.isCountable = true)
  | .null | .bool _ | .str _ => by simp [numberFault?, isFinite, isCountable, allNumbers]
  | .int i => keyFault?_eq_none_iff (.int i)
  | .float x => keyFault?_eq_none_iff (.float x)
  | .arr items => itemsFault?_eq_none_iff items
  | .obj fields => fieldsFault?_eq_none_iff fields

/-- The same for the items of an array. -/
theorem itemsFault?_eq_none_iff : (items : List Json) → (itemsFault? items = none ↔
    allNumbersList (fun _ => true) Decimal.isFinite items = true ∧
      allNumbersList Decimal.isCountable (fun _ => true) items = true)
  | [] => by simp [itemsFault?, allNumbersList]
  | item :: rest => by
    have first := numberFault?_eq_none_iff item
    have others := itemsFault?_eq_none_iff rest
    unfold isFinite isCountable at first
    simp only [itemsFault?, allNumbersList, Option.or_eq_none_iff, Bool.and_eq_true, first, others]
    exact and_and_and_comm

/-- The same for the fields of an object. -/
theorem fieldsFault?_eq_none_iff : (fields : List (Key × Json)) → (fieldsFault? fields = none ↔
    allNumbersFields (fun _ => true) Decimal.isFinite fields = true ∧
      allNumbersFields Decimal.isCountable (fun _ => true) fields = true)
  | [] => by simp [fieldsFault?, allNumbersFields]
  | (key, value) :: rest => by
    have named := keyFault?_eq_none_iff key
    have first := numberFault?_eq_none_iff value
    have others := fieldsFault?_eq_none_iff rest
    unfold isFinite isCountable at first
    simp only [fieldsFault?, allNumbersFields, Option.or_eq_none_iff, Bool.and_eq_true, named,
      first, others, and_and_and_comm]

end

mutual

/-- Whether a value can be written in octets: every text and every key inside is a string. -/
def isWritable : Json → Bool
  | .str text => text.isString
  | .arr items => itemsWritable items
  | .obj fields => fieldsWritable fields
  | _ => true

/-- The items of an array, as `isWritable` asks. -/
def itemsWritable : List Json → Bool
  | [] => true
  | item :: rest => isWritable item && itemsWritable rest

/-- The fields of an object, as `isWritable` asks. -/
def fieldsWritable : List (Key × Json) → Bool
  | [] => true
  | (key, value) :: rest => key.isWritable && isWritable value && fieldsWritable rest

end

/-- The most values that may stand inside each other in what is handed on, the innermost one
counted. -/
def handedLevels : Nat := 255

mutual

/-- A value as it is handed on, in which `levels` values may stand inside each other. -/
def handedWithin (levels : Nat) : Json → Except Failure Json
  | .arr items =>
    match levels with
    | 0 => .error .nestedTooDeep
    | below + 1 => .arr <$> itemsWithin below items
  | .obj fields =>
    match levels with
    | 0 => .error .nestedTooDeep
    | below + 1 => .obj <$> fieldsWithin below fields
  | .float x =>
    if levels = 0 then .error .nestedTooDeep
    else .ok (if Decimal.isFinite x then .float x else .null)
  | value => if levels = 0 then .error .nestedTooDeep else .ok value

/-- The items of an array, as `handedWithin` hands them on. -/
def itemsWithin (levels : Nat) : List Json → Except Failure (List Json)
  | [] => .ok []
  | item :: rest => do return (← handedWithin levels item) :: (← itemsWithin levels rest)

/-- The fields of an object, as `handedWithin` hands them on. -/
def fieldsWithin (levels : Nat) : List (Key × Json) → Except Failure (List (Key × Json))
  | [] => .ok []
  | (key, value) :: rest =>
    if key.isWritable then do
      return (key, ← handedWithin levels value) :: (← fieldsWithin levels rest)
    else .error .unencodable

end

/-- A value as it is handed on. -/
def handedOn (value : Json) : Except Failure Json := handedWithin handedLevels value

end EngineGateway.Json
