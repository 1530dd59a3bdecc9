import EngineGateway.Decimal.Numeral
import EngineGateway.Json.Value
import EngineGateway.Validation.Checked

/-!
# Checks of single values

What counts as a text, a number, a yes or no, a list or a dictionary when data comes from outside.
The checks are lenient where the meaning is plain: a number may be given as a text, a yes or no as a
word or as zero or one. They are strict about kinds: a text is only a text. Fields that nobody asked
for are passed over.
-/

namespace EngineGateway.Check

/-- A text. -/
def text : Json → Checked Text
  | .str t => .passed t
  | _ => .refuse .text

/-- What a text stands for that has to be a string to be read. -/
def reading (t : Text) (read : String → Checked α) : Checked α :=
  match t.string? with
  | some s => read s
  | none => .refuse .unicodeText

/-- The bound of the whole numbers of 64 bits. -/
def wordBound : Nat := Nat.pow 2 63

/-- The whole number that a float stands for, if it has no fraction and is not beyond 64 bits. -/
def wholeOfFloat (x : Float) : Checked Int :=
  if !Decimal.isFinite x then .refuse .finite
  else
    match Decimal.whole? x with
    | none => .refuse .noFraction
    | some whole => if wordBound ≤ whole.natAbs then .refuse .wholeNumberSize else .passed whole

/-- A whole number, a float without fraction, or a text of one; true counts as one and false as
zero. -/
def integer : Json → Checked Int
  | .int i => .passed i
  | .bool b => .passed (if b then 1 else 0)
  | .float x => wholeOfFloat x
  | .str t => reading t fun s =>
    match Decimal.settingInt s with
    | .number i => .passed i
    | .tooLong => .refuse .wholeNumberSize
    | .unreadable => .refuse .wholeNumberText
  | _ => .refuse .wholeNumber

/-- A number, or a text of one. -/
def number : Json → Checked Float
  | .float x => .passed x
  | .bool b => .passed (if b then 1 else 0)
  | .int i => match Decimal.ofInt? i with
    | some x => .passed x
    | none => .refuse .number
  | .str t => reading t fun s =>
    match Decimal.settingFloat? s with
    | some x => .passed x
    | none => .refuse .numberText
  | _ => .refuse .number

/-- The words for yes and no. -/
def yesNoWord? (s : String) : Option Bool :=
  let word := String.ofList (s.toList.map Char.toLower)
  if ["1", "on", "t", "true", "y", "yes"].contains word then some true
  else if ["0", "off", "f", "false", "n", "no"].contains word then some false
  else none

/-- The whole numbers for yes and no. One beyond 64 bits is not even looked at. -/
def yesNoOfInt (i : Int) : Checked Bool :=
  if i == 0 then .passed false
  else if i == 1 then .passed true
  else if -(wordBound : Int) ≤ i && i < wordBound then .refuse .yesNoReadable
  else .refuse .yesNo

/-- A yes or no, as such, as zero or one, or as a word. -/
def yesNo : Json → Checked Bool
  | .bool b => .passed b
  | .int i => yesNoOfInt i
  | .str t => reading t fun s =>
    match yesNoWord? s with
    | some b => .passed b
    | none => .refuse .yesNoReadable
  | .float x => match wholeOfFloat x with
    | .passed i => yesNoOfInt i
    | .failed _ => .refuse .yesNo
  | _ => .refuse .yesNo

/-- One of some names, exactly as written. -/
def oneOf (names : List String) (ofName? : Text → Option α) : Json → Checked α
  | .str t => reading t fun s =>
    match ofName? s with
    | some choice => .passed choice
    | none => .refuse (.oneOf names)
  | _ => .refuse (.oneOf names)

/-- A dictionary. -/
def dictionary : Json → Checked Fields
  | .obj fields => .passed fields
  | _ => .refuse .dictionary

/-- A list whose items all pass a check. -/
def list (item : Json → Checked α) : Json → Checked (List α)
  | .arr items => .eachFrom 0 item items
  | _ => .refuse .list

/-- `null`, or a value that passes a check. -/
def nullable (check : Json → Checked α) : Json → Checked (Option α)
  | .null => .passed none
  | value => some <$> check value

/-- The fields of a record. -/
def record (model : String) (check : Fields → Checked α) : Json → Checked α
  | .obj fields => check fields
  | _ => .refuse (.record model)

/-- A field that must be there. -/
def required (fields : Fields) (key : String) (check : Json → Checked α) : Checked α :=
  .under (.key key) <| match fields.get? key with
    | some value => check value
    | none => .refuse .present

/-- A field that may be left out. -/
def optional (fields : Fields) (key : String) (default : α) (check : Json → Checked α) :
    Checked α :=
  match fields.get? key with
  | some value => .under (.key key) (check value)
  | none => .passed default

/-- A natural number. -/
def natural (value : Json) : Checked Nat :=
  (integer value).andThen fun i => if i < 0 then .refuse .nonNegative else .passed i.toNat

/-- A number above zero; an undefined number is not. -/
def positive (value : Json) : Checked Float :=
  (number value).andThen fun x => if x > 0 then .passed x else .refuse .positive

/-- A number that is not below zero; an undefined number is no such number. -/
def nonNegative (value : Json) : Checked Float :=
  (number value).andThen fun x => if x >= 0 then .passed x else .refuse .nonNegative

/-- A string is read as it is. -/
@[simp] theorem reading_ofString (s : String) (read : String → Checked α) :
    reading s read = read s := by
  simp [reading]

/-- A natural number that was written passes. -/
theorem natural_ofNat (n : Nat) : natural (.ofNat n) = .passed n := by
  have counts : ¬(n : Int) < 0 := Int.not_lt.2 (Int.natCast_nonneg n)
  simp [natural, Json.ofNat, integer, Checked.andThen, counts]

/-- A list of texts that was written passes. -/
theorem list_ofTexts (texts : List Text) : list text (.ofTexts texts) = .passed texts := by
  have passes : ∀ t ∈ texts, text (.str t) = .passed (id t) := fun _ _ => rfl
  simpa [list, Json.ofTexts] using Checked.eachFrom_map passes 0

end EngineGateway.Check
