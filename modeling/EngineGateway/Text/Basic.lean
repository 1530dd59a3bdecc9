import EngineGateway.Text.Point
import EngineGateway.Text.Split

/-!
# Texts

A text is a row of points. A string is a text without halves of pairs, and stands for itself
wherever a text is wanted. Nothing that comes from outside is promised to be a string, so names,
values and messages are texts; only where octets are written does a half make a difference.
-/

namespace EngineGateway

/-- A row of points. -/
structure Text where
  points : List Text.Point
  deriving Repr, DecidableEq, Inhabited

namespace Text

/-- The text of some characters. -/
def ofChars (cs : List Char) : Text := ⟨pointsOf cs⟩

/-- The text that a string is. -/
def ofString (s : String) : Text := ofChars s.toList

instance : Coe String Text := ⟨ofString⟩

/-- The characters of a text, unless there is a half among them. -/
def chars? (text : Text) : Option (List Char) := charsOf? text.points

/-- The string that a text is, if it is one. -/
def string? (text : Text) : Option String := text.chars?.map String.ofList

/-- Whether a text is a string. -/
def isString (text : Text) : Bool := text.chars?.isSome

/-- Whether a text has no points. -/
def isEmpty (text : Text) : Bool := text.points.isEmpty

instance : Append Text := ⟨fun left right => ⟨left.points ++ right.points⟩⟩

/-- Texts in a row with a text between each two. -/
def joined (separator : Text) : List Text → Text
  | [] => ⟨[]⟩
  | [text] => text
  | text :: rest => text ++ separator ++ joined separator rest

/-- The parts of a text between the occurrences of a character. -/
def split (separator : Char) (text : Text) : List Text :=
  (splitBy (· == .char separator) text.points).map Text.mk

/-- The points before the first occurrence of a character. -/
def upTo (mark : Char) (text : Text) : Text := ⟨text.points.takeWhile (· != .char mark)⟩

/-- Whether a text begins with another. -/
def startsWith (text start : Text) : Bool := start.points.isPrefixOf text.points

/-- A text where only a string can be, with U+FFFD in the place of what is no character. -/
def shown (text : Text) : String := String.ofList (text.points.flatMap Point.shown)

/-- The points of two texts side by side. -/
@[simp] theorem points_append (left right : Text) :
    (left ++ right).points = left.points ++ right.points := rfl

/-- The characters of a text that was made of them. -/
@[simp] theorem chars?_ofChars (cs : List Char) : (ofChars cs).chars? = some cs :=
  charsOf?_pointsOf cs

/-- A string is the string that its text is. -/
@[simp] theorem string?_ofString (s : String) : (ofString s).string? = some s := by
  simp [ofString, string?]

/-- And the text is the string that it is. -/
theorem eq_ofString_of_string? {text : Text} {s : String} (string : text.string? = some s) :
    text = .ofString s := by
  obtain ⟨cs, read, rfl⟩ := Option.map_eq_some_iff.1 string
  obtain ⟨points⟩ := text
  rw [ofString, String.toList_ofList, ofChars]
  exact congrArg Text.mk (eq_pointsOf_of_charsOf? read)

/-- Different strings are different texts. -/
@[simp] theorem ofString_inj {s t : String} : ofString s = ofString t ↔ s = t := by
  refine ⟨fun same => ?_, congrArg ofString⟩
  have strings := congrArg string? same
  simpa using strings

/-- The text of two rows of characters side by side. -/
theorem ofChars_append (cs ds : List Char) : ofChars (cs ++ ds) = ofChars cs ++ ofChars ds := by
  rw [ofChars, pointsOf, List.map_append]
  rfl

/-- The text of two strings side by side. -/
theorem ofString_append (s t : String) : ofString (s ++ t) = ofString s ++ ofString t := by
  rw [ofString, String.toList_append, ofChars_append]
  rfl

end Text

end EngineGateway
