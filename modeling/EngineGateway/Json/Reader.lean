import EngineGateway.Decimal.Numeral
import EngineGateway.Json.Value
import EngineGateway.Text.CharacterSet

/-!
# Reading JSON text

A reader for JSON that also knows `NaN`, `Infinity` and `-Infinity`. In an object a repeated key
keeps its first place and its last value. An escape may stand for half a pair; two escapes that make
a pair stand for its character. A text that is no JSON is refused with the first fault and the place
of it; a whole number with more digits than the limit is refused as well, and so are arrays and
objects inside each other beyond a depth.

Each function takes the points that are left and returns those it leaves. The recursion is bounded
by a count that every call lowers; twice the number of points is enough, because between two calls
that read nothing there is one that reads a point.
-/

namespace EngineGateway.Json

/-- What can be wrong with a text. -/
inductive Fault where
  | noValue
  | extraData
  | noName
  | noColon
  | noComma
  | unterminated
  | controlCharacter
  | badEscape
  | badCodeEscape
  | byteOrderMark
  deriving Repr, DecidableEq

/-- The words for a fault. -/
def Fault.message : Fault → String
  | .noValue => "Expecting value"
  | .extraData => "Extra data"
  | .noName => "Expecting property name enclosed in double quotes"
  | .noColon => "Expecting ':' delimiter"
  | .noComma => "Expecting ',' delimiter"
  | .unterminated => "Unterminated string starting at"
  | .controlCharacter => "Invalid control character at"
  | .badEscape => "Invalid \\escape"
  | .badCodeEscape => "Invalid \\uXXXX escape"
  | .byteOrderMark => "Unexpected UTF-8 BOM (decode using utf-8-sig)"

/-- Why a text was refused: a fault at a place (line and column count from one, the offset from
zero), a whole number with too many digits, or too many levels. -/
inductive ReadError where
  | malformed (fault : Fault) (line column offset : Nat)
  | tooLong (digits : Nat)
  | tooDeep
  deriving Repr, DecidableEq

/-- The words for a number whose digits exceed the limit. -/
def tooLongMessage (digits : Nat) : String :=
  "Exceeds the limit (" ++ toString Decimal.digitLimit ++
    " digits) for integer string conversion: value has " ++ toString digits ++
    " digits; use sys.set_int_max_str_digits() to increase the limit"

/-- The words for a refusal. -/
def ReadError.message : ReadError → String
  | .malformed fault line column offset =>
    fault.message ++ ": line " ++ toString line ++ " column " ++ toString column ++
      " (char " ++ toString offset ++ ")"
  | .tooLong digits => tooLongMessage digits
  | .tooDeep => "too many arrays and objects inside each other"

/-- The most arrays and objects that may stand inside each other. -/
def depthLimit : Nat := 980

/-- A refusal while reading; a fault is placed by the number of points that were left. -/
inductive Stop where
  | fault (fault : Fault) (left : Nat)
  | tooLong (digits : Nat)
  | tooDeep

/-- Stops at the points that are left. -/
def stopAt (fault : Fault) (left : List Text.Point) : Except Stop α :=
  .error (.fault fault left.length)

/-- The blanks of JSON. -/
def isGap (c : Char) : Bool := c == ' ' || c == '\t' || c == '\n' || c == '\r'

/-- Passes over blanks. -/
def skipGap (points : List Text.Point) : List Text.Point :=
  points.dropWhile fun point => point.char?.any isGap

/-- The ASCII digits at the front, and what follows them. -/
def takeDigits : List Text.Point → List Char × List Text.Point
  | .char c :: rest =>
    if c.isDigit then
      let (digits, after) := takeDigits rest
      (c :: digits, after)
    else ([], .char c :: rest)
  | points => ([], points)

/-- What follows a word, if the points begin with it. -/
def afterWord? : List Char → List Text.Point → Option (List Text.Point)
  | [], points => some points
  | c :: word, .char d :: rest => if c = d then afterWord? word rest else none
  | _ :: _, _ => none

/-- The character that a letter after a backslash stands for. -/
def escaped? : Char → Option Char
  | '"' => some '"'
  | '\\' => some '\\'
  | '/' => some '/'
  | 'b' => some '\x08'
  | 'f' => some '\x0c'
  | 'n' => some '\n'
  | 'r' => some '\r'
  | 't' => some '\t'
  | _ => none

/-- The four digits after `\u`, which something must follow, since a string is still to be closed.
-/
def codeUnit? : List Text.Point → Option (Nat × List Text.Point)
  | a :: b :: c :: d :: next :: rest => do
    let digits ← Text.charsOf? [a, b, c, d]
    return (← Text.hexNumber? digits, next :: rest)
  | _ => none

/-- The point after `\u`, whose first half may need the escape that follows. `points` begins with
the letter `u`. -/
def codeEscape (points : List Text.Point) : Except Stop (Text.Point × List Text.Point) :=
  match codeUnit? (points.drop 1) with
  | none => stopAt .badCodeEscape points
  | some (unit, rest) =>
    if Text.isHighHalf unit then
      match rest with
      | .char '\\' :: .char 'u' :: digits =>
        if digits.length < 5 then .ok (.ofUnit unit, rest)
        else
          match codeUnit? digits with
          | none => stopAt .badCodeEscape (.char 'u' :: digits)
          | some (second, after) =>
            if Text.isLowHalf second then .ok (.char (Text.pairChar unit second), after)
            else .ok (.ofUnit unit, rest)
      | _ => .ok (.ofUnit unit, rest)
    else .ok (.ofUnit unit, rest)

/-- The points of a string up to its closing quote. `opened` is the number of points that were left
at the opening quote, and `read` holds what was read so far, the last first. -/
def stringBody (opened : Nat) :
    Nat → List Text.Point → List Text.Point → Except Stop (List Text.Point × List Text.Point)
  | 0, _, _ => .error (.fault .unterminated opened)
  | _ + 1, _, [] => .error (.fault .unterminated opened)
  | _ + 1, read, .char '"' :: rest => .ok (read.reverse, rest)
  | count + 1, read, .char '\\' :: rest =>
    match rest with
    | [] => .error (.fault .unterminated opened)
    | .char 'u' :: digits => do
      let (point, after) ← codeEscape (.char 'u' :: digits)
      stringBody opened count (point :: read) after
    | letter :: after =>
      match letter.char?.bind escaped? with
      | some character => stringBody opened count (.char character :: read) after
      | none => stopAt .badEscape (.char '\\' :: rest)
  | count + 1, read, point :: rest =>
    if point.char?.any fun c => c.toNat < 0x20 then stopAt .controlCharacter (point :: rest)
    else stringBody opened count (point :: read) rest

/-- A string; `points` begins after the opening quote. -/
def string (points : List Text.Point) : Except Stop (List Text.Point × List Text.Point) :=
  stringBody (points.length + 1) (points.length + 1) [] points

/-- The digits of a whole part: a zero alone, or a run that begins with another digit. -/
def wholePart? : List Text.Point → Option (List Char × List Text.Point)
  | .char '0' :: rest => some (['0'], rest)
  | points =>
    match takeDigits points with
    | ([], _) => none
    | read => some read

/-- The digits after a point; a point that no digit follows is left alone. -/
def fractionPart : List Text.Point → List Char × List Text.Point
  | .char '.' :: rest =>
    match takeDigits rest with
    | ([], _) => ([], .char '.' :: rest)
    | read => read
  | points => ([], points)

/-- A sign in front, and whether it is a minus. -/
def signPart : List Text.Point → Bool × List Text.Point
  | .char '-' :: rest => (true, rest)
  | .char '+' :: rest => (false, rest)
  | points => (false, points)

/-- The exponent and what follows it; an `e` that no digit follows is left alone. -/
def exponentPart (points : List Text.Point) : Option Int × List Text.Point :=
  match points with
  | [] => (none, points)
  | mark :: rest =>
    if mark.char?.any fun c => c == 'e' || c == 'E' then
      let (negative, unsigned) := signPart rest
      match takeDigits unsigned with
      | ([], _) => (none, points)
      | (digits, after) =>
        let n : Int := Text.digitsValue digits
        (some (if negative then -n else n), after)
    else (none, points)

/-- A number. It is a float as soon as it has a fraction or an exponent. -/
def number (points : List Text.Point) : Except Stop (Json × List Text.Point) :=
  let (negative, unsigned) := match points with
    | .char '-' :: rest => (true, rest)
    | _ => (false, points)
  match wholePart? unsigned with
  | none => stopAt .noValue points
  | some (whole, rest) =>
    let (fraction, rest) := fractionPart rest
    let (exponent, rest) := exponentPart rest
    if fraction.isEmpty && exponent.isNone then
      if whole.length > Decimal.digitLimit then .error (.tooLong whole.length)
      else
        let n : Int := Text.digitsValue whole
        .ok (.int (if negative then -n else n), rest)
    else
      let magnitude :=
        Decimal.nearest (Text.digitsValue (whole ++ fraction)) (exponent.getD 0 - fraction.length)
      .ok (.float (Decimal.signed negative magnitude), rest)

/-- The words that are values. -/
def words : List (List Char × Json) :=
  [("null".toList, .null), ("true".toList, .bool true), ("false".toList, .bool false),
    ("NaN".toList, .float (0.0 / 0.0)), ("Infinity".toList, .float (1.0 / 0.0)),
    ("-Infinity".toList, .float (-1.0 / 0.0))]

/-- A value that is a word. -/
def word? (points : List Text.Point) : Option (Json × List Text.Point) :=
  words.findSome? fun (word, value) => (afterWord? word points).map fun rest => (value, rest)

mutual

/-- A value of any kind, in which `levels` more levels may be opened. -/
def value : Nat → Nat → List Text.Point → Except Stop (Json × List Text.Point)
  | 0, _, points => stopAt .noValue points
  | _ + 1, _, .char '"' :: rest => do
    let (text, after) ← string rest
    return (.str ⟨text⟩, after)
  | _ + 1, 0, .char '[' :: _ => .error .tooDeep
  | _ + 1, 0, .char '{' :: _ => .error .tooDeep
  | count + 1, levels + 1, .char '[' :: rest =>
    match skipGap rest with
    | .char ']' :: after => .ok (.arr [], after)
    | first => items count levels [] first
  | count + 1, levels + 1, .char '{' :: rest =>
    match skipGap rest with
    | .char '}' :: after => .ok (.obj [], after)
    | first => members count levels [] first
  | _ + 1, _, points =>
    match word? points with
    | some read => .ok read
    | none => number points

/-- The items of an array from one that must be there; `read` holds those before it, the last
first. -/
def items : Nat → Nat → List Json → List Text.Point → Except Stop (Json × List Text.Point)
  | 0, _, _, points => stopAt .noValue points
  | count + 1, levels, read, points => do
    let (item, rest) ← value count levels points
    match skipGap rest with
    | .char ']' :: after => return (.arr (item :: read).reverse, after)
    | .char ',' :: after => items count levels (item :: read) (skipGap after)
    | other => stopAt .noComma other

/-- The members of an object from one that must be there; `read` holds the fields before it. -/
def members : Nat → Nat → Fields → List Text.Point → Except Stop (Json × List Text.Point)
  | 0, _, _, points => stopAt .noValue points
  | count + 1, levels, read, points =>
    match points with
    | .char '"' :: name => do
      let (text, rest) ← string name
      let key : Key := .name ⟨text⟩
      match skipGap rest with
      | .char ':' :: after =>
        let (item, rest) ← value count levels (skipGap after)
        match skipGap rest with
        | .char '}' :: after => return (.obj (read.put key item), after)
        | .char ',' :: after => members count levels (read.put key item) (skipGap after)
        | other => stopAt .noComma other
      | other => stopAt .noColon other
    | other => stopAt .noName other

end

/-- A whole text: one value with nothing but blanks around it. -/
def document (points : List Text.Point) : Except Stop Json :=
  match points with
  | .char '\uFEFF' :: _ => stopAt .byteOrderMark points
  | _ => do
    let (read, rest) ← value (2 * points.length + 2) depthLimit (skipGap points)
    match skipGap rest with
    | [] => return read
    | other => stopAt .extraData other

/-- The line and the column of the point after `before`, counting from one. -/
def lineAndColumn (before : List Text.Point) : Nat × Nat :=
  (before.count (.char '\n') + 1, (before.reverse.takeWhile (· != .char '\n')).length + 1)

/-- Places a refusal in the text. -/
def Stop.located (points : List Text.Point) : Stop → ReadError
  | .fault kind left =>
    let offset := points.length - left
    let (line, column) := lineAndColumn (points.take offset)
    .malformed kind line column offset
  | .tooLong digits => .tooLong digits
  | .tooDeep => .tooDeep

/-- The value that a text denotes. -/
def read (text : Text) : Except ReadError Json :=
  (document text.points).mapError (Stop.located text.points)

end EngineGateway.Json
