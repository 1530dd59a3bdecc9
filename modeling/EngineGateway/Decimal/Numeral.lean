import EngineGateway.Decimal.Binary
import EngineGateway.Text.Blank
import EngineGateway.Text.CharacterSet

/-!
# Reading numbers

Texts that denote numbers. Two spellings are in use. A *setting* is written in ASCII digits, may
have white space around it, and may join groups of digits with single underscores; a whole number
may have a plus and zeros in front, and may end in a point and zeros. An *argument* of the command
line may be written in the decimal digits of any script, with white space around it and underscores
between digits only.
-/

namespace EngineGateway.Decimal

open EngineGateway.Text

/-- The float nearest to `digits * 10 ^ exponent`. Numbers beyond every float, on either side, are
told from the position of the leading digit, so that no huge power of ten is computed. -/
def nearest (digits : Nat) (exponent : Int) : Float :=
  if digits == 0 then 0
  else
    let leading := (toString digits).length + exponent
    if leading > 400 then 1.0 / 0.0
    else if leading < -400 then 0
    else Float.ofScientific digits (exponent < 0) exponent.natAbs

/-- The float nearest to a signed number. -/
def signed (negative : Bool) (magnitude : Float) : Float :=
  if negative then -magnitude else magnitude

/-- The float nearest to a whole number; `none` if it is beyond the finite floats. -/
def ofInt? (i : Int) : Option Float :=
  let x := nearest i.natAbs 0
  if isFinite x then some (signed (i < 0) x) else none

/-- A sign in front, and whether it is a minus. -/
def splitSign : List Char → Bool × List Char
  | '-' :: rest => (true, rest)
  | '+' :: rest => (false, rest)
  | cs => (false, cs)

/-- The number of a non-empty run of ASCII digits. -/
def natural? (cs : List Char) : Option Nat :=
  if !cs.isEmpty && cs.all Char.isDigit then some (digitsValue cs) else none

/-- The exponent after `e`; no text means zero. -/
def exponentPart? : List Char → Option Int
  | [] => some 0
  | mark :: rest =>
    if mark == 'e' || mark == 'E' then
      let (negative, digits) := splitSign rest
      (natural? digits).map fun n => if negative then -(n : Int) else n
    else none

/-- An unsigned decimal with optional fraction and exponent and at least one digit before the
exponent. -/
def decimal? (cs : List Char) : Option Float :=
  let whole := cs.takeWhile Char.isDigit
  let rest := cs.dropWhile Char.isDigit
  let (fraction, rest) := match rest with
    | '.' :: after => (after.takeWhile Char.isDigit, after.dropWhile Char.isDigit)
    | _ => ([], rest)
  if whole.isEmpty && fraction.isEmpty then none
  else
    (exponentPart? rest).map fun exponent =>
      nearest (digitsValue (whole ++ fraction)) (exponent - fraction.length)

/-- A float without blanks around it: a decimal or one of the words for infinity and for an
undefined value, in any case of letters. -/
def float? (cs : List Char) : Option Float :=
  let (negative, magnitude) := splitSign cs
  let word := String.ofList (magnitude.map Char.toLower)
  if word == "inf" || word == "infinity" then some (signed negative (1.0 / 0.0))
  else if word == "nan" then some (0.0 / 0.0)
  else (decimal? magnitude).map (signed negative)

/-- Joins groups of digits: `none` if an underscore stands at an end or beside another one. -/
def joinGroups? (cs : List Char) : Option (List Char) :=
  let rec go (afterMark : Bool) : List Char → Option (List Char)
    | [] => if afterMark then none else some []
    | '_' :: rest => if afterMark then none else go true rest
    | c :: rest => (go false rest).map (c :: ·)
  go true cs

/-- A float given as a setting. -/
def settingFloat? (s : String) : Option Float :=
  match float? (strip isSpace s.toList) with
  | some x => some x
  | none => (joinGroups? s.toList).bind float?

/-- The most digits that a whole number may be written with. -/
def digitLimit : Nat := 4300

/-- Whether a whole number has no more digits than it may be written with. -/
def isCountable (i : Int) : Bool := (Nat.toDigits 10 i.natAbs).length ≤ digitLimit

/-- A number has few digits exactly if it is not too great. -/
theorem length_toDigits_le_iff {n limit : Nat} (positive : 0 < limit) :
    (Nat.toDigits 10 n).length ≤ limit ↔ n < Nat.pow 10 limit :=
  Nat.length_toDigits_le_iff (by decide) positive

/-- What a text in the place of a whole number turns out to be. -/
inductive WholeText where
  | number (i : Int)
  /-- It begins with more digits than a number may have. -/
  | tooLong
  | unreadable
  deriving Repr, DecidableEq

/-- A digit other than zero. -/
def isLeadingDigit (c : Char) : Bool := c.isDigit && c != '0'

/-- A minus at the front, and what follows it. -/
def splitMinus : List Char → Bool × List Char
  | '-' :: rest => (true, rest)
  | cs => (false, cs)

/-- A whole number in its plain form: a minus if it is below zero, and digits, of which the first is
zero only if it is the last as well. -/
def plainInt (cs : List Char) : WholeText :=
  let (negative, digits) := splitMinus cs
  let run := digits.takeWhile Char.isDigit
  if run.head?.any isLeadingDigit && run.length > digitLimit then .tooLong
  else if run.isEmpty || run.length != digits.length then .unreadable
  else if run.head? == some '0' && run.length > 1 then .unreadable
  else .number (if negative then -(digitsValue run : Int) else digitsValue run)

/-- The text from its first digit or minus on, after the zeros that lead it and the underscores
among them. Of nothing but such, and before a point, the last one stays. -/
def dropLeadingZeros? : List Char → Option (List Char)
  | [] => none
  | '0' :: rest => afterZeros '0' rest
  | c :: rest => if isLeadingDigit c || c == '-' then some (c :: rest) else none
where
  /-- What stands after zeros, the last of which is `last`. -/
  afterZeros (last : Char) : List Char → Option (List Char)
    | [] => some [last]
    | c :: rest =>
      if c == '0' || c == '_' then afterZeros c rest
      else if isLeadingDigit c || c == '-' then some (c :: rest)
      else if c == '.' then some (last :: c :: rest)
      else none

/-- The text without a point that nothing but zeros follow, of which there must be one. -/
def dropZeroFraction (cs : List Char) : List Char :=
  match cs.dropWhile (· != '.') with
  | '.' :: zero :: zeros => if (zero :: zeros).all (· == '0') then cs.takeWhile (· != '.') else cs
  | _ => cs

/-- The text from its first digit on, after a minus that stays. -/
def dropZerosAfterSign? : List Char → Option (List Char)
  | '-' :: rest => (dropLeadingZeros? rest).map ('-' :: ·)
  | cs => dropLeadingZeros? cs

/-- The text in its plain form: without blanks around it, a plus, leading zeros, zeros after a
point, and underscores between groups of digits. -/
def plainForm? (cs : List Char) : Option (List Char) := do
  let unsigned ← match strip isSpace cs with
    | '+' :: '-' :: _ => none
    | '+' :: rest => some rest
    | other => some other
  let whole := dropZeroFraction (← dropZerosAfterSign? unsigned)
  return (joinGroups? whole).getD whole

/-- A whole number given as a setting. One that has its plain form already may be too long; in every
other form that is a fault like any other. -/
def settingInt (s : String) : WholeText :=
  match plainInt s.toList with
  | .unreadable =>
    match (plainForm? s.toList).map plainInt with
    | some (.number i) => .number i
    | _ => .unreadable
  | read => read

/-- Writes the decimal digits of every script in ASCII. -/
def asciiDigits (cs : List Char) : List Char :=
  cs.map fun c => match digitValue? c with
    | some value => Char.ofNat (0x30 + value)
    | none => c

/-- Joins groups of digits: `none` unless every underscore stands between two digits. -/
def joinDigitGroups? (cs : List Char) : Option (List Char) :=
  let rec go (afterDigit : Bool) : List Char → Option (List Char)
    | [] => some []
    | '_' :: c :: rest =>
      if afterDigit && c.isDigit then (go true rest).map (c :: ·) else none
    | ['_'] => none
    | c :: rest => (go c.isDigit rest).map (c :: ·)
  go false cs

/-- The characters of an argument as plain ASCII, without white space around them. -/
def argumentChars? (text : Text) : Option (List Char) := do
  joinDigitGroups? (asciiDigits (strip isSpace (← text.chars?)))

/-- A float given as an argument. -/
def argumentFloat? (text : Text) : Option Float := (argumentChars? text).bind float?

/-- What a text in the place of a whole number turns out to be where all digits count. -/
inductive ArgumentInt where
  | number (i : Int)
  /-- It begins with so many digits, and a number may not have so many. -/
  | tooLong (digits : Nat)
  | unreadable
  deriving Repr, DecidableEq

/-- A point of an argument in ASCII: white space is a blank, a digit of any script a digit, and what
is no ASCII character besides is none of an argument. -/
def argumentChar : Point → Char
  | .half _ => '?'
  | .char c =>
    if isSpace c then ' '
    else
      match digitValue? c with
      | some value => Char.ofNat (0x30 + value)
      | none => if c.toNat < 0x80 then c else '?'

/-- Whether a row has a digit at both ends and no two underscores side by side. -/
def isGrouped (afterDigit : Bool) : List Char → Bool
  | [] => afterDigit
  | '_' :: rest => afterDigit && isGrouped false rest
  | _ :: rest => isGrouped true rest

/-- A whole number given as an argument. Its digits are counted before anything is looked at that
follows them. -/
def argumentInt (text : Text) : ArgumentInt :=
  let isOfRow (c : Char) : Bool := c.isDigit || c == '_'
  let (negative, magnitude) :=
    splitSign ((text.points.map argumentChar).dropWhile (· == ' '))
  let row := magnitude.takeWhile isOfRow
  let digits := row.filter Char.isDigit
  if !isGrouped false row then .unreadable
  else if digits.length > digitLimit then .tooLong digits.length
  else if !(magnitude.dropWhile isOfRow).all (· == ' ') then .unreadable
  else .number (if negative then -(digitsValue digits : Int) else digitsValue digits)

/-- A whole number given as an argument; one with more digits than the limit is refused. -/
def argumentInt? (text : Text) : Option Int :=
  match argumentInt text with
  | .number i => some i
  | .tooLong _ | .unreadable => none

end EngineGateway.Decimal
