import EngineGateway.Decimal.Shortest

/-!
# The text of a float

How the shortest decimal of a float is laid out: positional while the exponent of its leading digit
lies in a fixed range, with a digit on both sides of the point, and scientific outside it. The two
layouts in use differ in their words for what is no number.
-/

namespace EngineGateway.Decimal

/-- The decisions of a float format. -/
structure Layout where
  /-- The least exponent of the leading digit that is written positionally. -/
  leastPlain : Int
  /-- The greatest exponent of the leading digit that is written positionally. -/
  greatestPlain : Int
  /-- The least number of digits of a written exponent. -/
  exponentWidth : Nat
  /-- The word for an undefined value. -/
  undefined : String
  /-- The word for infinity. -/
  infinity : String

/-- Floats in messages. -/
def Layout.message : Layout := ⟨-4, 15, 2, "nan", "inf"⟩

/-- Floats in JSON text. -/
def Layout.json : Layout := ⟨-4, 15, 2, "NaN", "Infinity"⟩

/-- A natural number with zeros in front until it has `width` digits. -/
def padded (width n : Nat) : String :=
  let digits := toString n
  String.ofList (List.replicate (width - digits.length) '0') ++ digits

/-- `count` zeros. -/
def zeroRun (count : Nat) : List Char := List.replicate count '0'

/-- A decimal without an exponent and with a digit on both sides of the point. -/
def plainText (digits : List Char) (exponent : Int) : List Char :=
  if 0 ≤ exponent then digits ++ zeroRun exponent.toNat ++ ['.', '0']
  else
    let places := (-exponent).toNat
    if places < digits.length then
      digits.take (digits.length - places) ++ '.' :: digits.drop (digits.length - places)
    else '0' :: '.' :: zeroRun (places - digits.length) ++ digits

/-- A decimal with one digit before the point and an exponent that always has a sign. -/
def scientificText (width : Nat) (digits : List Char) (leading : Int) : List Char :=
  let mantissa := match digits with
    | [] => []
    | [d] => [d]
    | d :: rest => d :: '.' :: rest
  let sign := if leading < 0 then '-' else '+'
  mantissa ++ 'e' :: sign :: (padded width leading.natAbs).toList

/-- The text of a positive decimal. -/
def Layout.decimalText (layout : Layout) (d : Scaled) : String :=
  let digits := (toString d.digits).toList
  let leading := d.exponent + digits.length - 1
  String.ofList <|
    if layout.leastPlain ≤ leading && leading ≤ layout.greatestPlain then
      plainText digits d.exponent
    else scientificText layout.exponentWidth digits leading

/-- The text of a float: the fewest digits that read back, laid out as the format says. -/
def Layout.text (layout : Layout) (x : Float) : String :=
  match Binary.ofFloat x with
  | .undefined => layout.undefined
  | .infinite negative => (if negative then "-" else "") ++ layout.infinity
  | .finite negative mantissa exponent =>
    (if negative then "-" else "") ++
      if mantissa == 0 then "0.0" else layout.decimalText (shortest mantissa exponent)

/-- The text of a float with two decimal places; an exact half goes to the even neighbour. -/
def hundredths (x : Float) : String :=
  match Binary.ofFloat x with
  | .undefined => "nan"
  | .infinite negative => if negative then "-inf" else "inf"
  | .finite negative mantissa exponent =>
    let doubled := scaledFloor mantissa exponent 200
    let exact := scaledFloor mantissa exponent 200 * Nat.pow 2 (-exponent).toNat ==
      mantissa * 200 * Nat.pow 2 exponent.toNat
    let whole := doubled / 2
    let rounded :=
      if doubled % 2 == 0 then whole
      else if exact && whole % 2 == 0 then whole
      else whole + 1
    (if negative then "-" else "") ++ toString (rounded / 100) ++ "." ++ padded 2 (rounded % 100)

end EngineGateway.Decimal
