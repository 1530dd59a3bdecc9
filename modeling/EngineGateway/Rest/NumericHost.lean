import EngineGateway.Text.CharacterSet
import EngineGateway.Text.Split

/-!
# Hosts by number

A host may be given by its number instead of a name. The short form is four decimal numbers below
256 with points between them; the long one is eight hexadecimal numbers of four digits at most with
colons between them. In the long form two colons may stand once for as many zeros as are missing,
one at least, and the last two numbers may be given in the short form.
-/

namespace EngineGateway.Rest

open Text

/-- A row of decimal digits. -/
def isDigitRow (part : List Char) : Bool := !part.isEmpty && part.all Char.isDigit

/-- A decimal number below 256 without leading zeros. -/
def isShortPart (part : List Char) : Bool :=
  isDigitRow part && part.length ≤ 3 && digitsValue part < 256 &&
    (part == ['0'] || part.head? != some '0')

/-- Whether a host is four parts of a kind with points between them. -/
def isFourfold (isPart : List Char → Bool) (host : List Char) : Bool :=
  let parts := splitBy (· == '.') host
  parts.length == 4 && parts.all isPart

/-- A number in the short form. -/
def isShortNumber (host : List Char) : Bool := isFourfold isShortPart host

/-- Whether a host looks like a number in the short form: four rows of digits. -/
def resemblesShortNumber (host : List Char) : Bool := isFourfold isDigitRow host

/-- A hexadecimal number of four digits at most. -/
def isLongPart (part : List Char) : Bool :=
  !part.isEmpty && part.length ≤ 4 && part.all fun c => (hexValue? c).isSome

/-- How many parts a row of them has, if it is one; the last may be in the short form if `atEnd`. -/
def countParts (atEnd : Bool) (parts : List (List Char)) : Option Nat :=
  match parts.getLast? with
  | some last =>
    if atEnd && isShortNumber last then
      if parts.dropLast.all isLongPart then some (parts.length + 1) else none
    else if parts.all isLongPart then some parts.length
    else none
  | none => some 0

/-- The parts before and after two colons side by side; `none` without such. -/
def splitGap (cs : List Char) : Option (List Char × List Char) :=
  match cs with
  | [] => none
  | ':' :: ':' :: rest => some ([], rest)
  | c :: rest => (splitGap rest).map fun (before, after) => (c :: before, after)

/-- The parts of a row with colons between them; an empty row has none. -/
def partsOfRow (row : List Char) : List (List Char) :=
  if row.isEmpty then [] else splitBy (· == ':') row

/-- Whether a text without a scope is a number in the long form. -/
def isPlainLongNumber (host : List Char) : Bool :=
  match splitGap host with
  | some (before, after) =>
    match countParts false (partsOfRow before), countParts true (partsOfRow after) with
    | some front, some back => front + back < 8
    | _, _ => false
  | none => countParts true (partsOfRow host) == some 8

/-- A number in the long form. After a percent sign it may name the scope in which it holds. -/
def isLongNumber (host : List Char) : Bool :=
  isPlainLongNumber (host.takeWhile (· != '%')) &&
    match host.dropWhile (· != '%') with
    | [] => true
    | _ :: scope => !scope.isEmpty && !scope.contains '%'

/-- A number in the short form looks like what it is. -/
theorem resemblesShortNumber_of_isShortNumber {host : List Char}
    (number : isShortNumber host = true) :
    resemblesShortNumber host = true := by
  simp only [isShortNumber, resemblesShortNumber, isFourfold, isShortPart, Bool.and_eq_true,
    List.all_eq_true] at number ⊢
  exact ⟨number.1, fun part isPart => (number.2 part isPart).1.1.1⟩

end EngineGateway.Rest
