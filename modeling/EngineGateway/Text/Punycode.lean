import EngineGateway.Text.Point

/-!
# Punycode

A text of any characters written with ASCII ones. Those that are ASCII already come first, and after
a hyphen the others follow in the order of their code points, each as the distance from the one
before: how many points lie between, and how many places among the characters so far. Distances are
numbers to the base 36 whose places are worth less the larger the numbers are, which `threshold` and
`nextBias` decide, so no mark is needed where one number ends and the next begins.
-/

namespace EngineGateway.Text.Punycode

/-- The digit of a number below 36: letters first, decimal digits after them. -/
def digit (n : Nat) : Char := if n < 26 then Char.ofNat (0x61 + n) else Char.ofNat (0x16 + n)

/-- The number of a digit; letters may be of either case. -/
def digitValue? (c : Char) : Option Nat :=
  let n := c.toNat
  if 0x61 ≤ n && n ≤ 0x7A then some (n - 0x61)
  else if 0x41 ≤ n && n ≤ 0x5A then some (n - 0x41)
  else if 0x30 ≤ n && n ≤ 0x39 then some (n - 0x16)
  else none

/-- The least digit after which a number goes on, at a place of it; places are counted by 36. -/
def threshold (bias place : Nat) : Nat := min 26 (max 1 (place - bias))

/-- Divides a distance until it is small. Each division moves the bias by a place. -/
def biasOf (moved distance : Nat) : Nat :=
  if 455 < distance then biasOf (moved + 36) (distance / 35)
  else moved + 36 * distance / (distance + 38)
termination_by distance
decreasing_by omega

/-- The bias for the next distance, after a distance that led to so many characters. The first
distance tells little, as it leads all the way to the script of the text. -/
def nextBias (distance count : Nat) (first : Bool) : Nat :=
  let damped := if first then distance / 700 else distance / 2
  biasOf 0 (damped + damped / count)

/-- A threshold lies between 1 and 26. -/
theorem threshold_bounds (bias place : Nat) :
    1 ≤ threshold bias place ∧ threshold bias place ≤ 26 := by
  unfold threshold
  omega

/-- Digits read back. -/
theorem digitValue?_digit {n : Nat} (small : n < 36) : digitValue? (digit n) = some n := by
  revert n
  decide

/-! ## Writing -/

/-- A number from one of its places on. -/
def writeNumber (bias place n : Nat) : List Char :=
  let least := threshold bias place
  if n < least then [digit n]
  else
    digit (least + (n - least) % (36 - least)) ::
      writeNumber bias (place + 36) ((n - least) / (36 - least))
termination_by n
decreasing_by
  have bounds := threshold_bounds bias place
  exact Nat.lt_of_le_of_lt (Nat.div_le_self _ _) (by omega)

/-- What is known while the characters beyond ASCII are written. -/
structure Writer where
  written : List Char := []
  /-- The distance since the last character written. -/
  distance : Nat := 0
  bias : Nat := 72
  /-- How many characters are written, those of ASCII included. -/
  count : Nat
  first : Bool := true

/-- Goes past one character of the text while those of one code point are written. -/
def Writer.pass (code : Nat) (writer : Writer) (c : Char) : Writer :=
  if c.toNat < code then { writer with distance := writer.distance + 1 }
  else if c.toNat == code then
    { written := writer.written ++ writeNumber writer.bias 36 writer.distance
      bias := nextBias writer.distance (writer.count + 1) writer.first
      count := writer.count + 1
      first := false }
  else writer

/-- Writes the characters of increasing code points, the least that there may be being `next`. -/
def writeCodes (cs : List Char) (next : Nat) (writer : Writer) : List Nat → Writer
  | [] => writer
  | code :: rest =>
    let moved := { writer with
      distance := writer.distance + (code - next) * (writer.count + 1) }
    let passed := cs.foldl (Writer.pass code) moved
    writeCodes cs (code + 1) { passed with distance := passed.distance + 1 } rest

/-- A text in Punycode. -/
def encode (cs : List Char) : List Char :=
  let (plain, others) := cs.partition (·.toNat < 0x80)
  let codes := ((others.map Char.toNat).mergeSort (· ≤ ·)).eraseDups
  (if plain.isEmpty then [] else plain ++ ['-']) ++
    (writeCodes cs 0x80 { count := plain.length } codes).written

/-! ## Reading -/

/-- What is known while the characters beyond ASCII are read. -/
structure Reader where
  /-- The code points so far. -/
  codes : List Nat
  /-- The code point that was put in last. -/
  code : Nat := 0x80
  /-- The place behind it. -/
  place : Nat := 0
  bias : Nat := 72
  first : Bool := true
  /-- How many digits of the number under way were read. -/
  digits : Nat := 0
  /-- What the next digit of it counts. -/
  weight : Nat := 1
  /-- What it comes to so far. -/
  distance : Nat := 0

/-- Reads a digit; the last one of a number puts a character in its place. -/
def Reader.read? (reader : Reader) (c : Char) : Option Reader := do
  let value ← digitValue? c
  let least := threshold reader.bias (36 * (reader.digits + 1))
  let distance := reader.distance + value * reader.weight
  if least ≤ value then
    return { reader with
      digits := reader.digits + 1
      weight := reader.weight * (36 - least)
      distance := distance }
  let count := reader.codes.length + 1
  let code := reader.code + (reader.place + distance) / count
  let place := (reader.place + distance) % count
  if 0x10FFFF < code then none
  else
    return {
      codes := reader.codes.insertIdx place code
      code := code
      place := place + 1
      bias := nextBias distance count reader.first
      first := false }

/-- What stands before the last hyphen, and what stands after it. -/
def splitLast (cs : List Char) : List Char × List Char :=
  match cs.reverse.dropWhile (· != '-') with
  | _ :: before => (before.reverse, (cs.reverse.takeWhile (· != '-')).reverse)
  | [] => ([], cs)

/-- The text that was written in Punycode; `none` if it is none or ends inside a number. -/
def decode? (cs : List Char) : Option (List Point) := do
  let (plain, digits) := splitLast cs
  let reader ← digits.foldlM Reader.read? { codes := plain.map Char.toNat }
  if reader.digits == 0 then some (reader.codes.map Point.ofUnit) else none

end EngineGateway.Text.Punycode
