/-!
# Sets of characters, and digits

A set of code points is written as the increasing list of the points where membership changes:
outside below the first, inside from the first up to the second, and so on. A standard's property
with hundreds of ranges is then one short list, and a lookup stops at the first boundary above the
point asked for.

A decimal digit is a character of the Unicode category Nd (version 14). Such digits come in runs of
ten, from zero to nine, so the property and the value of each are given by the list of the zeros.
Hexadecimal digits are single digits in both cases, and numbers in a fixed number of digits.
-/

namespace EngineGateway.Text

/-! ### Sets by their boundaries -/

/-- Whether `point` lies inside, when membership before the first boundary is `inside` and changes
at each boundary that is not above `point`. -/
def changes (inside : Bool) : List Nat → Nat → Bool
  | [], _ => inside
  | boundary :: rest, point => if point < boundary then inside else changes (!inside) rest point

/-- Membership of a character in the set that begins outside. -/
def within (boundaries : List Nat) (c : Char) : Bool := changes false boundaries c.toNat

/-- Below the first boundary nothing is a member. -/
theorem within_eq_false_of_lt {boundary : Nat} {rest : List Nat} {c : Char}
    (below : c.toNat < boundary) : within (boundary :: rest) c = false := by
  simp [within, changes, below]

/-! ### Decimal digits -/

/-- The zero of each run of ten decimal digits. -/
def zeros : List Nat :=
  [0x30, 0x660, 0x6F0, 0x7C0, 0x966, 0x9E6, 0xA66, 0xAE6, 0xB66, 0xBE6, 0xC66, 0xCE6, 0xD66,
    0xDE6, 0xE50, 0xED0, 0xF20, 0x1040, 0x1090, 0x17E0, 0x1810, 0x1946, 0x19D0, 0x1A80, 0x1A90,
    0x1B50, 0x1BB0, 0x1C40, 0x1C50, 0xA620, 0xA8D0, 0xA900, 0xA9D0, 0xA9F0, 0xAA50, 0xABF0,
    0xFF10, 0x104A0, 0x10D30, 0x11066, 0x110F0, 0x11136, 0x111D0, 0x112F0, 0x11450, 0x114D0,
    0x11650, 0x116C0, 0x11730, 0x118E0, 0x11950, 0x11C50, 0x11D50, 0x11DA0, 0x16A60, 0x16AC0,
    0x16B50, 0x1D7CE, 0x1D7D8, 0x1D7E2, 0x1D7EC, 0x1D7F6, 0x1E140, 0x1E2F0, 0x1E950, 0x1FBF0]

/-- The value of a decimal digit of any script, and `none` for every other character. -/
def digitValue? (c : Char) : Option Nat :=
  let n := c.toNat
  if n < 0x80 then
    if 0x30 ≤ n && n ≤ 0x39 then some (n - 0x30) else none
  else
    (zeros.find? fun start => start ≤ n && n < start + 10).map (n - ·)

/-- A decimal digit of any script. -/
def isDigit (c : Char) : Bool := (digitValue? c).isSome

/-- The number that a run of decimal digits denotes, the first being the most significant.
Characters that are no digits count as zero; callers pass digits only. -/
def digitsValue (cs : List Char) : Nat :=
  cs.foldl (fun value c => 10 * value + (digitValue? c).getD 0) 0

/-- The ASCII digits are decimal digits. -/
theorem isDigit_of_ascii {c : Char} (ascii : c.isDigit = true) : isDigit c = true := by
  simp only [Char.isDigit, Bool.and_eq_true, decide_eq_true_eq, UInt32.le_iff_toNat_le] at ascii
  have low : 48 ≤ c.toNat := ascii.1
  have high : c.toNat ≤ 57 := ascii.2
  simp [isDigit, digitValue?, show c.toNat < 128 by omega, low, high]

/-! ### Hexadecimal digits -/

/-- The lower-case digit of a number below sixteen. -/
def hexDigit (n : Nat) : Char :=
  if n < 10 then Char.ofNat (0x30 + n) else Char.ofNat (0x57 + n)

/-- The upper-case digit of a number below sixteen. -/
def hexDigitUpper (n : Nat) : Char :=
  if n < 10 then Char.ofNat (0x30 + n) else Char.ofNat (0x37 + n)

/-- The value of a digit in either case. -/
def hexValue? (c : Char) : Option Nat :=
  let n := c.toNat
  if 0x30 ≤ n && n ≤ 0x39 then some (n - 0x30)
  else if 0x41 ≤ n && n ≤ 0x46 then some (n - 0x37)
  else if 0x61 ≤ n && n ≤ 0x66 then some (n - 0x57)
  else none

/-- The last `width` digits of a number, the most significant first. -/
def hexDigits : Nat → Nat → List Char
  | 0, _ => []
  | width + 1, n => hexDigits width (n / 16) ++ [hexDigit (n % 16)]

/-- The number that a run of digits denotes; `none` if one of them is no digit. -/
def hexNumber? (cs : List Char) : Option Nat :=
  cs.foldlM (fun value c => (hexValue? c).map (16 * value + ·)) 0

/-- Upper-case digits read back. -/
theorem hexValue?_hexDigitUpper {n : Nat} (digit : n < 16) :
    hexValue? (hexDigitUpper n) = some n := by
  revert n
  decide

end EngineGateway.Text
