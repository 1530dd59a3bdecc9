/-!
# Points

Beyond U+FFFF a character may be given as a pair of code units. Text from outside can hold half of
such a pair without the other half. Such a text is no string, but it can be read, compared and
shown; only writing it in octets is impossible. A point is a character or such a half. Two halves
side by side stay two points, even if they would make a pair.
-/

namespace EngineGateway.Text

/-- A character, or half a pair that stands alone. -/
inductive Point where
  | char (c : Char)
  | half (unit : Nat)
  deriving Repr, DecidableEq, Inhabited

/-- The first half of a pair of code units. -/
def isHighHalf (unit : Nat) : Bool := 0xD800 ≤ unit && unit ≤ 0xDBFF

/-- The second half of a pair of code units. -/
def isLowHalf (unit : Nat) : Bool := 0xDC00 ≤ unit && unit ≤ 0xDFFF

/-- The character that two halves make. -/
def pairChar (high low : Nat) : Char :=
  Char.ofNat (0x10000 + (high - 0xD800) * 0x400 + (low - 0xDC00))

namespace Point

/-- The character, unless it is a half. -/
def char? : Point → Option Char
  | .char c => some c
  | .half _ => none

/-- The point of a code unit that belongs to no pair. -/
def ofUnit (unit : Nat) : Point :=
  if isHighHalf unit || isLowHalf unit then .half unit else .char (Char.ofNat unit)

/-- Whether a point is a character that passes a test. -/
def passes (test : Char → Bool) (point : Point) : Bool := point.char?.any test

/-- A point with a character written otherwise; a half stays as it is. -/
def mapChar (write : Char → List Char) : Point → List Point
  | .char c => (write c).map .char
  | .half unit => [.half unit]

/-- What is shown for a point where only characters can be: for a half, U+FFFD in the place of each
of the three octets that it would take. -/
def shown : Point → List Char
  | .char c => [c]
  | .half _ => List.replicate 3 (Char.ofNat 0xFFFD)

end Point

/-- Characters as points. -/
def pointsOf (cs : List Char) : List Point := cs.map .char

/-- The characters of points that hold no half. -/
def charsOf? (points : List Point) : Option (List Char) := points.mapM Point.char?

/-- Characters read back from their points. -/
theorem charsOf?_pointsOf (cs : List Char) : charsOf? (pointsOf cs) = some cs := by
  induction cs with
  | nil => rfl
  | cons c rest inductionHypothesis =>
    simp only [charsOf?, pointsOf] at inductionHypothesis
    simp [charsOf?, pointsOf, Point.char?, inductionHypothesis]

/-- Points that have characters are these. -/
theorem eq_pointsOf_of_charsOf? {points : List Point} {cs : List Char}
    (read : charsOf? points = some cs) : points = pointsOf cs := by
  induction points generalizing cs with
  | nil =>
    cases read
    rfl
  | cons point rest inductionHypothesis =>
    cases point with
    | half unit => simp [charsOf?, Point.char?] at read
    | char c =>
      simp only [charsOf?, List.mapM_cons, Option.bind_eq_bind, Option.bind_eq_some_iff] at read
      obtain ⟨_, ⟨⟩, others, readRest, ⟨⟩⟩ := read
      rw [inductionHypothesis readRest]
      rfl

end EngineGateway.Text
