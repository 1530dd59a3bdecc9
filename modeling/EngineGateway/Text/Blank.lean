import EngineGateway.Text.Basic

/-!
# Blank characters

Two sets of blanks are in use. `isSpace` is the Unicode property White_Space. `isBlank` adds the
four information separators U+001C to U+001F, which text that a person or an engine supplied is
also stripped of. `trim` removes blanks from both ends and `isBlankText` tells whether nothing is
left.
-/

namespace EngineGateway.Text

/-- The Unicode property White_Space. -/
def isSpace (c : Char) : Bool :=
  let n := c.toNat
  (0x09 ≤ n && n ≤ 0x0D) || n == 0x20 || n == 0x85 || n == 0xA0 || n == 0x1680
    || (0x2000 ≤ n && n ≤ 0x200A) || n == 0x2028 || n == 0x2029 || n == 0x202F || n == 0x205F
    || n == 0x3000

/-- White space and the information separators. -/
def isBlank (c : Char) : Bool :=
  isSpace c || (0x1C ≤ c.toNat && c.toNat ≤ 0x1F)

/-- What is left of a list when the elements that satisfy `drop` are removed from both ends. -/
def strip {α : Type} (drop : α → Bool) (list : List α) : List α :=
  ((list.dropWhile drop).reverse.dropWhile drop).reverse

/-- A text without the blanks at its ends. -/
def trim (text : Text) : Text := ⟨strip (Point.passes isBlank) text.points⟩

/-- A text of blanks only, the empty text included. -/
def isBlankText (text : Text) : Bool := text.points.all (Point.passes isBlank)

/-- White space as ASCII knows it is blank. -/
theorem isBlank_of_isWhitespace {c : Char} (white : c.isWhitespace = true) : isBlank c = true := by
  simp only [Char.isWhitespace, Bool.or_eq_true, decide_eq_true_eq] at white
  rcases white with ((rfl | rfl) | rfl) | rfl <;> decide

end EngineGateway.Text
