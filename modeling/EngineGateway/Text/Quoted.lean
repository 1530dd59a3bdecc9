import EngineGateway.Text.Basic
import EngineGateway.Text.CharacterSet
import EngineGateway.Text.Printable

/-!
# Quoted text

How a text appears inside a message when it must be told apart from the words around it: between
single quotes, or between double quotes if it holds a single quote and no double one. The backslash
and the quote in use are escaped, line feed, carriage return and tab have letters of their own, and
every other unprintable character is written by its code point, as is half a pair.
-/

namespace EngineGateway.Text

/-- The quote that a text is put between. -/
def quoteFor (cs : List Char) : Char :=
  if cs.contains '\'' && !cs.contains '"' then '"' else '\''

/-- The code point of an unprintable character, in the shortest of three widths that holds it. -/
def escapeCodePoint (c : Char) : List Char :=
  let n := c.toNat
  if n < 0x100 then '\\' :: 'x' :: hexDigits 2 n
  else if n < 0x10000 then '\\' :: 'u' :: hexDigits 4 n
  else '\\' :: 'U' :: hexDigits 8 n

/-- A character between the quotes `quote`. -/
def quotedChar (quote c : Char) : List Char :=
  if c == quote || c == '\\' then ['\\', c]
  else if c == '\n' then ['\\', 'n']
  else if c == '\r' then ['\\', 'r']
  else if c == '\t' then ['\\', 't']
  else if isPrintable c then [c]
  else escapeCodePoint c

/-- A point between the quotes `quote`. -/
def quotedPoint (quote : Char) : Point → List Char
  | .char c => quotedChar quote c
  | .half unit => '\\' :: 'u' :: hexDigits 4 unit

/-- A text between quotes. -/
def quoted (text : Text) : String :=
  let quote := quoteFor (text.points.filterMap Point.char?)
  String.ofList (quote :: text.points.flatMap (quotedPoint quote) ++ [quote])

end EngineGateway.Text
