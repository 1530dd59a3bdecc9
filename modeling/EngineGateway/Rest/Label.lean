import EngineGateway.Rest.AddressFault
import EngineGateway.Text.Composition
import EngineGateway.Text.Direction
import EngineGateway.Text.Joining
import EngineGateway.Text.Mark
import EngineGateway.Text.Nameable
import EngineGateway.Text.Punycode
import EngineGateway.Text.Script
import EngineGateway.Text.Split

/-!
# Names of hosts and their labels

A label is a part of the name of a host between two points. It may hold characters of all scripts as
long as nobody can take it for another label: it is composed, it has hyphens only where they mean
nothing, every character is one that names may hold or stands in the surroundings that it needs, and
a label that is written from the right is so all the way.

The name of a host is a row of labels with points between them, and perhaps one at the end. On the
wire it is written in ASCII.
-/

namespace EngineGateway.Rest

open Text

/-- The most characters that a name may have, with a point at its end. -/
def nameLimit : Nat := 254

/-- A sign that makes two characters join, or keeps them from it. -/
def isJoiner (c : Char) : Bool := c.toNat == 0x200C || c.toNat == 0x200D

/-- A mark that joins two consonants. -/
def isVirama (c : Char) : Bool := combiningClass c == 9

/-- An Arabic digit as it is written in the west. -/
def isWesternArabic (c : Char) : Bool := 0x660 ≤ c.toNat && c.toNat ≤ 0x669

/-- An Arabic digit as it is written in the east. -/
def isEasternArabic (c : Char) : Bool := 0x6F0 ≤ c.toNat && c.toNat ≤ 0x6F9

/-- A character of one of the scripts of Japanese. -/
def isJapanese (c : Char) : Bool := isHiragana c || isKatakana c || isHan c

/-- A character that names may hold in certain surroundings. -/
def needsSurroundings (c : Char) : Bool :=
  let n := c.toNat
  isJoiner c || n == 0xB7 || n == 0x375 || n == 0x5F3 || n == 0x5F4 || n == 0x30FB ||
    isWesternArabic c || isEasternArabic c

/-- Whether the characters around it connect without a sign. -/
def connects (before after : List Char) : Bool :=
  (before.dropWhile isPassedOver).head?.any joinsAfter &&
    (after.dropWhile isPassedOver).head?.any joinsBefore

/-- Whether a character has the surroundings that it needs, between the characters before it, the
nearest first, and those after it. -/
def fitsBetween (before : List Char) (c : Char) (after : List Char) : Bool :=
  let others := before ++ after
  match c.toNat with
  | 0x200C => before.head?.any isVirama || connects before after
  | 0x200D => before.head?.any isVirama
  | 0xB7 => before.head? == some 'l' && after.head? == some 'l'
  | 0x375 => after.head?.any isGreek
  | 0x5F3 | 0x5F4 => before.head?.any isHebrew
  | 0x30FB => others.any isJapanese
  | _ =>
    if isWesternArabic c then !others.any isEasternArabic
    else isEasternArabic c && !others.any isWesternArabic

/-- Checks a character between those before it, the nearest first, and those after it. Of a
character without a name nothing is known, so whether a joiner behind one joins anything cannot be
told. -/
def checkCharacter (before : List Char) (c : Char) (after : List Char) : Except LabelFault Unit :=
  if isNameable c || isNewcomer c then .ok ()
  else if !needsSurroundings c then .error .character
  else if isJoiner c && before.head?.any isUnnamed then .error .shape
  else if fitsBetween before c after then .ok ()
  else .error .surroundings

/-- Checks all characters after those of `before`, the nearest of which comes first. -/
def checkCharacters (before : List Char) : List Char → Except LabelFault Unit
  | [] => .ok ()
  | c :: after => do
    checkCharacter before c after
    checkCharacters (c :: before) after

/-- Whether a label has one direction. That of newcomers is not known. A label without letters or
numbers that are written from the right has one. Any other begins with such a letter, ends with one
or a number, marks after it aside, holds no letter that is written from the left, and has numbers of
one kind. -/
def hasOneDirection (label : List Char) : Bool :=
  let directions := label.map direction
  if label.any isNewcomer then false
  else if !(directions.contains .right || directions.contains .arabicNumber) then true
  else
    directions.head? == some .right && !directions.contains .left &&
      !(directions.contains .arabicNumber && directions.contains .europeanNumber) &&
      match (directions.reverse.dropWhile (· == .leaning)).head? with
      | some .right | some .arabicNumber | some .europeanNumber => true
      | _ => false

/-- Whether a label holds hyphens that mean something: at its ends, or where a sign of the spelling
stands. -/
def hasOddHyphens (label : List Char) : Bool :=
  label.head? == some '-' || label.getLast? == some '-' || (label.drop 2).take 2 == ['-', '-']

/-- Checks a label in its own characters. -/
def checkLabel (label : List Char) : Except LabelFault Unit :=
  if label.isEmpty || label.length > nameLimit || !isComposed label || hasOddHyphens label ||
      label.head?.any isMark then
    .error .shape
  else do
    checkCharacters [] label
    if hasOneDirection label then .ok () else .error .direction

/-- What a label in Punycode begins with. -/
def punycodeSign : List Char := ['x', 'n', '-', '-']

/-- Checks a label that is written in ASCII, possibly in Punycode. -/
def checkWritten (label : List Char) : Except LabelFault Unit :=
  let small := label.map Char.toLower
  if small.take 4 == punycodeSign then
    let code := small.drop 4
    if code.isEmpty || code.head? == some '-' || code.getLast? == some '-' then .error .shape
    else
      match Punycode.decode? code with
      | none => .error .shape
      | some points =>
        match charsOf? points with
        | some cs => checkLabel cs
        | none => .error .character
  else checkLabel small

/-- A label as it is written in ASCII. -/
def writeLabel (label : List Char) : Except LabelFault (List Char) := do
  let written ←
    if label.all (·.toNat < 0x80) then do
      checkWritten label
      pure label
    else do
      checkLabel label
      pure (punycodeSign ++ Punycode.encode label)
  if written.length ≤ 63 then .ok written else .error .shape

/-- What stands between two labels: a point, in one of the forms that scripts have for it. -/
def isPoint (c : Char) : Bool :=
  c == '.' || c.toNat == 0x3002 || c.toNat == 0xFF0E || c.toNat == 0xFF61

/-- The labels of a name, and whether a point ends it. -/
def labelsOf (name : List Char) : List (List Char) × Bool :=
  let labels := splitBy isPoint name
  if labels.getLast? == some [] then (labels.dropLast, true) else (labels, false)

/-- A name as it is written in ASCII. -/
def writeName (name : List Char) : Except LabelFault (List Char) :=
  if name.length > nameLimit then .error .shape
  else do
    let (labels, pointed) := labelsOf name
    let written := joinWith '.' ((← labels.mapM writeLabel) ++ if pointed then [[]] else [])
    if written.length ≤ (if pointed then nameLimit else nameLimit - 1) then .ok written
    else .error .shape

/-- Checks a name that is written in ASCII. -/
def checkName (name : List Char) : Except LabelFault Unit :=
  if name.length > nameLimit then .error .shape
  else (labelsOf name).1.forM checkWritten

end EngineGateway.Rest
