import EngineGateway.Decimal.Numeral
import EngineGateway.Json.Reader
import EngineGateway.Text.Lower
import EngineGateway.Text.Quoted
import EngineGateway.Version.Basic

/-!
# Reading versions

A version is written as two or three runs of decimal digits with points between them, and may end in
a hyphen and a pre-release text of ASCII letters, digits, points and hyphens. Blanks around it do
not count. The digits may be those of any script. Nothing that could follow a run of digits is a
digit, so each run ends where its digits end and a text is read in one way only.
-/

namespace EngineGateway.Version

/-- Why a text is no version, or a version cannot be compared: it does not follow the grammar, or a
run of digits in it is longer than a number may be. -/
inductive Fault where
  | malformed (raw : Text)
  | tooLong (digits : Nat)
  deriving Repr, DecidableEq

/-- The words for a fault. -/
def Fault.message : Fault → String
  | .malformed raw => "Invalid engine version string: " ++ raw.quoted
  | .tooLong digits => Json.tooLongMessage digits

/-- A character of a pre-release text. -/
def isPreReleaseChar (c : Char) : Bool := c.isAlphanum || c == '.' || c == '-'

/-- The parts of a version as they are written. -/
structure Spelling where
  major : List Char
  minor : List Char
  patch : Option (List Char)
  preRelease : Option (List Char)
  deriving Repr, DecidableEq

/-- A non-empty run of digits at the front, and what follows it. -/
def digitRun? (cs : List Char) : Option (List Char × List Char) :=
  match cs.takeWhile Text.isDigit with
  | [] => none
  | run => some (run, cs.dropWhile Text.isDigit)

/-- The pre-release text after the numbers, which must be all that is left. -/
def preRelease? : List Char → Option (Option (List Char))
  | [] => some none
  | '-' :: pre => if !pre.isEmpty && pre.all isPreReleaseChar then some (some pre) else none
  | _ => none

/-- The third number, if there is a point for it, and what follows. -/
def patch? : List Char → Option (Option (List Char) × List Char)
  | '.' :: rest => (digitRun? rest).map fun (run, after) => (some run, after)
  | rest => some (none, rest)

/-- Takes a text without blanks around it apart. -/
def Spelling.ofChars? (cs : List Char) : Option Spelling := do
  let (major, rest) ← digitRun? cs
  match rest with
  | '.' :: rest =>
    let (minor, rest) ← digitRun? rest
    let (patch, rest) ← patch? rest
    let preRelease ← preRelease? rest
    return { major, minor, patch, preRelease }
  | _ => none

/-- The number of a run of digits, unless it is longer than the limit. -/
def number (run : List Char) : Except Fault Nat :=
  if run.length > Decimal.digitLimit then .error (.tooLong run.length)
  else .ok (Text.digitsValue run)

/-- The distribution that an engine gives, in its usual form. -/
def normalDistribution (given : Option Text) : Text :=
  match given with
  | none => defaultDistribution
  | some name => if name.isEmpty then defaultDistribution else name.trim.lower

/-- The version that a text denotes. -/
def parse (raw : Text) (distribution : Option Text) : Except Fault Version :=
  match raw.trim.chars?.bind Spelling.ofChars? with
  | none => .error (.malformed raw)
  | some spelling => do
    let major ← number spelling.major
    let minor ← number spelling.minor
    let patch ← match spelling.patch with
      | some run => number run
      | none => .ok 0
    return {
      major, minor, patch
      preRelease := spelling.preRelease.map Text.ofChars
      distribution := normalDistribution distribution }

end EngineGateway.Version
