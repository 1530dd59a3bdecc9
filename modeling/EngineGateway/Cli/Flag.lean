import EngineGateway.Json.Value
import EngineGateway.Text.CharacterSet

/-!
# Flags

How the words of a command line are taken for flags and their values. A flag may be shortened as
long as only one flag begins so, and its value may follow in the next word or after an equals sign.
A word that begins with a hyphen is a flag unless it looks like a negative number, holds a blank, or
stands after two hyphens. Two hyphens alone are no value, so behind an equals sign they leave the
flag with an empty list, which nobody checks. The value of a flag is data for that reason.

What a flag does is a change of a record, so of a flag that is repeated the last one wins. A call
for help ends the reading as soon as it is met, before anything that only shows at the end.
-/

namespace EngineGateway.Cli

variable {σ : Type}

/-- What a flag does to the record of everything given. -/
inductive Effect (σ : Type) where
  /-- Show help and stop. -/
  | help
  /-- Take a value. A text is read first, and may be no value for the flag. -/
  | takes (read : Text → Option Json) (set : Json → σ → σ)
  /-- Make a change without a value. -/
  | turns (set : σ → σ)

/-- A flag by its full name. -/
structure Flag (σ : Type) where
  name : String
  effect : Effect σ

/-- What stands in one word with a flag. -/
inductive Attached where
  | nothing
  /-- What follows an equals sign. -/
  | equal (text : Text)
  /-- What follows a flag of one letter at once. -/
  | tail (letters : Text)

/-- What a word is taken for. -/
inductive Token (σ : Type) where
  | word (text : Text)
  | separator
  | flag (flag : Flag σ) (attached : Attached)
  | unknown

/-- Why reading ends early. -/
inductive Stop where
  | help
  | refused
  deriving Repr, DecidableEq

/-- The two hyphens behind which no word is a flag. -/
def separatorWord : Text := "--"

/-- A decimal digit, or a line feed at the very end, as a negative number may have it. -/
def isDigitRun (cs : List Char) : Bool :=
  match cs.reverse with
  | '\n' :: rest => rest.all Text.isDigit
  | _ => cs.all Text.isDigit

/-- Whether a word looks like a negative number: digits after the hyphen, or digits with one point
among or before them. -/
def looksNegative : List Char → Bool
  | '-' :: rest =>
    match rest.dropWhile Text.isDigit with
    | [] => !rest.isEmpty
    | ['\n'] => 1 < rest.length
    | '.' :: fraction =>
      isDigitRun fraction && fraction.any Text.isDigit
    | _ => false
  | _ => false

/-- The text before the first equals sign, and the text after it if there is one. -/
def splitEqual (word : Text) : Text × Attached :=
  match word.points.dropWhile (· != .char '=') with
  | _ :: text => (word.upTo '=', .equal ⟨text⟩)
  | [] => (word, .nothing)

/-- The flag with exactly this name. -/
def named? (flags : List (Flag σ)) (name : Text) : Option (Flag σ) :=
  flags.find? fun flag => flag.name == name

/-- The flags that a word with a hyphen may stand for when it is none in full. -/
def candidates (flags : List (Flag σ)) (word : Text) : List (Token σ) :=
  match word.points with
  | .char '-' :: .char '-' :: _ =>
    let (start, attached) := splitEqual word
    (flags.filter fun flag => (flag.name : Text).startsWith start).map (.flag · attached)
  | .char '-' :: letter :: tail =>
    (flags.filter fun flag => (flag.name : Text).points == [.char '-', letter]).map
      (.flag · (.tail ⟨tail⟩))
  | _ => []

/-- Whether a word with a hyphen that stands for no flag is a value all the same. -/
def isValueLike (word : Text) : Bool :=
  word.chars?.any looksNegative || word.points.contains (.char ' ')

/-- What a word is taken for before two hyphens; `none` if it may stand for several flags. -/
def classify (flags : List (Flag σ)) (word : Text) : Option (Token σ) :=
  match word.points with
  | .char '-' :: _ :: _ =>
    let (start, attached) := splitEqual word
    match named? flags word, attached, named? flags start with
    | some flag, _, _ => some (.flag flag .nothing)
    | none, .equal text, some flag => some (.flag flag (.equal text))
    | _, _, _ =>
      match candidates flags word with
      | [token] => some token
      | _ :: _ :: _ => none
      | [] => if isValueLike word then some (.word word) else some .unknown
  | _ => some (.word word)

/-- What all words are taken for. -/
def tokens (flags : List (Flag σ)) : List Text → Option (List (Token σ))
  | [] => some []
  | word :: rest =>
    if word == separatorWord then some (.separator :: rest.map .word)
    else do return (← classify flags word) :: (← tokens flags rest)

/-- What a call for help comes to with what is attached to it. The one-letter call may be repeated
in the same word, at once or after an equals sign, and nothing else may follow it. -/
def helpStop (name : String) : Attached → Stop
  | .nothing => .help
  | .equal text => repeated text
  | .tail letters => repeated letters
where
  /-- The letters after the call have to be calls themselves. -/
  repeated (letters : Text) : Stop :=
    if name == "-h" && !letters.isEmpty && letters.points.all (· == .char 'h') then .help
    else .refused

/-- The value that a text behind an equals sign is. -/
def attachedValue (read : Text → Option Json) (text : Text) : Option Json :=
  if text == separatorWord then some (.arr []) else read text

/-- What was read: the record of everything given, and whether there were words that nothing takes.
-/
structure Reading (σ : Type) where
  given : σ
  extras : Bool := false

/-- Reads the words that follow a command. -/
def readTokens (reading : Reading σ) : List (Token σ) → Except Stop (Reading σ)
  | [] => .ok reading
  | .word _ :: rest | .separator :: rest | .unknown :: rest =>
    readTokens { reading with extras := true } rest
  | .flag ⟨name, .help⟩ attached :: _ => .error (helpStop name attached)
  | .flag ⟨_, .turns set⟩ .nothing :: rest =>
    readTokens { reading with given := set reading.given } rest
  | .flag ⟨_, .turns _⟩ _ :: _ => .error .refused
  | .flag ⟨_, .takes read set⟩ (.equal text) :: rest =>
    match attachedValue read text with
    | some value => readTokens { reading with given := set value reading.given } rest
    | none => .error .refused
  | .flag ⟨_, .takes read set⟩ .nothing :: .word text :: rest =>
    match read text with
    | some value => readTokens { reading with given := set value reading.given } rest
    | none => .error .refused
  | .flag ⟨_, .takes ..⟩ _ :: _ => .error .refused

/-- Reads the words that follow a command, all of which have to be flags and their values. -/
def readFlags (flags : List (Flag σ)) (empty : σ) (words : List Text) :
    Except Stop (Reading σ) :=
  match tokens flags words with
  | none => .error .refused
  | some list => readTokens { given := empty } list

end EngineGateway.Cli
