import EngineGateway.Decimal.Layout
import EngineGateway.Decimal.Numeral
import EngineGateway.Failure

/-!
# Time in seconds

What waiting needs to know of time. The program measures it in floats; laws about waiting are stated
for exact times as well, so the operations are a class. Two ways of choosing between times are given
by one comparison: where the comparison does not tell, the first time is taken.
-/

namespace EngineGateway

/-- Times and lengths of time, in seconds. -/
class Seconds (τ : Type) where
  zero : τ
  add : τ → τ → τ
  sub : τ → τ → τ
  /-- Strictly less. -/
  before : τ → τ → Bool
  /-- Less or equal. -/
  notAfter : τ → τ → Bool
  /-- A whole number of seconds. -/
  ofWhole : Int → Except Failure τ
  /-- The number of whole milliseconds, rounded toward zero. -/
  milliseconds : τ → Except Failure Int
  /-- The shortest text. -/
  text : τ → String
  /-- The text with two places. -/
  hundredths : τ → String

namespace Seconds

variable {τ : Type} [Seconds τ]

/-- The second time if it comes after the first, else the first. -/
def later (a b : τ) : τ := if before a b then b else a

/-- The second time if it comes before the first, else the first. -/
def earlier (a b : τ) : τ := if before b a then b else a

/-- Twice a length of time. -/
def double (a : τ) : τ := add a a

/-- What a float is, rounded toward zero to a whole number. -/
def truncated (x : Float) : Except Failure Int :=
  match Decimal.Binary.ofFloat x with
  | .undefined => .error .undefinedDuration
  | .infinite _ => .error .endlessDuration
  | .finite negative mantissa exponent =>
    let whole : Int := Decimal.scaledFloor mantissa exponent 1
    .ok (if negative then -whole else whole)

instance : Seconds Float where
  zero := 0
  add := (· + ·)
  sub := (· - ·)
  before a b := a < b
  notAfter a b := a ≤ b
  ofWhole i :=
    match Decimal.ofInt? i with
    | some x => .ok x
    | none => .error .endlessDuration
  milliseconds x := truncated (x * 1000)
  text := Decimal.Layout.message.text
  hundredths := Decimal.hundredths

end Seconds

/-- A length of time as a caller gives it: a whole number of seconds, a time, or a yes or no, which
counts as one second or none. Any other value is no length of time. -/
inductive Span (τ : Type) where
  | whole (seconds : Int)
  | measured (time : τ)
  | flag (on : Bool)
  | other (value : Json)

namespace Span

variable {τ : Type} [Seconds τ]

/-- The length of time that a value is; `null` is none. -/
def ofJson? : Json → Option (Span Float)
  | .null => none
  | .int i => some (.whole i)
  | .float x => some (.measured x)
  | .bool b => some (.flag b)
  | value => some (.other value)

/-- How often a second holds a millisecond. -/
def perSecond : Nat := 1000

/-- The number of seconds that a yes or no counts as. -/
def ofFlag (on : Bool) : Int := if on then 1 else 0

/-- The length of a span. -/
def time : Span τ → Except Failure τ
  | .whole seconds => Seconds.ofWhole seconds
  | .measured time => .ok time
  | .flag on => Seconds.ofWhole (ofFlag on)
  | .other _ => .error .wrongKind

/-- The whole number that a text repeated a thousand times is, as it stands for the milliseconds of
a text. -/
def millisecondsOfText (text : Text) : Except Failure Int :=
  let repeated : Text := ⟨(List.replicate perSecond text.points).flatten⟩
  match Decimal.argumentInt repeated with
  | .number i => .ok i
  | .tooLong digits => .error (.wholeTooLong digits)
  | .unreadable => .error (.notWhole repeated)

/-- The length of a span in whole milliseconds. -/
def milliseconds : Span τ → Except Failure Int
  | .whole seconds => .ok (seconds * perSecond)
  | .measured time => Seconds.milliseconds time
  | .flag on => .ok (ofFlag on * perSecond)
  | .other value => do millisecondsOfText (← value.textOr .wrongKind)

/-- A span as it is written in a message. -/
def text : Span τ → Text
  | .whole seconds => toString seconds
  | .measured time => Seconds.text time
  | .flag on => Json.displayBool on
  | .other value => value.plain

/-- A number of milliseconds in a request. It may not have more digits than a number may have. -/
def millisecondsText (count : Int) : Except Failure String :=
  if count.natAbs < Nat.pow 10 Decimal.digitLimit then .ok (toString count ++ "ms")
  else .error .durationTooLong

/-- The longest time that an engine may hold a request back: whole milliseconds, and at least one.
-/
def holdText (span : Span τ) : Except Failure String := do
  millisecondsText (max (← span.milliseconds) 1)

end Span

end EngineGateway
