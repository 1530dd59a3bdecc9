/-!
# Binary fractions

What a 64-bit float denotes: nothing, an infinity, or a natural mantissa times a power of two with a
sign. Exact arithmetic on floats starts from this view, because natural numbers can be reasoned
about and float operations cannot.
-/

namespace EngineGateway.Decimal

/-- The meaning of a 64-bit float. `finite negative mantissa exponent` stands for
`mantissa * 2 ^ exponent` with the sign that `negative` tells. -/
inductive Binary where
  | undefined
  | infinite (negative : Bool)
  | finite (negative : Bool) (mantissa : Nat) (exponent : Int)
  deriving Repr, DecidableEq

/-- Splits a float into sign, mantissa and exponent; the hidden bit is put back for normal numbers.
-/
def Binary.ofFloat (x : Float) : Binary :=
  let bits : Nat := x.toBits.toNat
  let negative := bits / Nat.pow 2 63 == 1
  let biased : Nat := bits / Nat.pow 2 52 % Nat.pow 2 11
  let fraction : Nat := bits % Nat.pow 2 52
  if biased == Nat.pow 2 11 - 1 then
    if fraction == 0 then .infinite negative else .undefined
  else if biased == 0 then .finite negative fraction (-1074)
  else .finite negative (Nat.pow 2 52 + fraction) ((biased : Int) - 1075)

/-- Neither infinite nor undefined. -/
def isFinite (x : Float) : Bool :=
  match Binary.ofFloat x with
  | .finite .. => true
  | _ => false

/-- The whole part of `mantissa * 2 ^ exponent * factor`, rounded toward zero. -/
def scaledFloor (mantissa : Nat) (exponent : Int) (factor : Nat) : Nat :=
  match exponent with
  | .ofNat up => mantissa * Nat.pow 2 up * factor
  | .negSucc down => mantissa * factor / Nat.pow 2 (down + 1)

/-- The whole number that a float is, if it is one. -/
def whole? (x : Float) : Option Int :=
  match Binary.ofFloat x with
  | .finite negative mantissa exponent =>
    let whole := scaledFloor mantissa exponent 1
    if scaledFloor mantissa exponent (Nat.pow 2 (-exponent).toNat) ==
        whole * Nat.pow 2 (-exponent).toNat
    then some (if negative then -(whole : Int) else whole)
    else none
  | _ => none

end EngineGateway.Decimal
