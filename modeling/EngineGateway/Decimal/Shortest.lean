import EngineGateway.Decimal.Binary

/-!
# Shortest decimals

The shortest decimal that reads back as a given float. A float `m * 2 ^ q` is what every real number
in an interval around it rounds to; the ends of the interval belong to it exactly when `m` is even.
On the grid of the multiples of `10 ^ p` the two neighbours of the float are tested, from coarse
grids to fine ones, and the first grid with a neighbour inside the interval wins. If any point of a
grid lies in the interval then so does a neighbour of the float, hence no shorter decimal reads
back. Of two neighbours inside, the nearer is taken, and the even one when both are equally near.
-/

namespace EngineGateway.Decimal

/-- The number `digits * 10 ^ exponent`. -/
structure Scaled where
  digits : Nat
  exponent : Int
  deriving Repr, DecidableEq

/-- The interval of reals that round to a float, in quarters of its last binary place. -/
structure Rounding where
  low : Nat
  value : Nat
  high : Nat
  closed : Bool
  exponent : Int

/-- The interval around `mantissa * 2 ^ exponent`. Below a power of two the floats lie twice as
dense, which moves the lower end nearer, except at the least exponent. -/
def Rounding.around (mantissa : Nat) (exponent : Int) : Rounding where
  low := if mantissa == Nat.pow 2 52 && exponent > -1074 then 4 * mantissa - 1 else 4 * mantissa - 2
  value := 4 * mantissa
  high := 4 * mantissa + 2
  closed := mantissa % 2 == 0
  exponent := exponent - 2

/-- The pair of factors that compares a grid with an interval: `d * 10 ^ place` is at most
`x * 2 ^ exponent` exactly when `d * factors.1` is at most `x * factors.2`. -/
def gridFactors (exponent place : Int) : Nat × Nat :=
  (Nat.pow 10 place.toNat * Nat.pow 2 (-exponent).toNat,
    Nat.pow 2 exponent.toNat * Nat.pow 10 (-place).toNat)

/-- Whether the grid point `d` lies in the interval, given the factors of the grid. -/
def Rounding.holds (r : Rounding) (grid : Nat × Nat) (d : Nat) : Bool :=
  if r.closed then r.low * grid.2 ≤ d * grid.1 && d * grid.1 ≤ r.high * grid.2
  else r.low * grid.2 < d * grid.1 && d * grid.1 < r.high * grid.2

/-- The neighbour of the value on the grid of the multiples of `10 ^ place` that reads back, if one
does. -/
def Rounding.neighbour? (r : Rounding) (place : Int) : Option Nat :=
  let grid := gridFactors r.exponent place
  let below := r.value * grid.2 / grid.1
  let above := below + 1
  match r.holds grid below, r.holds grid above with
  | false, false => none
  | true, false => some below
  | false, true => some above
  | true, true =>
    let toBelow := r.value * grid.2 - below * grid.1
    let toAbove := above * grid.1 - r.value * grid.2
    if toBelow < toAbove then some below
    else if toAbove < toBelow then some above
    else some (if below % 2 == 0 then below else above)

/-- Tries the grids of `place` and the finer ones below it; seventeen significant digits always
suffice, so the search ends long before `grids` does. -/
def Rounding.search (r : Rounding) (place : Int) : Nat → Scaled
  | 0 => ⟨r.value, place⟩
  | grids + 1 =>
    match r.neighbour? place with
    | some digits => ⟨digits, place⟩
    | none => r.search (place - 1) grids

/-- The shortest decimal that reads back as the positive float `mantissa * 2 ^ exponent`. The search
starts on a grid that is coarser than the number itself. -/
def shortest (mantissa : Nat) (exponent : Int) : Scaled :=
  let magnitude := (Nat.log2 mantissa + exponent) * 30103 / 100000
  (Rounding.around mantissa exponent).search (magnitude + 2) 40

end EngineGateway.Decimal
