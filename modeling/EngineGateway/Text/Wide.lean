import EngineGateway.Text.Octets

/-!
# Text in units of two and four octets

UTF-16 and UTF-32 in both orders of octets, and the rule by which the encoding of a JSON text is
told from its first octets: a byte order mark decides; without one, two ASCII characters at the
front leave zeros in places that differ between the encodings.
-/

namespace EngineGateway.Text.Wide

/-- The order of the octets in a unit. -/
inductive Endian where
  | big
  | little
  deriving Repr, DecidableEq

/-- How a text is written in octets. -/
inductive Encoding where
  | utf8
  | utf16 (order : Endian)
  | utf32 (order : Endian)
  deriving Repr, DecidableEq

/-- The number that two octets denote. -/
def unit16 (order : Endian) (a b : UInt8) : Nat :=
  match order with
  | .big => 256 * a.toNat + b.toNat
  | .little => 256 * b.toNat + a.toNat

/-- The number that four octets denote. -/
def unit32 (order : Endian) (a b c d : UInt8) : Nat :=
  match order with
  | .big => 65536 * unit16 .big a b + unit16 .big c d
  | .little => 65536 * unit16 .little c d + unit16 .little a b

/-- The units of two octets; `none` if an octet is left over. -/
def units16? (order : Endian) : List UInt8 → Option (List Nat)
  | [] => some []
  | a :: b :: rest => (units16? order rest).map (unit16 order a b :: ·)
  | [_] => none

/-- The units of four octets; `none` if octets are left over. -/
def units32? (order : Endian) : List UInt8 → Option (List Nat)
  | [] => some []
  | a :: b :: c :: d :: rest => (units32? order rest).map (unit32 order a b c d :: ·)
  | _ => none

/-- The points of units of two octets. A high unit and a low unit behind it make one character;
every other half stays alone. -/
def ofUnits16 : List Nat → List Point
  | [] => []
  | [unit] => [.ofUnit unit]
  | unit :: next :: rest =>
    if isHighHalf unit && isLowHalf next then .char (pairChar unit next) :: ofUnits16 rest
    else .ofUnit unit :: ofUnits16 (next :: rest)

/-- The point of a unit of four octets; there is none beyond the last character. -/
def ofUnit32? (unit : Nat) : Option Point := if unit < 0x110000 then some (.ofUnit unit) else none

/-- The points of a text in a given encoding. -/
def points? : Encoding → List UInt8 → Option (List Point)
  | .utf8, octets => Octets.points? octets
  | .utf16 order, octets => (units16? order octets).map ofUnits16
  | .utf32 order, octets => (units32? order octets).bind (·.mapM ofUnit32?)

/-- The encoding of a JSON text and the octets after a byte order mark. -/
def detect : List UInt8 → Encoding × List UInt8
  | 0x00 :: 0x00 :: 0xFE :: 0xFF :: rest => (.utf32 .big, rest)
  | 0xFF :: 0xFE :: 0x00 :: 0x00 :: rest => (.utf32 .little, rest)
  | 0xFE :: 0xFF :: rest => (.utf16 .big, rest)
  | 0xFF :: 0xFE :: rest => (.utf16 .little, rest)
  | 0xEF :: 0xBB :: 0xBF :: rest => (.utf8, rest)
  | a :: b :: c :: d :: rest =>
    let encoding : Encoding :=
      if a == 0 then (if b == 0 then .utf32 .big else .utf16 .big)
      else if b == 0 then (if c == 0 && d == 0 then .utf32 .little else .utf16 .little)
      else .utf8
    (encoding, a :: b :: c :: d :: rest)
  | [a, b] =>
    let encoding : Encoding :=
      if a == 0 then .utf16 .big else if b == 0 then .utf16 .little else .utf8
    (encoding, [a, b])
  | octets => (.utf8, octets)

end EngineGateway.Text.Wide
