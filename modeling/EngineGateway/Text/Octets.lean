import EngineGateway.Text.Point

/-!
# Text as octets

UTF-8 in both directions. `encode` writes each character in one to four octets. `decode?` reads a
sequence back and refuses it if any octet cannot belong to a character; `decodeLossy` instead puts
U+FFFD in the place of each longest run of octets that could have begun a character and does not.
Both follow one function, `firstChar`, which reads what stands at the front. `points?` is the most
lenient reader that still refuses: half a pair may be written in three octets like any other point.
The names of files and of variables need not be UTF-8; `ofName?` and `toName` write and read them.
-/

namespace EngineGateway.Text.Octets

/-- The octets of one character. -/
def encodeChar (c : Char) : List UInt8 :=
  let n := c.toNat
  if n < 0x80 then [UInt8.ofNat n]
  else if n < 0x800 then [UInt8.ofNat (0xC0 + n / 64), UInt8.ofNat (0x80 + n % 64)]
  else if n < 0x10000 then
    [UInt8.ofNat (0xE0 + n / 4096), UInt8.ofNat (0x80 + n / 64 % 64), UInt8.ofNat (0x80 + n % 64)]
  else
    [UInt8.ofNat (0xF0 + n / 262144), UInt8.ofNat (0x80 + n / 4096 % 64),
      UInt8.ofNat (0x80 + n / 64 % 64), UInt8.ofNat (0x80 + n % 64)]

/-- The octets of a text, character by character. -/
def encode (cs : List Char) : List UInt8 := cs.flatMap encodeChar

/-- What stands at the front of a sequence: a character or the beginning of none, and the number of
octets that it takes after the first. -/
structure Front where
  char? : Option Char
  length : Nat

/-- The least and the greatest octet that may follow a lead octet, and how many follow it in all.
The narrower bounds exclude longer spellings of a character, surrogates, and points above
U+10FFFF. -/
def lead? (b : Nat) : Option (Nat × Nat × Nat) :=
  if 0xC2 ≤ b ∧ b ≤ 0xDF then some (0x80, 0xBF, 1)
  else if b = 0xE0 then some (0xA0, 0xBF, 2)
  else if b = 0xED then some (0x80, 0x9F, 2)
  else if 0xE1 ≤ b ∧ b ≤ 0xEF then some (0x80, 0xBF, 2)
  else if b = 0xF0 then some (0x90, 0xBF, 3)
  else if b = 0xF4 then some (0x80, 0x8F, 3)
  else if 0xF1 ≤ b ∧ b ≤ 0xF3 then some (0x80, 0xBF, 3)
  else none

/-- The payload of a lead octet that `following` octets follow. -/
def leadBits (b following : Nat) : Nat :=
  if following = 1 then b % 32 else if following = 2 then b % 16 else b % 8

/-- Reads `missing` more octets of a character whose bits so far are `bits`; the next one must lie
between `low` and `high`, those after it between 0x80 and 0xBF. `taken` counts the octets read. -/
def tails (low high bits taken : Nat) : Nat → List UInt8 → Front
  | 0, _ => ⟨some (Char.ofNat bits), taken⟩
  | _ + 1, [] => ⟨none, taken⟩
  | missing + 1, b :: rest =>
    if low ≤ b.toNat ∧ b.toNat ≤ high then
      tails 0x80 0xBF (64 * bits + b.toNat % 64) (taken + 1) missing rest
    else ⟨none, taken⟩

/-- The character at the front of `b :: rest`, or how many octets of `rest` belong to the beginning
of none. -/
def firstChar (b : UInt8) (rest : List UInt8) : Front :=
  if b.toNat < 0x80 then ⟨some (Char.ofNat b.toNat), 0⟩
  else
    match lead? b.toNat with
    | none => ⟨none, 0⟩
    | some (low, high, following) => tails low high (leadBits b.toNat following) 0 following rest

/-- The characters of a sequence, with U+FFFD for what is no character. -/
def decodeLossy : List UInt8 → List Char
  | [] => []
  | b :: rest =>
    let front := firstChar b rest
    front.char?.getD (Char.ofNat 0xFFFD) :: decodeLossy (rest.drop front.length)
termination_by octets => octets.length
decreasing_by simp only [List.length_drop, List.length_cons]; omega

/-- The characters of a sequence that holds nothing but characters. -/
def decode? : List UInt8 → Option (List Char)
  | [] => some []
  | b :: rest =>
    let front := firstChar b rest
    match front.char? with
    | none => none
    | some c => (decode? (rest.drop front.length)).map (c :: ·)
termination_by octets => octets.length
decreasing_by simp only [List.length_drop, List.length_cons]; omega

/-- The half of a pair that three octets at the front spell. -/
def firstHalf? : List UInt8 → Option (Nat × List UInt8)
  | a :: b :: c :: rest =>
    if a == 0xED && 0xA0 ≤ b && b ≤ 0xBF && 0x80 ≤ c && c ≤ 0xBF then
      some (0xD000 + 64 * (b.toNat - 0x80) + (c.toNat - 0x80), rest)
    else none
  | _ => none

/-- What is left after a half is shorter. -/
theorem length_lt_of_firstHalf? {octets rest : List UInt8} {unit : Nat}
    (read : firstHalf? octets = some (unit, rest)) : rest.length < octets.length := by
  unfold firstHalf? at read
  split at read
  · split at read
    · obtain ⟨_, rfl⟩ := Prod.mk.inj (Option.some.inj read)
      simp
      omega
    · simp at read
  · simp at read

/-- The points of a sequence that holds nothing but characters and halves of pairs. -/
def points? : List UInt8 → Option (List Point)
  | [] => some []
  | b :: rest =>
    let front := firstChar b rest
    match front.char? with
    | some c => (points? (rest.drop front.length)).map (.char c :: ·)
    | none =>
      match read : firstHalf? (b :: rest) with
      | some (unit, after) => (points? after).map (.half unit :: ·)
      | none => none
termination_by octets => octets.length
decreasing_by
  · simp only [List.length_drop, List.length_cons]; omega
  · exact length_lt_of_firstHalf? read

/-- The octet that a half in a name stands for: names that are no UTF-8 are kept by giving each
octet that belongs to no character a half of its own. -/
def keptOctet? (unit : Nat) : Option UInt8 :=
  if 0xDC80 ≤ unit && unit ≤ 0xDCFF then some (UInt8.ofNat (unit - 0xDC00)) else none

/-- The octets of a name; `none` if a half in it stands for no octet. -/
def ofName? : List Point → Option (List UInt8)
  | [] => some []
  | .char c :: rest => (ofName? rest).map (encodeChar c ++ ·)
  | .half unit :: rest => do return (← keptOctet? unit) :: (← ofName? rest)

/-- The name that some octets are. -/
def toName : List UInt8 → List Point
  | [] => []
  | b :: rest =>
    let front := firstChar b rest
    match front.char? with
    | some c => .char c :: toName (rest.drop front.length)
    | none => .half (0xDC00 + b.toNat) :: toName rest
termination_by octets => octets.length
decreasing_by
  · simp only [List.length_drop, List.length_cons]; omega
  · simp

/-- A name as its octets spell it; `none` if a half in it stands for no octet. Two spellings of the
same octets are one name. -/
def normalName? (name : List Point) : Option (List Point) := (ofName? name).map toName

end EngineGateway.Text.Octets
