import EngineGateway.Text.Octets

/-!
# Octets read back

Every character reads back from its octets, whatever follows them, and so does every text. Reading
follows the length of a character's octets, so the proof goes by that length. The bounds that a lead
octet sets for the next one are met because a character is neither a half of a pair nor beyond the
last point.
-/

namespace EngineGateway.Text.Octets

/-- The number of an octet below 256 is that number. -/
theorem toNat_octet {n : Nat} (small : n < 256) : (UInt8.ofNat n).toNat = n := by
  rw [UInt8.toNat_ofNat']
  exact Nat.mod_eq_of_lt small

/-- A tail octet with six bits. -/
theorem tail_octet (n : Nat) :
    (UInt8.ofNat (0x80 + n % 64)).toNat = 0x80 + n % 64 := toNat_octet (by omega)

/-- An octet within its bounds adds six bits. -/
theorem tails_cons {low high bits taken missing : Nat} {b : UInt8} {rest : List UInt8}
    (within : low ≤ b.toNat ∧ b.toNat ≤ high) :
    tails low high bits taken (missing + 1) (b :: rest) =
      tails 0x80 0xBF (64 * bits + b.toNat % 64) (taken + 1) missing rest := by
  rw [tails, if_pos within]

/-- A tail octet adds its six bits. -/
theorem tails_tail (bits taken missing n : Nat) (rest : List UInt8) :
    tails 0x80 0xBF bits taken (missing + 1) (UInt8.ofNat (0x80 + n % 64) :: rest) =
      tails 0x80 0xBF (64 * bits + n % 64) (taken + 1) missing rest := by
  rw [tails_cons (by rw [tail_octet]; omega), tail_octet]
  congr 2
  omega

/-- A character is neither a half of a pair nor beyond the last point. -/
theorem toNat_bounds (c : Char) : c.toNat < 0xD800 ∨ 0xDFFF < c.toNat ∧ c.toNat < 0x110000 :=
  c.valid

/-- A lead octet and what follows it. -/
theorem firstChar_of_lead {b : UInt8} {low high following : Nat} (large : 0x80 ≤ b.toNat)
    (leads : lead? b.toNat = some (low, high, following)) (rest : List UInt8) :
    firstChar b rest = tails low high (leadBits b.toNat following) 0 following rest := by
  rw [firstChar, if_neg (by omega), leads]

/-- The lead octet of three allows the octet that follows it. -/
theorem lead?_of_three {n : Nat} (low : 0x800 ≤ n) (high : n < 0x10000)
    (whole : n < 0xD800 ∨ 0xDFFF < n) : ∃ least greatest,
      lead? (0xE0 + n / 4096) = some (least, greatest, 2) ∧
        least ≤ 0x80 + n / 64 % 64 ∧ 0x80 + n / 64 % 64 ≤ greatest := by
  by_cases first : n / 4096 = 0
  · exact ⟨0xA0, 0xBF, by simp [lead?, first], by omega, by omega⟩
  by_cases halves : n / 4096 = 13
  · exact ⟨0x80, 0x9F, by simp [lead?, halves], by omega, by omega⟩
  · refine ⟨0x80, 0xBF, ?_, by omega, by omega⟩
    rw [lead?, if_neg (by omega), if_neg (by omega), if_neg (by omega), if_pos (by omega)]

/-- The lead octet of four allows the octet that follows it. -/
theorem lead?_of_four {n : Nat} (low : 0x10000 ≤ n) (high : n < 0x110000) : ∃ least greatest,
    lead? (0xF0 + n / 262144) = some (least, greatest, 3) ∧
      least ≤ 0x80 + n / 4096 % 64 ∧ 0x80 + n / 4096 % 64 ≤ greatest := by
  by_cases first : n / 262144 = 0
  · exact ⟨0x90, 0xBF, by simp [lead?, first], by omega, by omega⟩
  by_cases last : n / 262144 = 4
  · exact ⟨0x80, 0x8F, by simp [lead?, last], by omega, by omega⟩
  · refine ⟨0x80, 0xBF, ?_, by omega, by omega⟩
    rw [lead?, if_neg (by omega), if_neg (by omega), if_neg (by omega), if_neg (by omega),
      if_neg (by omega), if_neg (by omega), if_pos (by omega)]

/-- Two octets are read as the number that they were made of. -/
theorem firstChar_of_two {n : Nat} (least : 0x80 ≤ n) (below : n < 0x800) (rest : List UInt8) :
    firstChar (UInt8.ofNat (0xC0 + n / 64)) (UInt8.ofNat (0x80 + n % 64) :: rest) =
      ⟨some (Char.ofNat n), 1⟩ := by
  have number := toNat_octet (n := 0xC0 + n / 64) (by omega)
  have leads : lead? (0xC0 + n / 64) = some (0x80, 0xBF, 1) := by
    rw [lead?, if_pos (by omega)]
  rw [firstChar_of_lead (by omega) (number.symm ▸ leads), number, tails_tail, tails]
  have bits : 64 * leadBits (0xC0 + n / 64) 1 + n % 64 = n := by
    rw [leadBits, if_pos rfl]
    omega
  rw [bits]

/-- So are three, unless the number is a half of a pair. -/
theorem firstChar_of_three {n : Nat} (least : 0x800 ≤ n) (below : n < 0x10000)
    (whole : n < 0xD800 ∨ 0xDFFF < n) (rest : List UInt8) :
    firstChar (UInt8.ofNat (0xE0 + n / 4096))
        (UInt8.ofNat (0x80 + n / 64 % 64) :: UInt8.ofNat (0x80 + n % 64) :: rest) =
      ⟨some (Char.ofNat n), 2⟩ := by
  have number := toNat_octet (n := 0xE0 + n / 4096) (by omega)
  obtain ⟨low, high, leads, within⟩ := lead?_of_three least below whole
  rw [firstChar_of_lead (by omega) (number.symm ▸ leads), number,
    tails_cons (by rw [tail_octet]; exact within), tail_octet, tails_tail, tails]
  have bits : 64 * (64 * leadBits (0xE0 + n / 4096) 2 + (0x80 + n / 64 % 64) % 64) + n % 64 =
      n := by
    rw [leadBits, if_neg (by omega), if_pos rfl]
    omega
  rw [bits]

/-- So are four, unless the number is beyond the last point. -/
theorem firstChar_of_four {n : Nat} (least : 0x10000 ≤ n) (below : n < 0x110000)
    (rest : List UInt8) :
    firstChar (UInt8.ofNat (0xF0 + n / 262144))
        (UInt8.ofNat (0x80 + n / 4096 % 64) :: UInt8.ofNat (0x80 + n / 64 % 64) ::
          UInt8.ofNat (0x80 + n % 64) :: rest) =
      ⟨some (Char.ofNat n), 3⟩ := by
  have number := toNat_octet (n := 0xF0 + n / 262144) (by omega)
  obtain ⟨low, high, leads, within⟩ := lead?_of_four least below
  rw [firstChar_of_lead (by omega) (number.symm ▸ leads), number,
    tails_cons (by rw [tail_octet]; exact within), tail_octet, tails_tail, tails_tail, tails]
  have bits : 64 * (64 * (64 * leadBits (0xF0 + n / 262144) 3 + (0x80 + n / 4096 % 64) % 64) +
      n / 64 % 64) + n % 64 = n := by
    rw [leadBits, if_neg (by omega), if_neg (by omega)]
    omega
  rw [bits]

/-- A character stands at the front of its octets, whatever follows them. -/
theorem firstChar_encodeChar (c : Char) (rest : List UInt8) : ∃ b more,
    encodeChar c = b :: more ∧ firstChar b (more ++ rest) = ⟨some c, more.length⟩ := by
  have bounds := toNat_bounds c
  have same : Char.ofNat c.toNat = c := Char.ofNat_toNat c
  unfold encodeChar
  generalize c.toNat = n at bounds same
  subst same
  by_cases one : n < 0x80
  · refine ⟨UInt8.ofNat n, [], by simp [one], ?_⟩
    have number := toNat_octet (n := n) (by omega)
    simp [firstChar, number, one]
  by_cases two : n < 0x800
  · exact ⟨_, [_], by simp [one, two], firstChar_of_two (by omega) two rest⟩
  by_cases three : n < 0x10000
  · exact ⟨_, [_, _], by simp [one, two, three],
      firstChar_of_three (by omega) three (by omega) rest⟩
  · exact ⟨_, [_, _, _], by simp [one, two, three],
      firstChar_of_four (by omega) (by omega) rest⟩

/-- The octets of a text begin with its first character, and go on with the octets of the others. -/
theorem encode_cons (c : Char) (rest : List Char) : ∃ b more,
    encode (c :: rest) = b :: (more ++ encode rest) ∧
      firstChar b (more ++ encode rest) = ⟨some c, more.length⟩ := by
  obtain ⟨b, more, octets, front⟩ := firstChar_encodeChar c (encode rest)
  refine ⟨b, more, ?_, front⟩
  rw [encode, List.flatMap_cons, octets]
  rfl

/-- A text reads back from its octets. -/
theorem decode?_encode (cs : List Char) : decode? (encode cs) = some cs := by
  induction cs with
  | nil => simp [encode, decode?]
  | cons c rest inductionHypothesis =>
    obtain ⟨b, more, spelled, front⟩ := encode_cons c rest
    rw [spelled, decode?]
    simp only [front, List.drop_left, inductionHypothesis, Option.map_some]

/-- So do its points. -/
theorem points?_encode (cs : List Char) : points? (encode cs) = some (pointsOf cs) := by
  induction cs with
  | nil => simp [encode, points?, pointsOf]
  | cons c rest inductionHypothesis =>
    obtain ⟨b, more, spelled, front⟩ := encode_cons c rest
    rw [spelled, points?]
    simp only [front, List.drop_left, inductionHypothesis, Option.map_some, pointsOf,
      List.map_cons]

end EngineGateway.Text.Octets
