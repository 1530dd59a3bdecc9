import EngineGateway.Text.Blank
import EngineGateway.Text.CharacterSet
import Mathlib.Data.List.Basic
import Mathlib.Data.Nat.Digits.Defs

/-!
# Runs of digits

The number that a run of decimal digits denotes is its value in base ten, so it is smaller than the
power of ten with as many zeros, and a number that is written in decimal is read back. No digit of
any script is a blank. The letters and digits of ASCII lie in three rows.
-/

namespace EngineGateway.Text

/-- The value of a digit; a character that is no digit counts as zero. -/
def valueOfDigit (c : Char) : Nat := (digitValue? c).getD 0

/-- The value of a run of digits in base ten, the last digit being the ones. -/
def decimalValue (run : List Char) : Nat := Nat.ofDigits 10 (run.reverse.map valueOfDigit)

/-- A run of digits denotes its value in base ten. -/
theorem digitsValue_eq_decimalValue (run : List Char) : digitsValue run = decimalValue run := by
  rw [decimalValue, Nat.ofDigits_eq_foldr, List.foldr_map, List.foldr_reverse, digitsValue]
  congr 1
  funext value c
  rw [Nat.cast_id, Nat.add_comm, valueOfDigit]

/-- Every digit is one of the ten of its script. -/
theorem exists_zero_of_digitValue? {c : Char} {n : Nat} (digit : digitValue? c = some n) :
    ∃ start ∈ zeros, c.toNat = start + n ∧ n < 10 := by
  simp only [digitValue?] at digit
  split at digit
  · split at digit
    next within =>
      simp only [Bool.and_eq_true, decide_eq_true_eq] at within
      have same := Option.some.inj digit
      exact ⟨0x30, List.mem_cons_self, by omega, by omega⟩
    next => cases digit
  · obtain ⟨start, found, same⟩ := Option.map_eq_some_iff.1 digit
    have within := List.find?_some found
    simp only [Bool.and_eq_true, decide_eq_true_eq] at within
    exact ⟨start, List.mem_of_find?_eq_some found, by omega, by omega⟩

/-- Each digit is smaller than ten. -/
theorem valueOfDigit_lt (c : Char) : valueOfDigit c < 10 := by
  unfold valueOfDigit
  cases digit : digitValue? c with
  | none => decide
  | some n =>
    obtain ⟨-, -, -, small⟩ := exists_zero_of_digitValue? digit
    exact small

/-- A run of digits denotes a number that can be written with so many digits. -/
theorem digitsValue_lt (run : List Char) : digitsValue run < 10 ^ run.length := by
  rw [digitsValue_eq_decimalValue, decimalValue]
  have bound := Nat.ofDigits_lt_base_pow_length (by decide : 1 < 10)
    (List.forall_mem_map.2 fun c (_ : c ∈ run.reverse) => valueOfDigit_lt c)
  rwa [List.length_map, List.length_reverse] at bound

/-- A number in decimal has no more digits than a run that denotes it. -/
theorem length_toDigits_digitsValue_le {run : List Char} (some : run ≠ []) :
    (Nat.toDigits 10 (digitsValue run)).length ≤ run.length :=
  (Nat.length_toDigits_le_iff (by decide) (List.length_pos_of_ne_nil some)).2 (digitsValue_lt run)

/-- An ASCII digit has the value that it shows. -/
theorem valueOfDigit_of_ascii {c : Char} (ascii : c.isDigit = true) :
    valueOfDigit c = c.toNat - '0'.toNat := by
  simp only [Char.isDigit, Bool.and_eq_true, decide_eq_true_eq, UInt32.le_iff_toNat_le] at ascii
  have low : 48 ≤ c.toNat := ascii.1
  have high : c.toNat ≤ 57 := ascii.2
  simp [valueOfDigit, digitValue?, show c.toNat < 128 by omega, low, high]

/-- A number in decimal is read back. -/
theorem digitsValue_toDigits (n : Nat) : digitsValue (Nat.toDigits 10 n) = n := by
  refine Eq.trans ?_ (Nat.ofDigitChars_ten_toDigits (n := n))
  refine List.foldl_ext _ _ 0 fun value c member => ?_
  have ascii : c.isDigit = true := Nat.isDigit_of_mem_toDigits (by decide) (by decide) member
  exact congrArg (10 * value + ·) (valueOfDigit_of_ascii ascii)

/-- No script has its digits where blanks are. -/
theorem zeros_apart : ∀ start ∈ zeros, start = 0x30 ∨ (0xA0 < start ∧ start + 9 < 0x1680) ∨
    (0x1680 < start ∧ start + 9 < 0x2000) ∨ 0x3000 < start := by decide

/-- No digit is a blank. -/
theorem isBlank_of_isDigit {c : Char} (digit : isDigit c = true) : isBlank c = false := by
  obtain ⟨n, value⟩ := Option.isSome_iff_exists.1 digit
  obtain ⟨start, member, place, small⟩ := exists_zero_of_digitValue? value
  have apart := zeros_apart start member
  refine Bool.eq_false_iff.2 fun blank => ?_
  simp only [isBlank, isSpace, Bool.or_eq_true, Bool.and_eq_true, decide_eq_true_eq,
    beq_iff_eq] at blank
  omega

/-- A letter or digit of ASCII lies in one of three rows. -/
theorem bounds_of_isAlphanum {c : Char} (alphanumeric : c.isAlphanum = true) :
    ((65 ≤ c.toNat ∧ c.toNat ≤ 90) ∨ (97 ≤ c.toNat ∧ c.toNat ≤ 122)) ∨
      (48 ≤ c.toNat ∧ c.toNat ≤ 57) := by
  delta Char.isAlphanum Char.isAlpha Char.isUpper Char.isLower Char.isDigit at alphanumeric
  simp only [Bool.or_eq_true, Bool.and_eq_true, decide_eq_true_eq, UInt32.le_iff_toNat_le,
    ge_iff_le] at alphanumeric
  exact alphanumeric

end EngineGateway.Text
