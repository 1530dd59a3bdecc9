import EngineGateway.Json.Display

/-!
# Words that stand for themselves

In a message a value that is no text is written in brackets, as a number, or by one of a few short
words. A word with an `x` in it is none of these, so a value that is shown as such a word is that
word (`Json.plain_eq_iff`).
-/

namespace EngineGateway

namespace Decimal

/-- A character in which a decimal is written. -/
def isNumeral (c : Char) : Bool := c.isDigit || ['.', 'e', '+', '-'].contains c

/-- A row of such characters. -/
def Numeral (row : List Char) : Prop := ∀ c ∈ row, isNumeral c = true

namespace Numeral

variable {row other digits : List Char}

/-- Two rows side by side are a row. -/
theorem append (first : Numeral row) (second : Numeral other) : Numeral (row ++ other) :=
  List.forall_mem_append.2 ⟨first, second⟩

/-- A character may stand in front. -/
theorem cons {c : Char} (sign : isNumeral c = true) (rest : Numeral row) : Numeral (c :: row) :=
  List.forall_mem_cons.2 ⟨sign, rest⟩

/-- A part of a row is a row. -/
theorem sublist (whole : Numeral row) (part : other.Sublist row) : Numeral other :=
  fun c member => whole c (part.subset member)

/-- No character is a row. -/
theorem nil : Numeral [] := fun _ absent => absurd absent List.not_mem_nil

/-- Zeros are a row. -/
theorem zeros (count : Nat) : Numeral (List.replicate count '0') := by
  intro c member
  rw [List.eq_of_mem_replicate member]
  rfl

/-- A natural number is written as a row. -/
theorem ofNat (n : Nat) : Numeral (toString n).toList := by
  intro c member
  have written : c ∈ Nat.toDigits 10 n := by
    simpa only [Nat.toString_eq_repr, Nat.toList_repr] using member
  have digit : c.isDigit = true := Nat.isDigit_of_mem_toDigits (by decide) (by decide) written
  simp [isNumeral, digit]

/-- So is a whole number. -/
theorem ofInt (i : Int) : Numeral (toString i).toList := by
  cases i with
  | ofNat n => exact ofNat n
  | negSucc n =>
    change Numeral ("-" ++ toString (n + 1)).toList
    rw [String.toList_append]
    exact .cons rfl (ofNat (n + 1))

theorem padded (width n : Nat) : Numeral (Decimal.padded width n).toList := by
  unfold Decimal.padded
  rw [String.toList_append, String.toList_ofList]
  exact (zeros _).append (ofNat n)

/-- Digits with a point among them are a row. -/
theorem plainText (all : Numeral digits) (exponent : Int) :
    Numeral (Decimal.plainText digits exponent) := by
  unfold Decimal.plainText zeroRun
  dsimp only
  split
  · exact (all.append (zeros _)).append (.cons rfl (.cons rfl nil))
  · split
    · exact (all.sublist (List.take_sublist _ _)).append
        (.cons rfl (all.sublist (List.drop_sublist _ _)))
    · exact .cons rfl (.cons rfl ((zeros _).append all))

/-- So are digits with an exponent. -/
theorem scientificText (width : Nat) (all : Numeral digits) (leading : Int) :
    Numeral (Decimal.scientificText width digits leading) := by
  have exponent : Numeral
      ('e' :: (if leading < 0 then '-' else '+') :: (Decimal.padded width leading.natAbs).toList) :=
    .cons rfl (.cons (by split <;> rfl) (padded width leading.natAbs))
  unfold Decimal.scientificText
  refine Numeral.append ?_ exponent
  match digits with
  | [] => exact nil
  | [d] => exact all
  | d :: e :: rest =>
    obtain ⟨first, others⟩ := List.forall_mem_cons.1 all
    exact .cons first (.cons rfl others)

/-- A decimal is written as a row in every layout. -/
theorem decimalText (layout : Layout) (d : Scaled) : Numeral (layout.decimalText d).toList := by
  unfold Layout.decimalText
  dsimp only
  rw [String.toList_ofList]
  split
  · exact plainText (ofNat d.digits) d.exponent
  · exact scientificText layout.exponentWidth (ofNat d.digits) _

end Numeral

/-- A float in a message is a row, or one of the words for what is no number. -/
theorem Layout.message_text (x : Float) : Numeral (Layout.message.text x).toList ∨
    Layout.message.text x ∈ ["nan", "inf", "-inf"] := by
  unfold Layout.text
  split
  · exact .inr (by decide)
  case h_2 negative found => cases negative <;> exact .inr (by decide)
  case h_3 negative mantissa exponent found =>
    refine .inl ?_
    rw [String.toList_append]
    refine Numeral.append ?_ ?_
    · cases negative
      · exact .nil
      · exact .cons rfl .nil
    · split
      · exact .cons rfl (.cons rfl (.cons rfl .nil))
      · exact Numeral.decimalText Layout.message _

end Decimal

namespace Json

/-- A word that no value but a text is shown as: it has an `x` in it and does not begin with a
bracket. -/
def IsWord (word : String) : Prop :=
  'x' ∈ word.toList ∧ word.toList.head? ≠ some '[' ∧ word.toList.head? ≠ some '\x7b'

/-- An `x` is part of no number. -/
theorem display_ne_word {value : Json} (other : value.text? = none) {word : String}
    (isWord : IsWord word) : value.display ≠ word := by
  obtain ⟨marked, noList, noObject⟩ := isWord
  rintro rfl
  have unwritten {row : List Char} (numeral : Decimal.Numeral row) : 'x' ∉ row :=
    fun member => absurd (numeral 'x' member) (by decide)
  cases value with
  | str text => cases other
  | null => exact absurd marked (by decide)
  | bool b => cases b <;> exact absurd marked (by decide)
  | int i => exact unwritten (.ofInt i) marked
  | float x =>
    obtain numeral | special := Decimal.Layout.message_text x
    · exact unwritten numeral marked
    · have plainWords : ["nan", "inf", "-inf"].all (fun s => !s.toList.contains 'x') = true := rfl
      have plainWord := List.all_eq_true.1 plainWords _ special
      simp only [Bool.not_eq_true', List.contains_eq_mem, decide_eq_false_iff_not] at plainWord
      exact plainWord marked
  | arr items =>
    have begins : ("[" ++ displayItems items ++ "]").toList.head? = some '[' := by
      rw [String.toList_append, String.toList_append]
      rfl
    exact noList begins
  | obj fields =>
    have begins : ("\x7b" ++ displayFields fields ++ "\x7d").toList.head? = some '\x7b' := by
      rw [String.toList_append, String.toList_append]
      rfl
    exact noObject begins

/-- A value is shown as a word only if it is that word. -/
theorem plain_eq_iff {word : String} (isWord : IsWord word) (value : Json) :
    value.plain = word ↔ value = .str word := by
  have shown (other : value.text? = none) (plain : value.plain = value.display) :
      value.plain = word ↔ value = .str word := by
    rw [plain, Text.ofString_inj]
    refine iff_of_false (display_ne_word other isWord) ?_
    rintro rfl
    cases other
  cases value with
  | str text => simp [plain]
  | _ => exact shown rfl rfl

end Json

end EngineGateway
