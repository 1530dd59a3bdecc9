import EngineGateway.Decimal.Numeral
import EngineGateway.Proofs.Text.Digits
import EngineGateway.Proofs.Text.Trimming

/-!
# Numbers in two spellings

A number in the settings and a number on the command line are spelled differently. What both read in
the end is a numeral of letters, digits, signs and points, and each spelling comes to it by leaving
characters out: blanks around it, and marks between groups of digits. So a text that is a number in
both spellings is the same number in both (`Denotes.unique`).
-/

namespace EngineGateway.Decimal

open Text

/-- A text denotes a number, in one spelling or the other. -/
inductive Denotes : Text → Float → Prop where
  | argument {text : Text} {x : Float} (read : argumentFloat? text = some x) : Denotes text x
  | setting {text : Text} {s : String} {x : Float} (string : text.string? = some s)
    (read : settingFloat? s = some x) : Denotes text x

/-- A character of a numeral. -/
def IsNumeral (c : Char) : Prop := c.isAlphanum = true ∨ c = '+' ∨ c = '-' ∨ c = '.'

/-! ### The characters of a numeral -/

section

variable {c : Char} {cs : List Char} {x : Float}

/-- A numeral is written in ASCII, without blanks and marks. -/
theorem IsNumeral.ascii (numeral : IsNumeral c) :
    0x20 < c.toNat ∧ c.toNat < 0x7F ∧ c ≠ '_' := by
  obtain alphanumeric | rfl | rfl | rfl := numeral
  · have mark : c ≠ '_' := by
      rintro rfl
      exact absurd alphanumeric (by decide)
    have bounds := bounds_of_isAlphanum alphanumeric
    exact ⟨by omega, by omega, mark⟩
  all_goals decide

/-- A digit stands in a numeral. -/
theorem IsNumeral.of_digit (digit : c.isDigit = true) : IsNumeral c :=
  .inl (Bool.or_eq_true_iff.2 (.inr digit))

/-- A letter stands in a numeral if its lower case does. -/
theorem IsNumeral.of_toLower (numeral : IsNumeral c.toLower) : IsNumeral c := by
  by_cases upper : c.isUpper = true
  · refine .inl (Bool.or_eq_true_iff.2 (.inl (Bool.or_eq_true_iff.2 (.inl upper))))
  · have same : c.toLower = c := by
      refine dif_neg fun capital => upper ?_
      exact decide_eq_true capital
    rwa [same] at numeral

/-- Behind a sign stands all the rest. -/
theorem isNumeral_of_splitSign (rest : ∀ d ∈ (splitSign cs).2, IsNumeral d) :
    ∀ d ∈ cs, IsNumeral d := by
  unfold splitSign at rest
  split at rest
  · exact List.forall_mem_cons.2 ⟨.inr (.inr (.inl rfl)), rest⟩
  · exact List.forall_mem_cons.2 ⟨.inr (.inl rfl), rest⟩
  · exact rest

/-- A row of digits is a numeral. -/
theorem isNumeral_of_natural? {n : Nat} (read : natural? cs = some n) : ∀ d ∈ cs, IsNumeral d := by
  unfold natural? at read
  split at read
  next digits =>
    obtain ⟨-, all⟩ := Bool.and_eq_true_iff.1 digits
    exact fun d member => .of_digit (List.all_eq_true.1 all d member)
  next => cases read

/-- An exponent is a numeral. -/
theorem isNumeral_of_exponentPart? {exponent : Int} (read : exponentPart? cs = some exponent) :
    ∀ d ∈ cs, IsNumeral d := by
  cases cs with
  | nil => exact List.forall_mem_nil _
  | cons mark rest =>
    rw [exponentPart?] at read
    split at read
    next marked =>
      obtain ⟨_, lifted, -⟩ := Option.map_eq_some_iff.1 read
      obtain ⟨n, digits, -⟩ := Option.bind_eq_some_iff.1 lifted
      refine List.forall_mem_cons.2 ⟨.inl ?_, isNumeral_of_splitSign (isNumeral_of_natural? digits)⟩
      obtain small | capital := Bool.or_eq_true_iff.1 marked
      · rw [beq_iff_eq.1 small]
        decide
      · rw [beq_iff_eq.1 capital]
        decide
    next => cases read

/-- Digits in front of a numeral make a numeral. -/
theorem isNumeral_of_dropWhile (rest : ∀ d ∈ cs.dropWhile Char.isDigit, IsNumeral d) :
    ∀ d ∈ cs, IsNumeral d := by
  intro d member
  rw [← List.takeWhile_append_dropWhile (p := Char.isDigit) (l := cs)] at member
  obtain front | back := List.mem_append.1 member
  · exact .of_digit (List.mem_takeWhile_imp front)
  · exact rest d back

/-- A decimal is a numeral. -/
theorem isNumeral_of_decimal? (read : decimal? cs = some x) : ∀ d ∈ cs, IsNumeral d := by
  apply isNumeral_of_dropWhile
  unfold decimal? at read
  simp only at read
  split at read
  next after point =>
    split at read
    next => cases read
    next =>
      obtain ⟨exponent, exponential, -⟩ := Option.map_eq_some_iff.1 read
      rw [point]
      refine List.forall_mem_cons.2 ⟨.inr (.inr (.inr rfl)), isNumeral_of_dropWhile ?_⟩
      exact isNumeral_of_exponentPart? exponential
  next =>
    split at read
    next => cases read
    next =>
      obtain ⟨exponent, exponential, -⟩ := Option.map_eq_some_iff.1 read
      exact isNumeral_of_exponentPart? exponential

/-- What is read as a float is a numeral. -/
theorem isNumeral_of_float? (read : float? cs = some x) : ∀ d ∈ cs, IsNumeral d := by
  apply isNumeral_of_splitSign
  have spelled {word : String} (letters : ∀ d ∈ word.toList, IsNumeral d)
      (same : (String.ofList ((splitSign cs).2.map Char.toLower) == word) = true) :
      ∀ d ∈ (splitSign cs).2, IsNumeral d := by
    intro d member
    apply IsNumeral.of_toLower
    apply letters
    rw [← beq_iff_eq.1 same, String.toList_ofList]
    exact List.mem_map_of_mem member
  unfold float? at read
  simp only at read
  split at read
  next infinite =>
    obtain short | long := Bool.or_eq_true_iff.1 infinite
    · exact spelled (by simp [IsNumeral]) short
    · exact spelled (by simp [IsNumeral]) long
  next =>
    split at read
    next undefined => exact spelled (by simp [IsNumeral]) undefined
    next =>
      obtain ⟨magnitude, decimal, -⟩ := Option.map_eq_some_iff.1 read
      exact isNumeral_of_decimal? decimal

/-! ### What the spellings leave out -/

/-- Characters without the marks among them. -/
def unmarked (cs : List Char) : List Char := cs.filter (· != '_')

/-- Where nothing is a mark, nothing is left out. -/
theorem unmarked_of_forall_ne (plain : ∀ d ∈ cs, d ≠ '_') : unmarked cs = cs :=
  List.filter_eq_self.2 fun d member => bne_iff_ne.2 (plain d member)

/-- A mark is left out. -/
theorem unmarked_cons_mark (rest : List Char) : unmarked ('_' :: rest) = unmarked rest := rfl

/-- Anything else stays. -/
theorem unmarked_cons (plain : c ≠ '_') (rest : List Char) :
    unmarked (c :: rest) = c :: unmarked rest :=
  List.filter_cons_of_pos (bne_iff_ne.2 plain)

/-- Groups of a setting are joined by leaving out the marks. -/
theorem joinGroups?_eq_unmarked {joined : List Char} (join : joinGroups? cs = some joined) :
    joined = unmarked cs := by
  have step (afterMark : Bool) {cs joined : List Char}
      (join : joinGroups?.go afterMark cs = some joined) : joined = unmarked cs := by
    fun_induction joinGroups?.go afterMark cs generalizing joined with
    | case1 | case3 => cases join
    | case2 => exact (Option.some.inj join).symm
    | case4 afterMark rest unmarkedBefore inductionHypothesis =>
      exact inductionHypothesis join
    | case5 afterMark c rest plain inductionHypothesis =>
      obtain ⟨others, further, rfl⟩ := Option.map_eq_some_iff.1 join
      rw [inductionHypothesis further, unmarked_cons fun same => plain same]
  exact step true join

/-- Groups of an argument are joined by leaving out the marks. -/
theorem joinDigitGroups?_eq_unmarked {joined : List Char}
    (join : joinDigitGroups? cs = some joined) : joined = unmarked cs := by
  have step (afterDigit : Bool) {cs joined : List Char}
      (join : joinDigitGroups?.go afterDigit cs = some joined) : joined = unmarked cs := by
    fun_induction joinDigitGroups?.go afterDigit cs generalizing joined with
    | case1 => exact (Option.some.inj join).symm
    | case2 afterDigit c rest digits inductionHypothesis =>
      obtain ⟨others, further, rfl⟩ := Option.map_eq_some_iff.1 join
      have plain : c ≠ '_' := by
        rintro rfl
        exact absurd (Bool.and_eq_true_iff.1 digits).2 (by decide)
      rw [inductionHypothesis further, unmarked_cons_mark, unmarked_cons plain]
    | case3 | case4 => cases join
    | case5 afterDigit c rest followed last inductionHypothesis =>
      obtain ⟨others, further, rfl⟩ := Option.map_eq_some_iff.1 join
      have plain : c ≠ '_' := by
        intro mark
        cases rest with
        | nil => exact last mark rfl
        | cons d more => exact followed d more mark rfl
      rw [inductionHypothesis further, unmarked_cons plain]
  exact step false join

/-- In ASCII, digits are written already. -/
theorem asciiDigits_of_ascii (ascii : ∀ d ∈ cs, d.toNat < 0x80) : asciiDigits cs = cs := by
  refine (List.map_congr_left (g := id) fun d member => ?_).trans (List.map_id cs)
  split
  next value digit =>
    simp only [digitValue?, ascii d member, if_true] at digit
    split at digit
    next bounds =>
      obtain rfl := Option.some.inj digit
      simp only [Bool.and_eq_true, decide_eq_true_eq] at bounds
      rw [show 0x30 + (d.toNat - 0x30) = d.toNat by omega]
      exact Char.ofNat_toNat d
    next => cases digit
  next => rfl

/-- Without blanks nothing is taken away from the ends. -/
theorem strip_of_solid (solid : ∀ d ∈ cs, isSpace d = false) : strip isSpace cs = cs := by
  cases cs with
  | nil => rfl
  | cons c rest =>
    have kept := strip_append_of_kept (List.cons_ne_nil c rest) (List.forall_mem_nil _) solid
      (List.forall_mem_nil _)
    rwa [List.nil_append, List.append_nil] at kept

/-- Visible ASCII characters are no blanks. -/
theorem isSpace_of_visible (low : 0x20 < c.toNat) (high : c.toNat < 0x7F) : isSpace c = false :=
  (Bool.or_eq_false_iff.1 (isBlank_of_visible low high)).1

end

/-! ### One number in both spellings -/

/-- An argument of visible ASCII characters is read without the marks among them. -/
theorem eq_of_argumentFloat? {cs : List Char} {y : Float}
    (visible : ∀ d ∈ strip isSpace cs, d.toNat < 0x80)
    (read : argumentFloat? (ofChars cs) = some y) :
    float? (unmarked (strip isSpace cs)) = some y := by
  unfold argumentFloat? at read
  obtain ⟨row, taken, found⟩ := Option.bind_eq_some_iff.1 read
  unfold argumentChars? at taken
  obtain ⟨chars, made, join⟩ := Option.bind_eq_some_iff.1 taken
  rw [chars?_ofChars] at made
  obtain rfl := Option.some.inj made
  rw [asciiDigits_of_ascii visible] at join
  rw [← joinDigitGroups?_eq_unmarked join]
  exact found

/-- A text that is a number in both spellings is the same number in both. -/
theorem settingFloat?_eq_argumentFloat? {s : String} {x y : Float}
    (setting : settingFloat? s = some x) (argument : argumentFloat? s = some y) : x = y := by
  change argumentFloat? (ofChars s.toList) = some y at argument
  unfold settingFloat? at setting
  split at setting
  next plain =>
    obtain rfl := Option.some.inj setting
    have numeral := isNumeral_of_float? plain
    have read := eq_of_argumentFloat?
      (fun d member => Nat.lt_succ_of_lt (numeral d member).ascii.2.1) argument
    rw [unmarked_of_forall_ne fun d member => (numeral d member).ascii.2.2] at read
    exact Option.some.inj (plain.symm.trans read)
  next =>
    obtain ⟨joined, join, found⟩ := Option.bind_eq_some_iff.1 setting
    obtain rfl := joinGroups?_eq_unmarked join
    -- what stands among the marks is a numeral, so there are no blanks to be taken away
    have visible : ∀ d ∈ s.toList, 0x20 < d.toNat ∧ d.toNat < 0x7F := by
      intro d member
      by_cases mark : d = '_'
      · rw [mark]
        decide
      · have numeral : IsNumeral d := isNumeral_of_float? found d
          (List.mem_filter.2 ⟨member, bne_iff_ne.2 mark⟩)
        exact ⟨numeral.ascii.1, numeral.ascii.2.1⟩
    have whole : strip isSpace s.toList = s.toList :=
      strip_of_solid fun d member =>
        isSpace_of_visible (visible d member).1 (visible d member).2
    have ascii : ∀ d ∈ strip isSpace s.toList, d.toNat < 0x80 := by
      rw [whole]
      exact fun d member => Nat.lt_succ_of_lt (visible d member).2
    have read := eq_of_argumentFloat? ascii argument
    rw [whole] at read
    exact Option.some.inj (found.symm.trans read)

/-- A text denotes one number at most. -/
theorem Denotes.unique {text : Text} {x y : Float} (first : Denotes text x)
    (second : Denotes text y) : x = y := by
  cases first with
  | argument read =>
    cases second with
    | argument other => exact Option.some.inj (read.symm.trans other)
    | setting string other =>
      exact (settingFloat?_eq_argumentFloat? other
        (Text.eq_ofString_of_string? string ▸ read)).symm
  | setting string read =>
    cases second with
    | argument other =>
      exact settingFloat?_eq_argumentFloat? read (Text.eq_ofString_of_string? string ▸ other)
    | setting otherString other =>
      obtain rfl := Option.some.inj (string.symm.trans otherString)
      exact Option.some.inj (read.symm.trans other)

end EngineGateway.Decimal
