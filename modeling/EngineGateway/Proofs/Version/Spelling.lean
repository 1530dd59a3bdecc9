import EngineGateway.Proofs.Text.Digits
import EngineGateway.Proofs.Text.Trimming
import EngineGateway.Proofs.Version.Countable

/-!
# The grammar of versions

What a text has to be for a version to be read in it, said without the reader: a spelling of two or
three numbers and perhaps a pre-release text, between two rows of blanks. The reader takes exactly
these texts, each in the only way in which it can be taken apart, and fails on all others.
-/

namespace EngineGateway.Version

/-! ### The grammar -/

/-- A run of decimal digits, of any script. -/
def IsDigitRun (run : List Char) : Prop := run ≠ [] ∧ ∀ c ∈ run, Text.isDigit c = true

instance : DecidablePred IsDigitRun := fun run =>
  decidable_of_iff ((!run.isEmpty && run.all Text.isDigit) = true) (by simp [IsDigitRun])

/-- A pre-release text: ASCII digits and letters, points and hyphens. -/
def IsPreReleaseText (pre : List Char) : Prop :=
  pre ≠ [] ∧ ∀ c ∈ pre,
    ('0' ≤ c ∧ c ≤ '9') ∨ ('A' ≤ c ∧ c ≤ 'Z') ∨ ('a' ≤ c ∧ c ≤ 'z') ∨ c = '.' ∨ c = '-'

/-- A part that may be absent, after the mark that announces it. -/
def marked (mark : Char) : Option (List Char) → List Char
  | none => []
  | some part => mark :: part

namespace Spelling

/-- The characters of a spelling. -/
def chars (s : Spelling) : List Char :=
  s.major ++ '.' :: (s.minor ++ (marked '.' s.patch ++ marked '-' s.preRelease))

/-- A spelling whose parts are what they have to be. -/
structure WellFormed (s : Spelling) : Prop where
  major : IsDigitRun s.major
  minor : IsDigitRun s.minor
  patch : ∀ run ∈ s.patch, IsDigitRun run
  preRelease : ∀ pre ∈ s.preRelease, IsPreReleaseText pre

/-- The runs of digits that denote numbers. -/
def numberRuns (s : Spelling) : List (List Char) := s.major :: s.minor :: s.patch.toList

/-- No run of digits is longer than a number may be. -/
def Short (s : Spelling) : Prop := ∀ run ∈ s.numberRuns, run.length ≤ Decimal.digitLimit

/-- The first run of digits that is longer than a number may be. -/
def longRun? (s : Spelling) : Option (List Char) :=
  s.numberRuns.find? fun run => Decimal.digitLimit < run.length

/-- The version that is spelled, of a distribution as it was given. -/
def meaning (s : Spelling) (distribution : Option Text) : Version where
  major := Text.decimalValue s.major
  minor := Text.decimalValue s.minor
  patch := (s.patch.map Text.decimalValue).getD 0
  preRelease := s.preRelease.map Text.ofChars
  distribution := normalDistribution distribution

end Spelling

/-- A version as it stands in a text, with what is in front of it and behind it. -/
@[ext] structure Inscription where
  front : List Char
  spelling : Spelling
  back : List Char

/-- A text is a well-formed spelling between blanks. -/
structure Inscription.Makes (i : Inscription) (raw : Text) : Prop where
  blankFront : ∀ c ∈ i.front, Text.isBlank c = true
  wellFormed : i.spelling.WellFormed
  blankBack : ∀ c ∈ i.back, Text.isBlank c = true
  whole : raw = Text.ofChars (i.front ++ i.spelling.chars ++ i.back)

/-! ### The parts of a spelling -/

/-- The characters that are looked for in a pre-release text are those of the grammar. -/
theorem isPreReleaseChar_iff {c : Char} : isPreReleaseChar c = true ↔
    ('0' ≤ c ∧ c ≤ '9') ∨ ('A' ≤ c ∧ c ≤ 'Z') ∨ ('a' ≤ c ∧ c ≤ 'z') ∨ c = '.' ∨ c = '-' := by
  unfold isPreReleaseChar
  delta Char.isAlphanum Char.isAlpha Char.isUpper Char.isLower Char.isDigit
  simp only [Bool.or_eq_true, Bool.and_eq_true, decide_eq_true_eq, beq_iff_eq, Char.le_def,
    ge_iff_le]
  tauto

/-- The texts that are taken for a pre-release text are those of the grammar. -/
theorem isPreReleaseText_iff (pre : List Char) :
    (!pre.isEmpty && pre.all isPreReleaseChar) = true ↔ IsPreReleaseText pre := by
  simp [IsPreReleaseText, isPreReleaseChar_iff]

instance : DecidablePred IsPreReleaseText := fun pre =>
  decidable_of_iff _ (isPreReleaseText_iff pre)

/-- A run of digits before something else is read as a run. -/
theorem digitRun?_append {run rest : List Char} (digits : IsDigitRun run)
    (stops : ∀ c ∈ rest.head?, Text.isDigit c = false) :
    digitRun? (run ++ rest) = some (run, rest) := by
  rw [digitRun?, Text.takeWhile_append_of_stop digits.2 stops,
    Text.dropWhile_append_of_stop digits.2 stops]
  cases run with
  | nil => exact absurd rfl digits.1
  | cons => rfl

/-- What is read as a run of digits is one. -/
theorem isDigitRun_of_digitRun? {cs run rest : List Char} (read : digitRun? cs = some (run, rest)) :
    IsDigitRun run ∧ cs = run ++ rest := by
  unfold digitRun? at read
  split at read
  next => cases read
  next taken some =>
    obtain ⟨rfl, rfl⟩ := Prod.mk.inj (Option.some.inj read)
    exact ⟨⟨some, fun _ => List.mem_takeWhile_imp⟩, List.takeWhile_append_dropWhile.symm⟩

/-- A run of digits stops at a part that begins with its mark, and where the part is absent at what
follows. -/
theorem marked_append_stops {mark : Char} (noDigit : Text.isDigit mark = false)
    (part : Option (List Char)) {rest : List Char}
    (stops : ∀ c ∈ rest.head?, Text.isDigit c = false) :
    ∀ c ∈ (marked mark part ++ rest).head?, Text.isDigit c = false := by
  cases part with
  | none => exact stops
  | some _ =>
    intro c first
    obtain rfl := Option.some.inj first
    exact noDigit

/-- A run of digits stops at a pre-release text and at the end. -/
theorem marked_stops (pre : Option (List Char)) :
    ∀ c ∈ (marked '-' pre).head?, Text.isDigit c = false := by
  rw [← List.append_nil (marked '-' pre)]
  exact marked_append_stops (by decide) pre (by simp)

/-- A third number, or none, before a pre-release text or nothing is read as it is. -/
theorem patch?_marked {patch : Option (List Char)} (digits : ∀ run ∈ patch, IsDigitRun run)
    (pre : Option (List Char)) :
    patch? (marked '.' patch ++ marked '-' pre) = some (patch, marked '-' pre) := by
  cases patch with
  | none => cases pre <;> rfl
  | some run =>
    change (digitRun? (run ++ marked '-' pre)).map _ = _
    rw [digitRun?_append (digits run rfl) (marked_stops pre), Option.map_some]

/-- What is read as a third number, or as none, is that. -/
theorem eq_marked_of_patch? {cs rest : List Char} {patch : Option (List Char)}
    (read : patch? cs = some (patch, rest)) :
    (∀ run ∈ patch, IsDigitRun run) ∧ cs = marked '.' patch ++ rest := by
  unfold patch? at read
  split at read
  next after =>
    obtain ⟨⟨run, left⟩, found, same⟩ := Option.map_eq_some_iff.1 read
    obtain ⟨rfl, rfl⟩ := Prod.mk.inj same
    obtain ⟨digits, rfl⟩ := isDigitRun_of_digitRun? found
    exact ⟨fun _ member => Option.some.inj member ▸ digits, rfl⟩
  next =>
    obtain ⟨rfl, rfl⟩ := Prod.mk.inj (Option.some.inj read)
    exact ⟨fun _ member => (Option.not_mem_none _ member).elim, rfl⟩

/-- What follows the numbers is read exactly if it is a pre-release text, or nothing. -/
theorem preRelease?_eq_some_iff {cs : List Char} {pre : Option (List Char)} :
    preRelease? cs = some pre ↔ (∀ p ∈ pre, IsPreReleaseText p) ∧ cs = marked '-' pre := by
  constructor
  · intro read
    unfold preRelease? at read
    split at read
    next =>
      obtain rfl := Option.some.inj read
      exact ⟨fun _ member => (Option.not_mem_none _ member).elim, rfl⟩
    next p =>
      split at read
      next valid =>
        obtain rfl := Option.some.inj read
        exact ⟨fun _ member => Option.some.inj member ▸ (isPreReleaseText_iff p).1 valid, rfl⟩
      next => cases read
    next => cases read
  · rintro ⟨valid, rfl⟩
    cases pre with
    | none => rfl
    | some p => exact if_pos ((isPreReleaseText_iff p).2 (valid p rfl))

/-- Exactly the characters of a well-formed spelling are taken apart, and into this spelling. -/
theorem Spelling.ofChars?_eq_some_iff {cs : List Char} {s : Spelling} :
    Spelling.ofChars? cs = some s ↔ s.WellFormed ∧ cs = s.chars := by
  constructor
  · intro read
    simp only [ofChars?, Option.bind_eq_bind, Option.bind_eq_some_iff, Prod.exists] at read
    obtain ⟨major, afterMajor, readMajor, read⟩ := read
    split at read
    next afterPoint =>
      simp only [Option.bind_eq_some_iff, Prod.exists] at read
      obtain ⟨minor, afterMinor, readMinor, patch, afterPatch, readPatch, pre, readPre, same⟩ :=
        read
      obtain rfl := Option.some.inj same
      obtain ⟨digits, rfl⟩ := isDigitRun_of_digitRun? readMajor
      obtain ⟨moreDigits, rfl⟩ := isDigitRun_of_digitRun? readMinor
      obtain ⟨lastDigits, rfl⟩ := eq_marked_of_patch? readPatch
      obtain ⟨valid, rfl⟩ := preRelease?_eq_some_iff.1 readPre
      exact ⟨⟨digits, moreDigits, lastDigits, valid⟩, rfl⟩
    next => cases read
  · rintro ⟨⟨digits, moreDigits, lastDigits, valid⟩, rfl⟩
    have noDigit : Text.isDigit '.' = false := by decide
    have readMajor : digitRun? s.chars = some (s.major,
        '.' :: (s.minor ++ (marked '.' s.patch ++ marked '-' s.preRelease))) :=
      digitRun?_append digits (by rintro c ⟨⟩; exact noDigit)
    have readMinor := digitRun?_append moreDigits
      (marked_append_stops noDigit s.patch (marked_stops s.preRelease))
    have readPreRelease := preRelease?_eq_some_iff.2 ⟨valid, rfl⟩
    simp only [ofChars?, Option.bind_eq_bind, readMajor, Option.bind_some, readMinor,
      patch?_marked lastDigits, readPreRelease]
    rfl

/-! ### Spellings in a text -/

/-- No blank stands in a pre-release text. -/
theorem IsPreReleaseText.isBlank {pre : List Char} (valid : IsPreReleaseText pre) :
    ∀ c ∈ pre, Text.isBlank c = false := by
  intro c member
  have among := valid.2 c member
  simp only [Char.le_def, UInt32.le_iff_toNat_le] at among
  obtain digit | upper | lower | rfl | rfl := among
  · exact Text.isBlank_of_visible (Nat.lt_of_lt_of_le (by decide) digit.1)
      (Nat.lt_of_le_of_lt digit.2 (by decide))
  · exact Text.isBlank_of_visible (Nat.lt_of_lt_of_le (by decide) upper.1)
      (Nat.lt_of_le_of_lt upper.2 (by decide))
  · exact Text.isBlank_of_visible (Nat.lt_of_lt_of_le (by decide) lower.1)
      (Nat.lt_of_le_of_lt lower.2 (by decide))
  · decide
  · decide

/-- No blank stands in a part of which none stands in it and whose mark is none. -/
theorem marked_isBlank (mark : Char) (noBlank : Text.isBlank mark = false)
    {part : Option (List Char)} (inside : ∀ p ∈ part, ∀ c ∈ p, Text.isBlank c = false) :
    ∀ c ∈ marked mark part, Text.isBlank c = false := by
  cases part with
  | none => exact List.forall_mem_nil _
  | some p => exact List.forall_mem_cons.2 ⟨noBlank, inside p rfl⟩

/-- No blank stands in a run of digits. -/
theorem IsDigitRun.isBlank {run : List Char} (digits : IsDigitRun run) :
    ∀ c ∈ run, Text.isBlank c = false :=
  fun c member => Text.isBlank_of_isDigit (digits.2 c member)

/-- No blank stands in a well-formed spelling. -/
theorem Spelling.WellFormed.isBlank {s : Spelling} (wellFormed : s.WellFormed) :
    ∀ c ∈ s.chars, Text.isBlank c = false := by
  have patch := marked_isBlank '.' (by decide) fun run member =>
    (wellFormed.patch run member).isBlank
  have preRelease := marked_isBlank '-' (by decide) fun pre member =>
    (wellFormed.preRelease pre member).isBlank
  have point : Text.isBlank '.' = false := by decide
  rw [chars, List.forall_mem_append, List.forall_mem_cons, List.forall_mem_append,
    List.forall_mem_append]
  exact ⟨wellFormed.major.isBlank, point, wellFormed.minor.isBlank, patch, preRelease⟩

/-- A spelling is not empty. -/
theorem Spelling.chars_ne_nil (s : Spelling) : s.chars ≠ [] := by simp [chars]

section

variable {raw : Text} {i j : Inscription}

/-- The spelling in a text is what is left of it when it is trimmed. -/
theorem Inscription.Makes.trim_eq (made : i.Makes raw) : raw.trim = .ofChars i.spelling.chars := by
  rw [made.whole]
  exact Text.trim_ofChars_append i.spelling.chars_ne_nil made.blankFront made.wellFormed.isBlank
    made.blankBack

/-- A spelling is found in a text exactly if the text is that spelling between blanks. -/
theorem spelled_iff {s : Spelling} :
    raw.trim.chars?.bind Spelling.ofChars? = some s ↔
      ∃ i : Inscription, i.Makes raw ∧ i.spelling = s := by
  constructor
  · intro found
    obtain ⟨cs, left, read⟩ := Option.bind_eq_some_iff.1 found
    obtain ⟨wellFormed, rfl⟩ := Spelling.ofChars?_eq_some_iff.1 read
    obtain ⟨front, back, whole, blankFront, blankBack⟩ := Text.exists_around_trim left
    exact ⟨⟨front, s, back⟩, ⟨blankFront, wellFormed, blankBack, whole⟩, rfl⟩
  · rintro ⟨i, made, rfl⟩
    rw [made.trim_eq, Text.chars?_ofChars, Option.bind_some]
    exact Spelling.ofChars?_eq_some_iff.2 ⟨made.wellFormed, rfl⟩

/-- What stands in front of a spelling is the blanks with which the text begins. -/
theorem Inscription.Makes.front_eq (made : i.Makes raw) {cs : List Char}
    (read : raw.chars? = some cs) : cs.takeWhile Text.isBlank = i.front := by
  have whole : cs = i.front ++ (i.spelling.chars ++ i.back) := by
    rw [made.whole, Text.chars?_ofChars, List.append_assoc] at read
    exact (Option.some.inj read).symm
  rw [whole]
  refine Text.takeWhile_append_of_stop made.blankFront fun c first => ?_
  rw [List.head?_append_of_ne_nil _ i.spelling.chars_ne_nil] at first
  exact made.wellFormed.isBlank c (List.mem_of_mem_head? first)

/-- No text is a spelling between blanks in two ways. -/
theorem Inscription.Makes.unique (made : i.Makes raw) (again : j.Makes raw) : i = j := by
  have spelling : i.spelling = j.spelling :=
    Option.some.inj ((spelled_iff.2 ⟨i, made, rfl⟩).symm.trans (spelled_iff.2 ⟨j, again, rfl⟩))
  have read := made.whole ▸ Text.chars?_ofChars (i.front ++ i.spelling.chars ++ i.back)
  have front : i.front = j.front := (made.front_eq read).symm.trans (again.front_eq read)
  have back : i.back = j.back := by
    have whole := again.whole ▸ Text.chars?_ofChars (j.front ++ j.spelling.chars ++ j.back)
    have same := Option.some.inj (read.symm.trans whole)
    rw [front, spelling] at same
    exact List.append_cancel_left same
  exact Inscription.ext front spelling back

/-- In a text that is no spelling between blanks no version is read. -/
theorem parse_of_no_inscription (none : ¬∃ i : Inscription, i.Makes raw)
    (distribution : Option Text) : parse raw distribution = .error (.malformed raw) := by
  unfold parse
  split
  next => rfl
  next s found =>
    obtain ⟨i, made, -⟩ := spelled_iff.1 found
    exact absurd ⟨i, made⟩ none

/-- In a spelling between blanks the version is read that it means, unless a run of digits is too
long; then the first such run is complained about. -/
theorem Inscription.Makes.parse_eq (made : i.Makes raw) (distribution : Option Text) :
    parse raw distribution = match i.spelling.longRun? with
      | some run => .error (.tooLong run.length)
      | none => .ok (i.spelling.meaning distribution) := by
  rw [parse, spelled_iff.2 ⟨i, made, rfl⟩]
  obtain ⟨major, minor, patch, preRelease⟩ := i.spelling
  have denoted {run : List Char} (short : ¬Decimal.digitLimit < run.length) :
      number run = .ok (Text.decimalValue run) := by
    rw [number_of_short (Nat.not_lt.1 short), Text.digitsValue_eq_decimalValue]
  simp only [Spelling.longRun?, Spelling.numberRuns]
  -- the numbers are read from left to right, and nothing behind a long run is looked at
  by_cases first : Decimal.digitLimit < major.length
  · simp only [number_of_long first, List.find?_cons, first, decide_true]
    rfl
  by_cases second : Decimal.digitLimit < minor.length
  · simp only [denoted first, number_of_long second, List.find?_cons, first, second, decide_true,
      decide_false]
    rfl
  cases patch with
  | none =>
    simp only [denoted first, denoted second, List.find?_cons, first, second, decide_false]
    rfl
  | some run =>
    by_cases third : Decimal.digitLimit < run.length
    · simp only [denoted first, denoted second, number_of_long third, List.find?_cons, first,
        second, third, Option.toList_some, decide_true, decide_false]
      rfl
    · simp only [denoted first, denoted second, denoted third, List.find?_cons, first, second,
        third, Option.toList_some, decide_false]
      rfl

/-- No run of digits is too long exactly if there is no first one. -/
theorem Spelling.longRun?_eq_none_iff {s : Spelling} : s.longRun? = none ↔ s.Short := by
  simp [longRun?, Short]

/-- A spelling between blanks whose numbers can be read is read as the version that it means. -/
theorem Inscription.Makes.parse_of_short (made : i.Makes raw) (short : i.spelling.Short)
    (distribution : Option Text) :
    parse raw distribution = .ok (i.spelling.meaning distribution) := by
  rw [made.parse_eq, Spelling.longRun?_eq_none_iff.2 short]

/-- A version that is read is spelled in the text, by numbers that can be read. -/
theorem exists_makes_of_parse {distribution : Option Text} {v : Version}
    (read : parse raw distribution = .ok v) :
    ∃ i : Inscription, i.Makes raw ∧ i.spelling.Short ∧ i.spelling.meaning distribution = v := by
  by_cases spelled : ∃ i : Inscription, i.Makes raw
  · obtain ⟨i, made⟩ := spelled
    rw [made.parse_eq] at read
    cases long : i.spelling.longRun? with
    | none =>
      rw [long] at read
      exact ⟨i, made, Spelling.longRun?_eq_none_iff.1 long, Except.ok.inj read⟩
    | some run =>
      rw [long] at read
      cases read
  · rw [parse_of_no_inscription spelled] at read
    cases read

end

/-! ### Reading by the grammar -/

/-- What reading a text as a version comes to, by the grammar alone. -/
structure FollowsGrammar (raw : Text) (distribution : Option Text) : Prop where
  /-- A text is a spelling between blanks in one way at most. -/
  unique : ∀ i j : Inscription, i.Makes raw → j.Makes raw → i = j
  /-- A version is read exactly in a spelling between blanks whose numbers can be read. -/
  accepted_iff : (∃ v, parse raw distribution = .ok v) ↔
    ∃ i : Inscription, i.Makes raw ∧ i.spelling.Short
  /-- It is the version that is spelled. -/
  denoted : ∀ i : Inscription, i.Makes raw → i.spelling.Short →
    parse raw distribution = .ok (i.spelling.meaning distribution)
  /-- Every other text is called malformed. -/
  malformed_iff : parse raw distribution = .error (.malformed raw) ↔
    ¬∃ i : Inscription, i.Makes raw
  /-- The length of a number is complained about only where the first too long one has it. -/
  tooLong_iff : ∀ digits, parse raw distribution = .error (.tooLong digits) ↔
    ∃ i : Inscription, i.Makes raw ∧ ∃ run, i.spelling.longRun? = some run ∧ run.length = digits

/-- Exactly the texts of the grammar are read, each as the version that it spells. -/
theorem texts_are_read_by_the_grammar (raw : Text) (distribution : Option Text) :
    FollowsGrammar raw distribution where
  unique := fun _ _ made again => made.unique again
  accepted_iff := by
    constructor
    · rintro ⟨v, read⟩
      obtain ⟨i, made, short, -⟩ := exists_makes_of_parse read
      exact ⟨i, made, short⟩
    · rintro ⟨i, made, short⟩
      exact ⟨_, made.parse_of_short short distribution⟩
  denoted := fun _ made short => made.parse_of_short short distribution
  malformed_iff := by
    constructor
    · rintro refused ⟨i, made⟩
      rw [made.parse_eq] at refused
      cases long : i.spelling.longRun? <;> simp [long] at refused
    · exact fun unspelled => parse_of_no_inscription unspelled distribution
  tooLong_iff := fun digits => by
    constructor
    · intro refused
      by_cases spelled : ∃ i : Inscription, i.Makes raw
      · obtain ⟨i, made⟩ := spelled
        rw [made.parse_eq] at refused
        cases long : i.spelling.longRun? with
        | none => simp [long] at refused
        | some run => exact ⟨i, made, run, long, by simpa [long] using refused⟩
      · rw [parse_of_no_inscription spelled] at refused
        cases refused
    · rintro ⟨i, made, run, long, rfl⟩
      rw [made.parse_eq, long]

/-- A release candidate with blanks around it, a zero in front and a digit of another script. -/
def paddedCandidate : Inscription where
  front := [' ']
  spelling :=
    { major := ['0', '7'], minor := ['٣'], patch := none, preRelease := some "rc.1-x".toList }
  back := ['\n']

/-- Such a candidate is read as what it means, and from its text in no other way. -/
theorem padded_candidate_is_read :
    paddedCandidate.Makes " 07.٣-rc.1-x\n" ∧
      parse " 07.٣-rc.1-x\n" none = .ok { major := 7, minor := 3, preRelease := some "rc.1-x" } ∧
      ∀ i : Inscription, i.Makes " 07.٣-rc.1-x\n" → i = paddedCandidate := by
  have made : paddedCandidate.Makes " 07.٣-rc.1-x\n" :=
    { blankFront := List.forall_mem_singleton.2 (by decide)
      wellFormed :=
        { major := by decide
          minor := by decide
          patch := nofun
          preRelease := by
            rintro pre ⟨⟩
            decide }
      blankBack := List.forall_mem_singleton.2 (by decide)
      whole := rfl }
  have short : paddedCandidate.spelling.Short := by unfold Spelling.Short; decide
  have laws := texts_are_read_by_the_grammar " 07.٣-rc.1-x\n" none
  refine ⟨made, (laws.denoted _ made short).trans rfl, fun i again => laws.unique _ _ again made⟩

end EngineGateway.Version
