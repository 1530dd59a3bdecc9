import EngineGateway.Proofs.Version.Spelling

/-!
# The text of a version reads back

The text of a version that was read is a spelling without blanks, whose numbers are in decimal and
of which the third is never left out. What is read in it is the version again, but for the
distribution, which the text does not tell. So the texts of two versions that were read are the same
exactly if their numbers and their pre-release texts are.
-/

namespace EngineGateway.Version

variable {raw other : Text} {distribution named : Option Text} {v w : Version}

/-- Two versions have the same numbers and the same pre-release text. -/
structure SameParts (v w : Version) : Prop where
  major : v.major = w.major
  minor : v.minor = w.minor
  patch : v.patch = w.patch
  preRelease : v.preRelease = w.preRelease

/-- A version that can be read: its numbers can be written with as many digits as a number may have,
and its pre-release text is one by the grammar. -/
structure Legible (v : Version) : Prop where
  major : (Nat.toDigits 10 v.major).length ≤ Decimal.digitLimit
  minor : (Nat.toDigits 10 v.minor).length ≤ Decimal.digitLimit
  patch : (Nat.toDigits 10 v.patch).length ≤ Decimal.digitLimit
  preRelease : ∃ pre : Option (List Char), v.preRelease = pre.map Text.ofChars ∧
    ∀ p ∈ pre, IsPreReleaseText p

/-- The spelling with numbers in decimal. -/
def canonical (v : Version) (pre : Option (List Char)) : Spelling where
  major := Nat.toDigits 10 v.major
  minor := Nat.toDigits 10 v.minor
  patch := some (Nat.toDigits 10 v.patch)
  preRelease := pre

/-- Decimal digits are a run of digits. -/
theorem isDigitRun_toDigits (n : Nat) : IsDigitRun (Nat.toDigits 10 n) :=
  ⟨Nat.toDigits_ne_nil, fun _ member => Text.isDigit_of_ascii
    (Nat.isDigit_of_mem_toDigits (by decide) (by decide) member)⟩

/-- A run of digits that is short enough denotes a number that is. -/
theorem IsDigitRun.length_toDigits_le {run : List Char} (digits : IsDigitRun run)
    (short : run.length ≤ Decimal.digitLimit) :
    (Nat.toDigits 10 (Text.decimalValue run)).length ≤ Decimal.digitLimit := by
  rw [← Text.digitsValue_eq_decimalValue]
  exact (Text.length_toDigits_digitsValue_le digits.1).trans short

/-- What is read is a version that can be read. -/
theorem legible_of_parse (read : parse raw distribution = .ok v) : v.Legible := by
  obtain ⟨⟨_, ⟨major, minor, patch, pre⟩, _⟩, made, short, rfl⟩ := exists_makes_of_parse read
  obtain ⟨digits, moreDigits, lastDigits, valid⟩ := made.wellFormed
  have shortRun (run : List Char) (among : run ∈ major :: minor :: patch.toList) :
      run.length ≤ Decimal.digitLimit := short run among
  refine ⟨digits.length_toDigits_le (shortRun major (by simp)),
    moreDigits.length_toDigits_le (shortRun minor (by simp)), ?_, pre, rfl, valid⟩
  cases patch with
  | none =>
    have single : (Nat.toDigits 10 0).length ≤ Decimal.digitLimit := by decide
    exact single
  | some run => exact (lastDigits run rfl).length_toDigits_le (shortRun run (by simp))

/-- The text of a version is its canonical spelling. -/
theorem text_eq_chars {pre : Option (List Char)} (written : v.preRelease = pre.map Text.ofChars)
    (valid : ∀ p ∈ pre, IsPreReleaseText p) : v.text = Text.ofChars (v.canonical pre).chars := by
  cases pre with
  | none =>
    rw [text_of_release v written]
    simp [Text.ofString, canonical, Spelling.chars, marked]
  | some p =>
    have filled : (Text.ofChars p).isEmpty = false := by
      simpa [Text.isEmpty, Text.ofChars, Text.pointsOf] using (valid p rfl).1
    simp only [text, written, Option.map_some, filled, Bool.false_eq_true, if_false, Text.ofString,
      ← Text.ofChars_append]
    simp [canonical, Spelling.chars, marked]

/-- A version that can be read is read in its text. -/
theorem Legible.parse_text (legible : v.Legible) (named : Option Text) :
    parse v.text named = .ok { v with distribution := normalDistribution named } := by
  obtain ⟨major, minor, patch, pre, written, valid⟩ := legible
  have made : Inscription.Makes ⟨[], v.canonical pre, []⟩ v.text :=
    { blankFront := List.forall_mem_nil _
      wellFormed := ⟨isDigitRun_toDigits _, isDigitRun_toDigits _,
        fun _ member => Option.some.inj member ▸ isDigitRun_toDigits _, valid⟩
      blankBack := List.forall_mem_nil _
      whole := by rw [text_eq_chars written valid, List.nil_append, List.append_nil] }
  have short : (v.canonical pre).Short := by
    simp [Spelling.Short, Spelling.numberRuns, canonical, major, minor, patch]
  rw [made.parse_of_short short]
  simp [Spelling.meaning, canonical, written, ← Text.digitsValue_eq_decimalValue,
    Text.digitsValue_toDigits]

/-- The text of a version tells nothing but its parts. -/
theorem SameParts.text_eq (same : v.SameParts w) : v.text = w.text := by
  rw [text, text, same.major, same.minor, same.patch, same.preRelease]

/-- Versions that can be read and have one text have the same parts. -/
theorem Legible.sameParts_of_text (legible : v.Legible) (alsoLegible : w.Legible)
    (same : v.text = w.text) : v.SameParts w := by
  have once := legible.parse_text none
  rw [same, alsoLegible.parse_text none] at once
  have equal := Except.ok.inj once
  simp only [Version.mk.injEq] at equal
  obtain ⟨major, minor, patch, preRelease, -⟩ := equal
  exact ⟨major.symm, minor.symm, patch.symm, preRelease.symm⟩

/-- What is read is read again in its text, which stays as it is, and two versions that were read
have one text exactly if they have the same parts. -/
theorem text_reads_back (read : parse raw distribution = .ok v)
    (alsoRead : parse other named = .ok w) :
    (∀ given, ∃ again, parse v.text given = .ok again ∧ again.SameParts v ∧ again.text = v.text) ∧
      (v.text = w.text ↔ v.SameParts w) := by
  have legible := legible_of_parse read
  refine ⟨fun given => ?_, legible.sameParts_of_text (legible_of_parse alsoRead),
    SameParts.text_eq⟩
  have same : SameParts { v with distribution := normalDistribution given } v :=
    ⟨rfl, rfl, rfl, rfl⟩
  exact ⟨_, legible.parse_text given, same, same.text_eq⟩

/-- A release candidate. -/
def candidate : Version := { major := 7, minor := 3, preRelease := some "rc.1-x" }

/-- A candidate of a fork is written with blanks, zeros and digits of another script, and another
candidate plainly; they have one text, in which the candidate is read again. -/
theorem candidates_have_one_text :
    let forked : Version := { candidate with distribution := "opensearch" }
    parse " 07.٣-rc.1-x\n" (some " OpenSearch") = .ok forked ∧
      parse "7.3.0-rc.1-x" none = .ok candidate ∧ forked.text = "7.3.0-rc.1-x" ∧
      (∃ again, parse forked.text none = .ok again ∧ again.SameParts forked ∧
        again.text = forked.text) ∧ forked.text = candidate.text := by
  intro forked
  have read : parse " 07.٣-rc.1-x\n" (some " OpenSearch") = .ok forked := rfl
  have plain : parse "7.3.0-rc.1-x" none = .ok candidate := rfl
  have shown : forked.text = "7.3.0-rc.1-x" := by decide +kernel
  have laws := text_reads_back read plain
  exact ⟨read, plain, shown, laws.1 none, laws.2.2 ⟨rfl, rfl, rfl, rfl⟩⟩

end EngineGateway.Version
