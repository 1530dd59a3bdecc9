import EngineGateway.Capabilities

/-!
# Versions that can be compared

A version can be compared if every run of digits in its pre-release text is short enough to be a
number. What an engine can do follows from such a version.
-/

namespace EngineGateway

namespace Version

/-- No run of digits in the pre-release text is longer than a number may be. -/
def Countable (version : Version) : Prop :=
  ∀ pre, version.preRelease = some pre →
    ∀ run, (CharKind.digit, run) ∈ runs (preReleaseChars pre) → run.length ≤ Decimal.digitLimit

/-- A run of digits that is short enough is a number. -/
theorem number_of_short {run : List Char} (short : run.length ≤ Decimal.digitLimit) :
    number run = .ok (Text.digitsValue run) := by
  rw [number, if_neg (Nat.not_lt.2 short)]

/-- A run of digits that is longer than a number may be is none. -/
theorem number_of_long {run : List Char} (long : Decimal.digitLimit < run.length) :
    number run = .error (.tooLong run.length) := if_pos long

/-- Runs of which those of digits are short enough have identifiers. -/
theorem identifiersOfRuns_of_short {rows : List (CharKind × List Char)}
    (short : ∀ run, (CharKind.digit, run) ∈ rows → run.length ≤ Decimal.digitLimit) :
    ∃ found, identifiersOfRuns rows = .ok found := by
  induction rows with
  | nil => exact ⟨[], rfl⟩
  | cons row rest inductionHypothesis =>
    obtain ⟨kind, run⟩ := row
    obtain ⟨found, read⟩ := inductionHypothesis fun other member =>
      short other (List.mem_cons_of_mem _ member)
    cases kind with
    | separator => exact ⟨found, read⟩
    | letter =>
      rw [identifiersOfRuns, read]
      exact ⟨_, rfl⟩
    | digit =>
      rw [identifiersOfRuns, number_of_short (short run List.mem_cons_self), read]
      exact ⟨_, rfl⟩

/-- A version that can be compared has its place in the order. -/
theorem Countable.precedence_eq {version : Version} (countable : version.Countable) :
    ∃ place, version.precedence = .ok place := by
  unfold precedence
  cases written : version.preRelease with
  | none => exact ⟨_, rfl⟩
  | some pre =>
    obtain ⟨found, read⟩ := identifiersOfRuns_of_short (countable pre written)
    simp only [identifiers, read]
    exact ⟨_, rfl⟩

/-- Such a version is at least another one, or is not. -/
theorem Countable.isAtLeast_eq {version least : Version} (countable : version.Countable)
    (comparable : least.Countable) : ∃ verdict, version.isAtLeast least = .ok verdict := by
  obtain ⟨place, placed⟩ := countable.precedence_eq
  obtain ⟨bound, bounded⟩ := comparable.precedence_eq
  refine ⟨place.compare bound != .lt, ?_⟩
  rw [isAtLeast, compare, placed, bounded]
  rfl

/-- A release can always be compared. -/
theorem countable_of_release {version : Version} (release : version.preRelease = none) :
    version.Countable := by
  intro pre written
  rw [release] at written
  cases written

end Version

namespace Capabilities

/-- The first version with pipelines can be compared. -/
theorem ingestSince_countable : ingestSince.Countable := by
  rintro pre ⟨⟩ run member
  have written : Version.runs (Version.preReleaseChars "alpha1") =
      [(.letter, "alpha".toList), (.digit, "1".toList)] := by decide
  rw [written] at member
  obtain word | digits := List.mem_cons.1 member
  · cases word
  · obtain ⟨-, rfl⟩ := Prod.mk.inj (List.mem_singleton.1 digits)
    decide

/-- What an engine can do follows from a version that can be compared. -/
theorem ofVersion_of_countable {version : Version} (countable : version.Countable) :
    ∃ able, ofVersion version = .ok able := by
  obtain ⟨ingest, first⟩ := countable.isAtLeast_eq ingestSince_countable
  have release : ∀ bound : Version, bound.preRelease = none →
      ∃ verdict, version.isAtLeast bound = .ok verdict :=
    fun bound final => countable.isAtLeast_eq (Version.countable_of_release final)
  obtain ⟨typeless, second⟩ := release typelessSince rfl
  obtain ⟨tracking, third⟩ := release trackingSince rfl
  obtain ⟨untyped, fourth⟩ := release untypedDocumentsSince rfl
  unfold ofVersion
  split
  · exact ⟨_, rfl⟩
  · rw [first, second, third, fourth]
    exact ⟨_, rfl⟩

end Capabilities

end EngineGateway
