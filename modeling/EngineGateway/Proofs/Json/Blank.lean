import EngineGateway.Json.Reader
import EngineGateway.Proofs.Text.Digits

/-!
# Texts of blanks

The blanks of JSON are four, and a text counts as blank by many more. Nothing that is a value begins
with any of them: no word, no digit and no sign is a blank, nor is what opens a string, an array or
an object. So a text of blanks reads as no value, and to look for blanks before reading takes
nothing away from what can be read.
-/

namespace EngineGateway.Json

open Text

/-- No word and no number begins with a blank. -/
theorem plain_of_blank {c : Char} (blank : isBlank c = true) (rest : List Point) :
    word? (.char c :: rest) = none ∧ ∃ stop, number (.char c :: rest) = .error stop := by
  have differs {d : Char} (solid : isBlank d = false) : d ≠ c := by
    rintro rfl
    simp [blank] at solid
  have noDigit : c.isDigit = false := by
    cases digit : c.isDigit with
    | false => rfl
    | true => simp [isBlank_of_isDigit (isDigit_of_ascii digit)] at blank
  have zero := differs (d := '0') rfl
  have minus := differs (d := '-') rfl
  have noWhole : wholePart? (.char c :: rest) = none := by
    unfold wholePart?
    split
    · simp_all
    · simp [takeDigits, noDigit]
  refine ⟨?_, .fault .noValue (rest.length + 1), ?_⟩
  · simp [word?, words, afterWord?, minus, differs (d := 'n') rfl, differs (d := 't') rfl,
      differs (d := 'f') rfl, differs (d := 'N') rfl, differs (d := 'I') rfl]
  · unfold number
    split
    next negative unsigned parted =>
      have whole : unsigned = .char c :: rest := by
        split at parted
        · simp_all
        · exact (Prod.mk.inj parted).2.symm
      rw [whole, noWhole]
      rfl

/-- No value begins with a blank, and there is none where nothing is left. -/
theorem value_of_blank {points : List Point} (blank : points.all (Point.passes isBlank) = true)
    (count levels : Nat) : ∃ stop, value (count + 1) levels points = .error stop := by
  cases points with
  | nil => cases levels <;> exact ⟨_, rfl⟩
  | cons point rest =>
    rw [List.all_cons, Bool.and_eq_true] at blank
    cases point with
    | half unit => exact absurd blank.1 Bool.false_ne_true
    | char c =>
      obtain ⟨noWord, stop, noNumber⟩ := plain_of_blank blank.1 rest
      -- What opens a string, an array or an object is no blank.
      have solid : c ≠ '"' ∧ c ≠ '[' ∧ c ≠ '\x7b' := by
        refine ⟨?_, ?_, ?_⟩
        all_goals
          rintro rfl
          exact absurd blank.1 (by decide)
      refine ⟨stop, ?_⟩
      rw [value, noWord, noNumber]
      all_goals simp [solid]

/-- A text of blanks is refused. -/
theorem read_of_blank {text : Text} (blank : text.isBlankText = true) :
    ∃ refusal, read text = .error refusal := by
  obtain ⟨points⟩ := text
  have gapless : (skipGap points).all (Point.passes isBlank) = true :=
    List.all_eq_true.2 fun point member =>
      List.all_eq_true.1 blank point ((List.dropWhile_sublist _).subset member)
  obtain ⟨stop, refused⟩ := value_of_blank gapless (2 * points.length + 1) depthLimit
  have stopped : ∃ stop, document points = .error stop := by
    unfold document
    split
    · exact ⟨_, rfl⟩
    · exact ⟨stop, by rw [refused]; rfl⟩
  obtain ⟨stop, stopped⟩ := stopped
  refine ⟨stop.located points, ?_⟩
  rw [read, stopped]
  rfl

end EngineGateway.Json
