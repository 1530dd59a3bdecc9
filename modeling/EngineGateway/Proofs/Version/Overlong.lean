import EngineGateway.Proofs.Version.Growth
import EngineGateway.Proofs.Version.Semantic

/-!
# Versions that cannot be compared

The numbers of a version are counted when it is read, but those of its pre-release text only when it
is compared. A version is `Overlong` if that text holds more digits in a row than a number may have.
The runs into which the text is cut are rows of one kind that lie in it, and every row of one kind
lies in one of them, so the overlong versions are exactly those that cannot be compared; and what an
engine can do follows from every version but an overlong one that is not of the fork.
-/

namespace EngineGateway

namespace Version

/-- Somewhere in the pre-release text there are more digits in a row than a number may have. -/
def Overlong (version : Version) : Prop :=
  ∃ pre, version.preRelease = some pre ∧ ∃ row, IsDigitRun row ∧ row <:+: preReleaseChars pre ∧
    Decimal.digitLimit < row.length

/-! ### Runs and the rows that lie in a text -/

section

variable {kind : CharKind} {row run cs : List Char}

/-- A character makes the first run behind it longer, or is a run of its own. -/
theorem runs_cons_cases (c : Char) (rest : List Char) :
    (∃ run more, runs rest = (charKind c, run) :: more ∧
      runs (c :: rest) = (charKind c, c :: run) :: more) ∨
    runs (c :: rest) = (charKind c, [c]) :: runs rest := by
  cases cut : runs rest with
  | nil =>
    right
    rw [runs, cut]
  | cons first more =>
    obtain ⟨kind, run⟩ := first
    by_cases same : charKind c = kind
    · left
      subst same
      refine ⟨run, more, rfl, ?_⟩
      rw [runs, cut]
      exact if_pos rfl
    · right
      rw [runs, cut]
      exact if_neg same

/-- The runs one after the other are the text. -/
theorem flatten_runs (cs : List Char) : ((runs cs).map Prod.snd).flatten = cs := by
  induction cs with
  | nil => rfl
  | cons c rest inductionHypothesis =>
    obtain ⟨run, more, before, cut⟩ | cut := runs_cons_cases c rest
    · rw [before] at inductionHypothesis
      rw [cut]
      exact congrArg (List.cons c) inductionHypothesis
    · rw [cut]
      exact congrArg (List.cons c) inductionHypothesis

/-- A run lies in the text. -/
theorem infix_of_mem_runs (member : (kind, run) ∈ runs cs) : run <:+: cs := by
  have inside : run <:+: ((runs cs).map Prod.snd).flatten :=
    List.infix_of_mem_flatten (List.mem_map_of_mem (f := Prod.snd) member)
  rwa [flatten_runs] at inside

/-- All characters of a run are of its kind. -/
theorem charKind_of_mem_runs (member : (kind, run) ∈ runs cs) : ∀ c ∈ run, charKind c = kind := by
  induction cs generalizing kind run with
  | nil => cases member
  | cons c rest inductionHypothesis =>
    obtain ⟨first, more, before, cut⟩ | cut := runs_cons_cases c rest <;>
      rw [cut] at member <;> obtain here | later := List.mem_cons.1 member
    · obtain ⟨rfl, rfl⟩ := Prod.mk.inj here
      exact List.forall_mem_cons.2 ⟨rfl, inductionHypothesis (before ▸ List.mem_cons_self)⟩
    · exact inductionHypothesis (before ▸ List.mem_cons_of_mem _ later)
    · obtain ⟨rfl, rfl⟩ := Prod.mk.inj here
      exact List.forall_mem_singleton.2 rfl
    · exact inductionHypothesis later

/-- A row of one kind at the front of a text is the beginning of the first run. -/
theorem exists_runs_of_prefix (some : row ≠ []) (same : ∀ c ∈ row, charKind c = kind)
    (front : row <+: cs) : ∃ run more, runs cs = (kind, run) :: more ∧ row <+: run := by
  induction row generalizing cs with
  | nil => exact absurd rfl some
  | cons c row inductionHypothesis =>
    obtain ⟨rest, rfl⟩ := front
    obtain ⟨rfl, others⟩ := List.forall_mem_cons.1 same
    cases row with
    | nil =>
      obtain ⟨run, more, -, cut⟩ | cut := runs_cons_cases c rest
      · exact ⟨c :: run, more, cut, ⟨run, rfl⟩⟩
      · exact ⟨[c], runs rest, cut, List.prefix_refl [c]⟩
    | cons d row =>
      obtain ⟨run, more, cut, begins⟩ :=
        inductionHypothesis (List.cons_ne_nil d row) others ⟨rest, rfl⟩
      refine ⟨c :: run, more, ?_, (List.prefix_cons_inj c).2 begins⟩
      rw [List.cons_append, runs, cut]
      exact if_pos rfl

/-- A row of one kind that lies in a text lies in one of the runs of this kind. -/
theorem exists_run_of_infix (some : row ≠ []) (same : ∀ c ∈ row, charKind c = kind)
    (inside : row <:+: cs) : ∃ run, (kind, run) ∈ runs cs ∧ row <:+: run := by
  induction cs with
  | nil => exact absurd (List.infix_nil.1 inside) some
  | cons c rest inductionHypothesis =>
    obtain front | later := List.infix_cons_iff.1 inside
    · obtain ⟨run, more, cut, begins⟩ := exists_runs_of_prefix some same front
      exact ⟨run, cut ▸ List.mem_cons_self, begins.isInfix⟩
    · obtain ⟨run, member, held⟩ := inductionHypothesis later
      obtain ⟨first, more, before, cut⟩ | cut := runs_cons_cases c rest <;> rw [cut]
      · rw [before] at member
        -- the first run of the rest may be the one that holds the row, and `c` makes it longer
        obtain here | further := List.mem_cons.1 member
        · obtain ⟨rfl, rfl⟩ := Prod.mk.inj here
          exact ⟨c :: run, List.mem_cons_self, List.infix_cons held⟩
        · exact ⟨run, List.mem_cons_of_mem _ further, held⟩
      · exact ⟨run, List.mem_cons_of_mem _ member, held⟩

/-- A character is of the kind of the digits if it is a digit. -/
theorem charKind_eq_digit_iff {c : Char} : charKind c = .digit ↔ Text.isDigit c = true := by
  have apart : CharKind.separator ≠ .digit ∧ CharKind.letter ≠ .digit := by decide
  rw [charKind]
  split
  next digit => exact iff_of_true rfl digit
  next other =>
    split
    · exact iff_of_false apart.2 other
    · exact iff_of_false apart.1 other

end

/-! ### What can be compared -/

section

variable {v : Version}

/-- The versions that can be compared are those that are not overlong. -/
theorem countable_iff_not_overlong : v.Countable ↔ ¬v.Overlong := by
  constructor
  · rintro countable ⟨pre, written, row, ⟨some, digits⟩, inside, long⟩
    have numeric : ∀ c ∈ row, charKind c = .digit :=
      fun c member => charKind_eq_digit_iff.2 (digits c member)
    obtain ⟨run, member, held⟩ := exists_run_of_infix some numeric inside
    have short : run.length ≤ Decimal.digitLimit := countable pre written run member
    have within : row.length ≤ run.length := held.length_le
    omega
  · intro fits pre written run member
    by_contra long
    have exceeds : Decimal.digitLimit < run.length := Nat.lt_of_not_le long
    have some : run ≠ [] := List.ne_nil_of_length_pos (Nat.zero_lt_of_lt exceeds)
    have numeric : IsDigitRun run :=
      ⟨some, fun c within => charKind_eq_digit_iff.1 (charKind_of_mem_runs member c within)⟩
    exact fits ⟨pre, written, run, numeric, infix_of_mem_runs member, exceeds⟩

/-- Runs of which one has more digits than a number may have are refused. -/
theorem identifiersOfRuns_refuses {rows : List (CharKind × List Char)} {run : List Char}
    (member : (CharKind.digit, run) ∈ rows) (long : Decimal.digitLimit < run.length) :
    ∃ digits, Decimal.digitLimit < digits ∧ identifiersOfRuns rows = .error (.tooLong digits) := by
  induction rows with
  | nil => cases member
  | cons row rest inductionHypothesis =>
    obtain ⟨kind, first⟩ := row
    by_cases here : (CharKind.digit, run) = (kind, first)
    · obtain ⟨rfl, rfl⟩ := Prod.mk.inj here
      refine ⟨run.length, long, ?_⟩
      rw [identifiersOfRuns, number_of_long long]
      rfl
    · obtain ⟨digits, exceeds, refused⟩ :=
        inductionHypothesis ((List.mem_cons.1 member).resolve_left here)
      cases kind with
      | separator => exact ⟨digits, exceeds, refused⟩
      | letter =>
        refine ⟨digits, exceeds, ?_⟩
        rw [identifiersOfRuns, refused]
        rfl
      | digit =>
        -- the first run of digits that is too long is the one that is complained about
        by_cases short : first.length ≤ Decimal.digitLimit
        · refine ⟨digits, exceeds, ?_⟩
          rw [identifiersOfRuns, number_of_short short, refused]
          rfl
        · have alsoLong : Decimal.digitLimit < first.length := Nat.lt_of_not_le short
          refine ⟨first.length, alsoLong, ?_⟩
          rw [identifiersOfRuns, number_of_long alsoLong]
          rfl

/-- An overlong version has no place in the order. -/
theorem Overlong.precedence_eq (overlong : v.Overlong) :
    ∃ digits, Decimal.digitLimit < digits ∧ v.precedence = .error (.tooLong digits) := by
  obtain ⟨pre, written, row, ⟨some, numeric⟩, inside, long⟩ := overlong
  obtain ⟨run, member, held⟩ := exists_run_of_infix some
    (fun c member => charKind_eq_digit_iff.2 (numeric c member)) inside
  obtain ⟨digits, exceeds, refused⟩ :=
    identifiersOfRuns_refuses member (Nat.lt_of_lt_of_le long held.length_le)
  refine ⟨digits, exceeds, ?_⟩
  simp only [precedence, written, identifiers, refused]
  rfl

end

end Version

namespace Capabilities

variable {v : Version}

/-- It does not follow what an engine can do from an overlong version, unless it is of the fork. -/
theorem ofVersion_of_overlong (numbered : v.distribution ≠ forkDistribution)
    (overlong : v.Overlong) :
    ∃ digits, Decimal.digitLimit < digits ∧ ofVersion v = .error (.tooLong digits) := by
  obtain ⟨digits, exceeds, placeless⟩ := overlong.precedence_eq
  refine ⟨digits, exceeds, ?_⟩
  rw [ofVersion, if_neg numbered, Version.isAtLeast, Version.compare, placeless]
  rfl

/-- It follows from every other version. -/
theorem ofVersion_eq_ok_iff :
    (∃ able, ofVersion v = .ok able) ↔ v.distribution = forkDistribution ∨ ¬v.Overlong := by
  constructor
  · rintro ⟨able, follows⟩
    by_contra neither
    obtain ⟨numbered, overlong⟩ := not_or.1 neither
    obtain ⟨digits, -, refused⟩ := ofVersion_of_overlong numbered (not_not.1 overlong)
    rw [refused] at follows
    cases follows
  · rintro (fork | fits)
    · exact ⟨latest, ofVersion_of_fork fork⟩
    · exact ofVersion_of_countable (Version.countable_iff_not_overlong.2 fits)

end Capabilities

end EngineGateway
