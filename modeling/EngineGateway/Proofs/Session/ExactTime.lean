import EngineGateway.Proofs.Session.Polling
import Mathlib.Data.Rat.Floor
import Mathlib.Tactic.Linarith

/-!
# Exact time

Time as a rational number of seconds. Sums and differences are exact, so the rules by which a wait
holds its questions back, sleeps and gives up are laws of arithmetic: each choice between two times
is a minimum or a maximum.
-/

namespace EngineGateway

namespace Seconds

/-- An exact number, rounded toward zero. -/
def wholePart (x : ℚ) : Int := if 0 ≤ x then ⌊x⌋ else ⌈x⌉

/-- The text of an exact time with two places; an exact half goes to the even neighbour. -/
def exactHundredths (x : ℚ) : String :=
  let hundreds := |x| * 100
  let whole := hundreds.floor.toNat
  let rest := hundreds - whole
  let rounded := if rest < 1 / 2 || (rest == 1 / 2 && whole % 2 == 0) then whole else whole + 1
  (if x < 0 then "-" else "") ++ toString (rounded / 100) ++ "." ++
    Decimal.padded 2 (rounded % 100)

instance : Seconds ℚ where
  zero := 0
  add := (· + ·)
  sub := (· - ·)
  before a b := a < b
  notAfter a b := a ≤ b
  ofWhole i := .ok i
  milliseconds x := .ok (wholePart (x * 1000))
  text := toString
  hundredths := exactHundredths

/-- The later of two times is the greater. -/
theorem later_eq_max (a b : ℚ) : later a b = max a b := by
  by_cases less : a < b
  · rw [max_eq_right less.le]
    exact if_pos (decide_eq_true less)
  · rw [max_eq_left (not_lt.1 less)]
    exact if_neg fun before => less (of_decide_eq_true before)

/-- The earlier of two times is the smaller. -/
theorem earlier_eq_min (a b : ℚ) : earlier a b = min a b := by
  by_cases less : b < a
  · rw [min_eq_right less.le]
    exact if_pos (decide_eq_true less)
  · rw [min_eq_left (not_lt.1 less)]
    exact if_neg fun before => less (of_decide_eq_true before)

/-- Rounding toward zero does not enlarge a time that is not negative. -/
theorem wholePart_le {x : ℚ} (nonnegative : 0 ≤ x) : (wholePart x : ℚ) ≤ x := by
  rw [wholePart, if_pos nonnegative]
  exact Int.floor_le x

end Seconds

namespace Session

variable {deadline interval longest now pause : ℚ}

/-- A question is held back until the deadline, but no longer than the longest interval. -/
theorem holdUntil_eq (deadline longest now : ℚ) :
    holdUntil deadline longest now = min (max (deadline - now) 0) longest := by
  rw [holdUntil, Seconds.earlier_eq_min, Seconds.later_eq_max]
  rfl

/-- An interval is doubled up to the longest. -/
theorem nextInterval_eq (longest interval : ℚ) :
    nextInterval longest interval = min (interval + interval) longest := by
  rw [nextInterval, Seconds.earlier_eq_min]
  rfl

/-- A wait is over from the deadline on. -/
theorem verdict_of_le (late : deadline ≤ now) : verdict deadline interval now = .expired := by
  have spent : Seconds.notAfter (Seconds.sub deadline now) Seconds.zero = true :=
    decide_eq_true (sub_nonpos.2 late)
  simp only [verdict, spent, if_true]

/-- Before the deadline a session sleeps for the interval, but not past the deadline. -/
theorem verdict_of_lt (early : now < deadline) :
    verdict deadline interval now = .rest (min interval (deadline - now)) := by
  have left : Seconds.notAfter (Seconds.sub deadline now) Seconds.zero = false :=
    decide_eq_false (not_le.2 (sub_pos.2 early))
  simp only [verdict, left, Bool.false_eq_true, if_false, Seconds.earlier_eq_min]
  rfl

/-- A wait is over exactly from the deadline on. -/
theorem verdict_eq_expired : verdict deadline interval now = .expired ↔ deadline ≤ now := by
  constructor
  · intro expired
    by_contra early
    rw [verdict_of_lt (not_le.1 early)] at expired
    cases expired
  · exact verdict_of_le

/-- A session sleeps exactly before the deadline. -/
theorem verdict_eq_rest : verdict deadline interval now = .rest pause ↔
    now < deadline ∧ pause = min interval (deadline - now) := by
  constructor
  · intro rests
    by_cases early : now < deadline
    · rw [verdict_of_lt early] at rests
      cases rests
      exact ⟨early, rfl⟩
    · rw [verdict_of_le (not_lt.1 early)] at rests
      cases rests
  · rintro ⟨early, rfl⟩
    exact verdict_of_lt early

end Session

/-- Writing an exact time can only fail for its length. -/
theorem Span.holdText_failsOnly (hold : ℚ) :
    FailsOnly Failure.Prompt (Span.measured hold).holdText := by
  have held : (Span.measured hold).holdText =
      Span.millisecondsText (max (Seconds.wholePart (hold * 1000)) 1) :=
    Span.holdText_eq rfl
  rw [held]
  obtain short | long := Span.millisecondsText_cases (max (Seconds.wholePart (hold * 1000)) 1)
  · rw [short]
    exact FailsOnly.ok _
  · rw [long]
    exact FailsOnly.error rfl

/-! ### Two answers in exact time -/

/-- A session that waits for a second if it is not told how long. -/
def unhurried {α : Type} (backend : Backend α) : Session α ℚ where
  backend
  pacing := ⟨1, 1 / 10, 2⟩
  legacyDocumentType := "doc"
  ownsBackend := true

/-- An engine that calls an index first red and then green. -/
def redThenGreen : Conversation Client.Answer ℚ :=
  .start [⟨.value (.obj [("status", .str "red")]), 1 / 20⟩,
    ⟨.value (.obj [("status", .str "green")]), 1 / 20⟩] 0

end EngineGateway
