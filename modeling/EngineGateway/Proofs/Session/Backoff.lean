import EngineGateway.Proofs.Session.ExactTime

/-!
# How long a wait sleeps

In exact time the lengths of the sleeps of a wait follow from its pacing, up to the one that is cut
short at the deadline. The intervals are doubled from the first one on and held at the longest. But
the first one itself is taken as it is, so a pacing whose first interval is longer than its longest
sleeps too long once.
-/

namespace EngineGateway

open Session

variable {α : Type}

namespace Pacing

/-- The first interval after some doublings, held at the longest. -/
def backoff (pacing : Pacing ℚ) (doublings : Nat) : ℚ :=
  min (pacing.first * 2 ^ doublings) pacing.longest

/-- The interval before a sleep. Nothing holds the one before the first sleep at the longest. -/
def interval (pacing : Pacing ℚ) : Nat → ℚ
  | 0 => pacing.first
  | k + 1 => pacing.backoff (k + 1)

variable {pacing : Pacing ℚ}

/-- All intervals but the first are held at the longest. -/
theorem interval_of_ne_zero {k : Nat} (later : k ≠ 0) : pacing.interval k = pacing.backoff k := by
  cases k with
  | zero => exact absurd rfl later
  | succ k => rfl

/-- To double and hold at the longest is to double what was not held yet, and hold that. -/
theorem min_doubled {x longest : ℚ} (positive : 0 < longest) :
    min (min x longest + min x longest) longest = min (x + x) longest := by
  obtain shorter | longer := le_total x longest
  · rw [min_eq_left shorter]
  · rw [min_eq_right longer, min_eq_right, min_eq_right] <;> linarith

/-- Each interval leads to the next. -/
theorem nextInterval_interval (positive : 0 < pacing.longest) (k : Nat) :
    nextInterval pacing.longest (pacing.interval k) = pacing.interval (k + 1) := by
  rw [nextInterval_eq]
  cases k with
  | zero =>
    change min (pacing.first + pacing.first) _ = min (pacing.first * 2 ^ 1) _
    rw [pow_one, mul_two]
  | succ k =>
    change min (min _ _ + min _ _) _ = min (pacing.first * 2 ^ (k + 2)) _
    rw [min_doubled positive, pow_succ 2 (k + 1), ← mul_assoc, mul_two]

/-- No interval is shorter than both settings. -/
theorem shortest_le_interval (positive : 0 < pacing.first) (k : Nat) :
    min pacing.first pacing.longest ≤ pacing.interval k := by
  cases k with
  | zero => exact min_le_left _ _
  | succ k =>
    have grown : pacing.first ≤ pacing.first * 2 ^ (k + 1) :=
      le_mul_of_one_le_right positive.le (one_le_pow₀ one_le_two)
    exact min_le_min_right _ grown

/-- The interval before a sleep is the one that it should be, up to a bound, unless it is the first
and too long and the bound is so too. -/
theorem min_interval_eq_iff (k : Nat) (bound : ℚ) :
    min (pacing.interval k) bound = min (pacing.backoff k) bound ↔
      k ≠ 0 ∨ pacing.first ≤ pacing.longest ∨ bound ≤ pacing.longest := by
  by_cases later : k = 0
  · subst later
    have undoubled : pacing.backoff 0 = min pacing.first pacing.longest := by
      rw [backoff, pow_zero, mul_one]
    rw [undoubled]
    change min pacing.first bound = _ ↔ _
    constructor
    · intro same
      by_contra other
      simp only [ne_eq, not_true_eq_false, false_or, not_or, not_le] at other
      have above : pacing.longest < min pacing.first bound := lt_min other.1 other.2
      have below : min pacing.first bound ≤ pacing.longest := by
        rw [same]
        exact (min_le_left _ _).trans (min_le_right _ _)
      exact absurd above (not_lt.2 below)
    · rintro (nonzero | short | near)
      · exact absurd rfl nonzero
      · rw [min_eq_left short]
      · rw [min_assoc, min_eq_right near]
  · simp only [interval_of_ne_zero later, ne_eq, later, not_false_eq_true, true_or]

/-- What is longer than the longest interval is the first one. -/
theorem longest_lt_interval_iff (k : Nat) :
    pacing.longest < pacing.interval k ↔ k = 0 ∧ pacing.longest < pacing.first := by
  cases k with
  | zero => exact ⟨fun above => ⟨rfl, above⟩, fun both => both.2⟩
  | succ k =>
    constructor
    · intro above
      exact absurd above (not_lt.2 (min_le_right _ _))
    · rintro ⟨zero, -⟩
      exact absurd zero (Nat.succ_ne_zero k)

end Pacing

section

variable {session : Session α ℚ} {rounds : List (Round α ℚ)} {round : Round α ℚ}

/-- The rounds that go on after some number of them have the intervals that follow. -/
theorem Paced.interval_eq (positive : 0 < session.pacing.longest) {begun : Nat}
    (paced : Paced session (session.pacing.interval begun) rounds) {k : Nat}
    (counted : rounds[k]? = some round) :
    round.interval = session.pacing.interval (begun + k) := by
  induction rounds generalizing begun k with
  | nil => simp at counted
  | cons head tail inductionHypothesis =>
    obtain ⟨first, later⟩ := paced
    rw [Pacing.nextInterval_interval positive] at later
    cases k with
    | zero =>
      rw [List.getElem?_cons_zero, Option.some.injEq] at counted
      rw [← counted, first, Nat.add_zero]
    | succ k =>
      rw [List.getElem?_cons_succ] at counted
      rw [inductionHypothesis later counted, Nat.add_right_comm, Nat.add_assoc]

end

/-- What it is for the sleeps of a wait with a limit to grow as its pacing says. -/
structure BacksOff (session : Session α ℚ) (name : Name) (limit : ℚ)
    (c ending : Conversation α ℚ) (rounds : List (Round α ℚ)) (last : Look α ℚ) : Prop where
  /-- The wait is a row of looks, and its sleeps are the pauses between them. -/
  polled : Polled session name c rounds last
  quiet : ∃ log, ending = { last.after with log := log }
  sleeps : ending.sleeps = c.sleeps ++ rounds.map Round.pause
  /-- Every sleep lasts for its interval, but not past the deadline. -/
  slept : ∀ k round, rounds[k]? = some round → round.pause =
    min (session.pacing.interval k) (c.now + limit - round.look.after.now)
  /-- It lasts for the first interval, doubled so often and held at the longest, exactly if it is
  not the first sleep, or the first interval is not too long, or the deadline is near enough. -/
  lawful : ∀ k round, rounds[k]? = some round → (round.pause =
    min (session.pacing.backoff k) (c.now + limit - round.look.after.now) ↔
      k ≠ 0 ∨ session.pacing.first ≤ session.pacing.longest ∨
        c.now + limit - round.look.after.now ≤ session.pacing.longest)
  /-- It is longer than the longest interval exactly if it is the first sleep, and the first
  interval and what is left before the deadline are both longer. -/
  exceeds : ∀ k round, rounds[k]? = some round → (session.pacing.longest < round.pause ↔
    k = 0 ∧ session.pacing.longest < session.pacing.first ∧
      session.pacing.longest < c.now + limit - round.look.after.now)

/-- The sleeps of every wait over an honest backend grow as its pacing says: whatever the limit and
the first interval, whatever is answered and however long that takes. Only the first sleep may be
longer than the longest interval, and is so exactly if the first interval is too long and the
deadline far enough. -/
theorem sleeps_back_off_but_for_a_long_first (session : Session α ℚ)
    (honest : session.backend.Honest) (longestPositive : 0 < session.pacing.longest) (name : Name)
    {timeout : Option (Span ℚ)} {limit : ℚ}
    (timed : (timeout.getD (.measured session.pacing.limit)).time = .ok limit)
    (c : Conversation α ℚ) :
    ∃ rounds last, BacksOff session name limit c
      ((waitForHealthyIndex session name timeout).run.run c).2 rounds last := by
  obtain ⟨rounds, last, waited⟩ := honest.waited timed name c
  obtain ⟨log, quiet⟩ := waited.quiet
  have slept : ∀ k round, rounds[k]? = some round → round.pause =
      min (session.pacing.interval k) (c.now + limit - round.look.after.now) := by
    intro k round counted
    have decided := waited.decided round (List.mem_of_getElem? counted)
    have paced : Paced session (session.pacing.interval 0) rounds := waited.paced
    have interval : round.interval = session.pacing.interval (0 + k) :=
      paced.interval_eq longestPositive counted
    rw [(verdict_eq_rest.1 decided.verdict).2, interval, Nat.zero_add]
    rfl
  refine ⟨rounds, last, {
    polled := waited.polled
    quiet := ⟨log, quiet⟩
    sleeps := ?_
    slept := slept
    lawful := ?_
    exceeds := ?_ }⟩
  · rw [quiet]
    exact waited.polled.sleeps honest
  · intro k round counted
    rw [slept k round counted]
    exact Pacing.min_interval_eq_iff k _
  · intro k round counted
    rw [slept k round counted, lt_min_iff, Pacing.longest_lt_interval_iff, and_assoc]

/-- A session whose first interval is longer than its longest. -/
def overeager {α : Type} (backend : Backend α) : Session α ℚ :=
  { unhurried backend with pacing := ⟨10, 5, 1⟩ }

/-- It sleeps for longer than the longest interval. -/
theorem first_sleep_exceeds_the_longest_interval :
    let session := overeager (Client.Elasticsearch.backend Client.Elasticsearch.errorKinds)
    let ending := ((waitForHealthyIndex session (.str "pages") none).run.run redThenGreen).2
    0 < session.pacing.longest ∧
      (∃ rounds last, BacksOff session (.str "pages") 10 redThenGreen ending rounds last) ∧
      ending.sleeps = [5] ∧ session.pacing.longest < 5 := by
  have timed : ((none : Option (Span ℚ)).getD (.measured (10 : ℚ))).time = .ok 10 := rfl
  refine ⟨by decide +kernel, ?_, by decide +kernel, by decide +kernel⟩
  exact sleeps_back_off_but_for_a_long_first
    (overeager (Client.Elasticsearch.backend Client.Elasticsearch.errorKinds))
    (Client.Elasticsearch.backend_honest _) (by decide +kernel) (.str "pages") timed redThenGreen

end EngineGateway
