import EngineGateway.Proofs.Session.ExactTime

/-!
# A wait keeps its deadline

In exact time a wait for the health of an index sleeps only before its deadline and never beyond it,
and lets the engine hold each question back for no longer than is left, up to a millisecond. What
carries the argument along the row of looks is that the last look begins before the deadline, unless
it is the first.
-/

namespace EngineGateway

open Session

variable {α : Type}

/-- The milliseconds that a look asks for at a time before the deadline: one at least, and otherwise
no more than is left and no more than the longest interval. -/
def Look.AsksWithin (session : Session α ℚ) (name : Name) (deadline : ℚ) (look : Look α ℚ) : Prop :=
  ∃ milliseconds : Int, look.Asks session name milliseconds ∧ 1 ≤ milliseconds ∧
    (milliseconds : ℚ) / 1000 ≤
      max (1 / 1000) (min session.pacing.longest (deadline - look.before.now))

/-- A look that took no longer than it let the engine hold the question back. -/
def Look.Timely (session : Session α ℚ) (name : Name) (look : Look α ℚ) : Prop :=
  ∀ milliseconds : Int, look.Asks session name milliseconds →
    look.after.now - look.before.now ≤ (milliseconds : ℚ) / 1000

section

variable {session : Session α ℚ} {name : Name} {deadline first : ℚ} {c : Conversation α ℚ}
  {rounds : List (Round α ℚ)} {last look : Look α ℚ} {round : Round α ℚ}

/-- From positive settings on all intervals are positive. -/
theorem Paced.interval_pos (longestPositive : 0 < session.pacing.longest) {interval : ℚ}
    (positive : 0 < interval) (paced : Paced session interval rounds) :
    ∀ round ∈ rounds, 0 < round.interval := by
  induction rounds generalizing interval with
  | nil => exact fun _ absent => absurd absent List.not_mem_nil
  | cons head tail inductionHypothesis =>
    obtain ⟨begun, later⟩ := paced
    have nextPositive : 0 < nextInterval session.pacing.longest interval := by
      rw [nextInterval_eq]
      exact lt_min (add_pos positive positive) longestPositive
    intro round member
    obtain rfl | follows := List.mem_cons.1 member
    · rw [begun]
      exact positive
    · exact inductionHypothesis nextPositive later round follows

/-- A sleep has a length, and ends before the deadline or with it. -/
theorem Round.Decided.pause_bounds (decided : round.Decided session deadline)
    (positive : 0 < round.interval) :
    0 < round.pause ∧ round.look.after.now + round.pause ≤ deadline := by
  obtain ⟨early, clipped⟩ := verdict_eq_rest.1 decided.verdict
  constructor
  · rw [clipped]
    exact lt_min positive (sub_pos.2 early)
  · have left : round.pause ≤ deadline - round.look.after.now := by
      rw [clipped]
      exact min_le_right _ _
    linarith

/-- A question that is held back as it should be is held back within the time that is left. -/
theorem Look.Aimed.asks (aimed : look.Aimed session deadline) (looked : Looked session name look)
    (longestPositive : 0 < session.pacing.longest) :
    look.AsksWithin session name deadline ∨
      look.outcome = .error .durationTooLong ∧ look.after = look.before := by
  have held : look.hold = min (max (deadline - look.before.now) 0) session.pacing.longest :=
    aimed.trans (holdUntil_eq _ _ _)
  have nonnegative : 0 ≤ look.hold := by
    rw [held]
    exact le_min (le_max_right _ _) longestPositive.le
  have counted : Seconds.milliseconds look.hold = .ok (Seconds.wholePart (look.hold * 1000)) := rfl
  obtain asked | unasked := looked.asks counted
  · refine Or.inl ⟨max (Seconds.wholePart (look.hold * 1000)) 1, asked, le_max_right _ _, ?_⟩
    by_cases short : Seconds.wholePart (look.hold * 1000) ≤ 1
    · rw [max_eq_right short]
      exact le_max_of_le_left (by norm_num)
    · -- more than a millisecond is asked for, so the deadline is still to come
      have rounded : (Seconds.wholePart (look.hold * 1000) : ℚ) ≤ look.hold * 1000 :=
        Seconds.wholePart_le (by positivity)
      have whole : (1 : ℚ) < Seconds.wholePart (look.hold * 1000) := by
        exact_mod_cast not_le.1 short
      have ahead : 0 < look.hold := by linarith
      have left : look.hold ≤ min session.pacing.longest (deadline - look.before.now) := by
        rw [held] at ahead ⊢
        obtain passed | remaining := le_total (deadline - look.before.now) 0
        · rw [max_eq_right passed] at ahead
          exact absurd (lt_of_lt_of_le ahead (min_le_left _ _)) (lt_irrefl 0)
        · rw [max_eq_left remaining, min_comm]
      rw [max_eq_left (not_le.1 short).le]
      apply le_max_of_le_right
      apply le_trans _ left
      linarith
  · exact Or.inr unasked

/-- Time does not run backwards during a row of looks, if answers take no negative time. -/
theorem Polled.onward (polled : Polled session name c rounds last)
    (honest : session.backend.Honest) (delayed : ∀ next ∈ c.pending, 0 ≤ next.delay) :
    ∀ look ∈ polls rounds last, look.before.now ≤ look.after.now := by
  intro look member
  obtain still | ⟨next, awaited, moved⟩ := (polled.looked honest look member).now
  · exact still.ge
  · have later : 0 ≤ next.delay :=
      delayed next ((polled.pending_suffix honest look member).subset awaited)
    have added : look.after.now = look.before.now + next.delay := moved
    linarith

/-- All sleeps of a row lie before its last look. -/
theorem Polled.sum_pauses_le (polled : Polled session name c rounds last)
    (onward : ∀ look ∈ polls rounds last, look.before.now ≤ look.after.now) :
    c.now + (rounds.map Round.pause).sum ≤ last.before.now := by
  induction polled with
  | last hold c => exact (add_zero c.now).le
  | round hold interval pause entry c rest inductionHypothesis =>
    have looked : c.now ≤ (session.look name hold c).after.now := onward _ List.mem_cons_self
    have rested := inductionHypothesis fun look member =>
      onward look (List.mem_cons_of_mem _ member)
    have slept : ((session.look name hold c).rested entry pause).now =
        (session.look name hold c).after.now + pause := rfl
    rw [slept] at rested
    rw [List.map_cons, List.sum_cons]
    linarith

/-- The last look of a row begins before the deadline, unless it is the first. -/
theorem Polled.last_begins_by (polled : Polled session name c rounds last)
    (ends : ∀ round ∈ rounds, round.look.after.now + round.pause ≤ deadline) :
    last.before.now ≤ max c.now deadline := by
  obtain ⟨-, begun⟩ | ⟨round, member, entry, begun⟩ := polled.last_begins
  · rw [begun]
    exact le_max_left _ _
  · rw [begun]
    exact le_max_of_le_right (ends round member)

/-- A look that is held back within the time that is left, and takes no longer, ends with the
deadline or a millisecond after it began. -/
theorem Look.AsksWithin.ends (asks : look.AsksWithin session name deadline)
    (timely : look.Timely session name) :
    look.after.now ≤ max (look.before.now + 1 / 1000) deadline := by
  obtain ⟨milliseconds, asked, -, bounded⟩ := asks
  have took := timely milliseconds asked
  obtain shortest | left := le_max_iff.1 bounded
  · apply le_max_of_le_left
    linarith
  · apply le_max_of_le_right
    have remaining := left.trans (min_le_right _ _)
    linarith

end

/-- What it is for a wait with a limit to keep its deadline, by the row of its looks. -/
structure DeadlineKept (session : Session α ℚ) (name : Name) (limit : ℚ)
    (c ending : Conversation α ℚ) (rounds : List (Round α ℚ)) (last : Look α ℚ) : Prop where
  /-- The wait is a row of looks with sleeps between them, and nothing else. -/
  polled : Polled session name c rounds last
  quiet : ∃ log, ending = { last.after with log := log }
  sleeps : ending.sleeps = c.sleeps ++ rounds.map Round.pause
  /-- Every sleep has a length, and ends before the deadline or with it. -/
  slept : ∀ round ∈ rounds,
    0 < round.pause ∧ round.look.after.now + round.pause ≤ c.now + limit
  /-- All sleeps together last no longer than the limit. -/
  rested : (rounds.map Round.pause).sum ≤ max limit 0
  /-- Every question is held back within the time that is left. A time that is too long to be
  written is not asked for. -/
  asked : ∀ look ∈ polls rounds last, look.AsksWithin session name (c.now + limit) ∨
    look.outcome = .error .durationTooLong ∧ look.after = look.before
  /-- If no question takes longer than that, the wait ends a millisecond after its limit at the
  latest. -/
  ends : (∀ look ∈ polls rounds last, look.Timely session name) →
    ending.now ≤ c.now + max limit 0 + 1 / 1000

section

variable {session : Session α ℚ} {name : Name} {span : Span ℚ} {limit : ℚ}
  {c : Conversation α ℚ} {result : Except Failure IndexDescriptor × Conversation α ℚ}
  {rounds : List (Round α ℚ)} {last : Look α ℚ}

/-- Every sleep of a wait has a length, and ends before the deadline or with it. -/
theorem Waited.slept
    (waited : Waited session name span (c.now + limit) session.pacing.first c result rounds last)
    (firstPositive : 0 < session.pacing.first) (longestPositive : 0 < session.pacing.longest) :
    ∀ round ∈ rounds, 0 < round.pause ∧ round.look.after.now + round.pause ≤ c.now + limit := by
  intro round member
  have positive := waited.paced.interval_pos longestPositive firstPositive round member
  exact (waited.decided round member).pause_bounds positive

/-- The last look of a wait begins within the limit, or at once. -/
theorem Waited.last_begins_by
    (waited : Waited session name span (c.now + limit) session.pacing.first c result rounds last)
    (firstPositive : 0 < session.pacing.first) (longestPositive : 0 < session.pacing.longest) :
    last.before.now ≤ c.now + max limit 0 := by
  have ends := waited.slept firstPositive longestPositive
  have bounded := waited.polled.last_begins_by fun round member => (ends round member).2
  rw [← max_add_add_left, add_zero, max_comm]
  exact bounded

/-- A last look that takes no longer than it may ends at most a millisecond after the limit. -/
theorem Waited.last_ends_by
    (waited : Waited session name span (c.now + limit) session.pacing.first c result rounds last)
    (firstPositive : 0 < session.pacing.first) (longestPositive : 0 < session.pacing.longest)
    (asked : last.AsksWithin session name (c.now + limit) ∨
      last.outcome = .error .durationTooLong ∧ last.after = last.before)
    (timely : last.Timely session name) :
    last.after.now ≤ c.now + max limit 0 + 1 / 1000 := by
  have begun := waited.last_begins_by firstPositive longestPositive
  obtain asks | ⟨-, still⟩ := asked
  · obtain shortly | late := le_max_iff.1 (asks.ends timely)
    · linarith
    · have limited := le_max_left limit 0
      linarith
  · rw [still]
    linarith

end

/-- Every wait over an honest backend keeps its deadline: whatever the limit, with positive
intervals, whatever is answered and however long that takes. -/
theorem wait_keeps_its_deadline (session : Session α ℚ) (honest : session.backend.Honest)
    (firstPositive : 0 < session.pacing.first) (longestPositive : 0 < session.pacing.longest)
    (name : Name) {timeout : Option (Span ℚ)} {limit : ℚ}
    (timed : (timeout.getD (.measured session.pacing.limit)).time = .ok limit)
    (c : Conversation α ℚ) (delayed : ∀ next ∈ c.pending, 0 ≤ next.delay) :
    ∃ rounds last, DeadlineKept session name limit c
      ((waitForHealthyIndex session name timeout).run.run c).2 rounds last := by
  obtain ⟨rounds, last, waited⟩ := honest.waited timed name c
  obtain ⟨log, quiet⟩ := waited.quiet
  have asked : ∀ look ∈ polls rounds last, look.AsksWithin session name (c.now + limit) ∨
      look.outcome = .error .durationTooLong ∧ look.after = look.before := by
    intro look member
    have looked := waited.polled.looked honest look member
    exact (waited.aimed_of_mem look member).asks looked longestPositive
  refine ⟨rounds, last, {
    polled := waited.polled
    quiet := ⟨log, quiet⟩
    sleeps := ?_
    slept := waited.slept firstPositive longestPositive
    rested := ?_
    asked := asked
    ends := ?_ }⟩
  · rw [quiet]
    exact waited.polled.sleeps honest
  · have before := waited.polled.sum_pauses_le (waited.polled.onward honest delayed)
    have begun := waited.last_begins_by firstPositive longestPositive
    linarith
  · intro timely
    have final : last ∈ polls rounds last := List.mem_append_right _ List.mem_cons_self
    rw [quiet]
    exact waited.last_ends_by firstPositive longestPositive (asked last final) (timely last final)

/-- A wait for an engine that calls the index first red and then green keeps its deadline. -/
theorem red_then_green_keeps_its_deadline :
    let session := unhurried (Client.Elasticsearch.backend Client.Elasticsearch.errorKinds)
    (0 < session.pacing.first ∧ 0 < session.pacing.longest ∧
      ∀ next ∈ redThenGreen.pending, 0 ≤ next.delay) ∧
    ∃ rounds last, DeadlineKept session (.str "pages") (1 / 2) redThenGreen
      ((waitForHealthyIndex session (.str "pages") (some (.measured (1 / 2)))).run.run
        redThenGreen).2 rounds last := by
  intro session
  have first : 0 < session.pacing.first := show (0 : ℚ) < 1 / 10 by norm_num
  have longest : 0 < session.pacing.longest := show (0 : ℚ) < 2 by norm_num
  have delayed : ∀ next ∈ redThenGreen.pending, 0 ≤ next.delay := by
    simp [redThenGreen, Conversation.start]
  exact ⟨⟨first, longest, delayed⟩, wait_keeps_its_deadline session
    (Client.Elasticsearch.backend_honest _) first longest (.str "pages") rfl redThenGreen delayed⟩

end EngineGateway
