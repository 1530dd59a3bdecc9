import EngineGateway.Proofs.Backend.Steady
import EngineGateway.Proofs.Session.Deadline
import EngineGateway.Proofs.Session.Outcome

/-!
# Waiting longer

In exact time a longer limit never turns success into failure. Where the shorter of two waits comes
to an index, or to trouble that an answer made, the longer one comes to the same after as many
looks. Their rows of looks go abreast: at every look the longer wait has as much time left at least.
The sleeps are the same up to one that the shorter wait cuts short, and behind that one it looks
only once more.
-/

namespace EngineGateway

open Session Talk

variable {α : Type}

/-! ### Times that can be written -/

/-- A number that no finite float reaches. -/
def Seconds.floatBound : Nat := 2 ^ 1024

/-- A power of two has fewer digits than the same power of ten, also a thousand times. -/
theorem two_pow_mul_thousand_lt {exponent digits : Nat} (shorter : exponent + 10 < digits) :
    2 ^ exponent * 1000 < Nat.pow 10 digits :=
  calc 2 ^ exponent * 1000
      ≤ 2 ^ exponent * 2 ^ 10 := Nat.mul_le_mul_left _ (by decide)
    _ = 2 ^ (exponent + 10) := (pow_add 2 exponent 10).symm
    _ ≤ 10 ^ (exponent + 10) := Nat.pow_le_pow_left (by decide) _
    _ < 10 ^ digits := Nat.pow_lt_pow_right (by decide) shorter

/-- Two is a float. -/
theorem Seconds.two_le_floatBound : 2 ≤ floatBound := le_self_pow (by decide) (by decide)

/-- In milliseconds no float has too many digits. -/
theorem Seconds.floatBound_lt : floatBound * 1000 < Nat.pow 10 Decimal.digitLimit := by
  unfold floatBound
  exact two_pow_mul_thousand_lt (by decide)

/-- Rounding toward zero does not lead above a bound that is not negative. -/
theorem Seconds.wholePart_le_of_le {x bound : ℚ} (below : x ≤ bound) (nonnegative : 0 ≤ bound) :
    (wholePart x : ℚ) ≤ bound := by
  by_cases positive : 0 ≤ x
  · exact (wholePart_le positive).trans below
  · have rounded : wholePart x ≤ 0 := by
      rw [wholePart, if_neg positive]
      exact Int.ceil_le.2 (by exact_mod_cast (not_le.1 positive).le)
    have cast : (wholePart x : ℚ) ≤ 0 := by exact_mod_cast rounded
    exact cast.trans nonnegative

/-- A time that a float can be can be written for an engine. -/
theorem Span.exists_holdText {hold : ℚ} (finite : hold ≤ Seconds.floatBound) :
    ∃ text, (Span.measured hold).holdText = .ok text ∧ Span.Written text := by
  have counted : (Span.measured hold).holdText =
      millisecondsText (max (Seconds.wholePart (hold * 1000)) 1) := Span.holdText_eq rfl
  have rounded : (Seconds.wholePart (hold * 1000) : ℚ) ≤ Seconds.floatBound * 1000 :=
    Seconds.wholePart_le_of_le (by linarith) (by positivity)
  have bounded : Seconds.wholePart (hold * 1000) ≤ (Seconds.floatBound * 1000 : Nat) := by
    exact_mod_cast rounded
  have some := Seconds.two_le_floatBound
  have small : (max (Seconds.wholePart (hold * 1000)) 1).natAbs <
      Nat.pow 10 Decimal.digitLimit := by
    have fits := Seconds.floatBound_lt
    omega
  have written : millisecondsText (max (Seconds.wholePart (hold * 1000)) 1) = .ok _ := if_pos small
  exact ⟨_, counted.trans written, _, le_max_of_le_right (by decide), written⟩

/-! ### Looks abreast -/

/-- Two conversations in which the same answers are to come, and as much was asked and sent. -/
structure Conversation.Even (c d : Conversation α ℚ) : Prop where
  pending : d.pending = c.pending
  closings : d.closings = c.closings
  asked : d.turns.length = c.turns.length
  sent : d.sent.length = c.sent.length

/-- What a question comes to in one conversation and another in the other, if it comes to the same
in both, after the same time. -/
structure InStep {β : Type} (c d : Conversation α ℚ)
    (one other : Except Failure β × Conversation α ℚ) : Prop where
  agree : Agree one.1 other.1
  even : one.2.Even other.2
  passed : one.2.now - c.now = other.2.now - d.now

section

variable {session : Session α ℚ} {name : Name} {c d : Conversation α ℚ}

/-- Conversations that are even are closed, or not, together. -/
theorem Conversation.Even.closed (even : c.Even d) : d.closed = c.closed := by
  unfold Conversation.closed
  rw [even.closings]

/-- A question that is not answered in either conversation comes to the same in both. -/
theorem InStep.unanswered {failure : Failure} {requests more : List Request} {turn another : Turn}
    (even : c.Even d) (sent : more.length = requests.length) :
    @InStep α Json c d
      (.error failure, { c with sent := requests, turns := c.turns ++ [turn] })
      (.error failure, { d with sent := more, turns := d.turns ++ [another] }) where
  agree := Or.inl rfl
  even := ⟨even.pending, even.closings, by simp [even.asked], sent⟩
  passed := by simp

/-- Speaking and sleeping leaves conversations even. -/
theorem Conversation.Even.rested {look another : Look α ℚ} (even : look.after.Even another.after)
    (entry note : LogEntry) (pause sleep : ℚ) :
    (look.rested entry pause).Even (another.rested note sleep) :=
  ⟨even.pending, even.closings, even.asked, even.sent⟩

/-- Over a steady backend a question comes to the same whatever the time in it. -/
theorem Backend.Steady.inStep_ask {backend : Backend α} (steady : backend.Steady) (name : Name)
    {hold other : String} (written : Span.Written hold) (also : Span.Written other)
    (even : c.Even d) :
    @InStep α Json c d ((ask backend (healthCall name hold)).run.run c)
      ((ask backend (healthCall name other)).run.run d) := by
  obtain ⟨failure, asked, askedToo⟩ | ⟨request, another, asked, askedToo⟩ :=
    steady.encode_cases name written also
  · rw [run_ask, run_ask, run_replyTo_of_unwritten asked, run_replyTo_of_unwritten askedToo]
    exact .unanswered even even.sent
  · cases passable : backend.closesForGood && c.closed with
    | true =>
      have passableToo : (backend.closesForGood && d.closed) = true := by
        rw [even.closed, passable]
      rw [run_ask, run_ask, run_replyTo_of_shut asked passable,
        run_replyTo_of_shut askedToo passableToo]
      exact .unanswered even even.sent
    | false =>
      have passableToo : (backend.closesForGood && d.closed) = false := by
        rw [even.closed, passable]
      cases awaited : c.pending with
      | nil =>
        rw [run_ask_of_silence asked passable awaited,
          run_ask_of_silence askedToo passableToo (even.pending.trans awaited)]
        exact .unanswered even (by simp [even.sent])
      | cons next rest =>
        rw [run_ask_of_answer asked passable awaited,
          run_ask_of_answer askedToo passableToo (even.pending.trans awaited)]
        exact {
          agree := steady.decode name hold other next.answer written also
          even := ⟨rfl, even.closings, by simp [even.asked], by simp [even.sent]⟩
          passed := by
            change c.now + next.delay - c.now = d.now + next.delay - d.now
            ring }

end

/-- A failure that does not lie with the engine can arise without an answer. -/
theorem Failure.mishap_of_not_engine {failure : Failure} (own : failure.isEngineFailure = false) :
    failure.Mishap := by
  cases failure <;> first | exact ⟨rfl, rfl⟩ | cases own

/-- Replies that agree are read alike. -/
theorem Agree.readHealth {one other : Except Failure Json} (agree : Agree one other)
    (name : Name) : Agree (Session.readHealth name one) (Session.readHealth name other) := by
  obtain rfl | ⟨failure, another, rfl, rfl, own, ownToo⟩ := agree
  · exact Or.inl rfl
  · rw [readHealth_of_mishap name (Failure.mishap_of_not_engine own),
      readHealth_of_mishap name (Failure.mishap_of_not_engine ownToo)]
    exact Or.inr ⟨failure, another, rfl, rfl, own, ownToo⟩

section

variable {session : Session α ℚ} {c d : Conversation α ℚ}

/-- Looks of two waits come to the same, whatever their deadlines are. -/
theorem Backend.Steady.inStep_look (steady : session.backend.Steady) (name : Name)
    (deadline later : ℚ) (finite : session.pacing.longest ≤ Seconds.floatBound) (even : c.Even d) :
    Agree (session.lookBefore name deadline c).outcome (session.lookBefore name later d).outcome ∧
      (session.lookBefore name deadline c).after.Even (session.lookBefore name later d).after ∧
      (session.lookBefore name deadline c).after.now - c.now =
        (session.lookBefore name later d).after.now - d.now := by
  have short : ∀ deadline now, holdUntil deadline session.pacing.longest now ≤
      Seconds.floatBound := by
    intro deadline now
    rw [holdUntil_eq]
    exact (min_le_right _ _).trans finite
  obtain ⟨hold, held, written⟩ := Span.exists_holdText (short deadline c.now)
  obtain ⟨other, heldToo, also⟩ := Span.exists_holdText (short later d.now)
  have asked := steady.inStep_ask name written also even
  have looked := run_indexHealth_of_written session name held c
  have lookedToo := run_indexHealth_of_written session name heldToo d
  unfold Session.lookBefore Session.look
  rw [looked, lookedToo]
  exact ⟨asked.agree.readHealth name, asked.even, asked.passed⟩

end

/-! ### Waits abreast -/

/-- A result that is an index, or trouble that lies with the engine before the wait is over. -/
def Decisive (result : Except Failure IndexDescriptor) : Prop :=
  ∀ failure, result = .error failure → failure.isEngineFailure = true ∧ failure.isTimeout = false

/-- A round that goes as a round of a wait with this deadline goes, and sleeps as long or longer. It
sleeps longer only if the other one sleeps up to its deadline. -/
def Stretched (deadline : ℚ) (round longer : Round α ℚ) : Prop :=
  longer.pause = round.pause ∨
    round.pause ≤ longer.pause ∧ round.look.after.now + round.pause = deadline

section

variable {session : Session α ℚ} {name : Name} {limit further : Span ℚ} {deadline later : ℚ}
  {interval : ℚ} {c d : Conversation α ℚ}
  {result other : Except Failure IndexDescriptor × Conversation α ℚ}
  {rounds more : List (Round α ℚ)} {last final : Look α ℚ}

/-- A wait ends with its first look, or it goes on behind the sleep after it. -/
theorem Waited.begins (waited : Waited session name limit deadline interval c result rounds last) :
    (rounds = [] ∧ last = session.lookBefore name deadline c) ∨
      ∃ index entry pause others,
        rounds = ⟨session.lookBefore name deadline c, interval, pause⟩ :: others ∧
        (session.lookBefore name deadline c).Unwell index ∧
        verdict deadline interval (session.lookBefore name deadline c).after.now = .rest pause ∧
        Waited session name limit deadline (nextInterval session.pacing.longest interval)
          ((session.lookBefore name deadline c).rested entry pause) result others last := by
  obtain ⟨polled, paced, decided, aimed, concluded, quiet⟩ := waited
  cases polled with
  | last hold c =>
    obtain rfl : hold = holdUntil deadline session.pacing.longest c.now := aimed
    exact Or.inl ⟨rfl, rfl⟩
  | @round others last hold interval pause entry c rest =>
    obtain ⟨aimedToo, ⟨index, unwell⟩, told⟩ := decided _ List.mem_cons_self
    obtain rfl : hold = holdUntil deadline session.pacing.longest c.now := aimedToo
    obtain ⟨rfl, pacedToo⟩ := paced
    exact Or.inr ⟨index, entry, pause, others, rfl, unwell, told, {
      polled := rest
      paced := pacedToo
      decided := fun round member => decided round (List.mem_cons_of_mem _ member)
      aimed := aimed
      concluded := concluded
      quiet := quiet }⟩

/-- Waits whose last looks agree come to the same, if the shorter one came to something decisive. -/
theorem Concluded.eq_of_agree {one another : Except Failure IndexDescriptor}
    (concluded : Concluded limit deadline last one) (also : Concluded further later final another)
    (agree : Agree last.outcome final.outcome) (decisive : Decisive one) : another = one := by
  cases concluded with
  | @failed failure troubled =>
    obtain same | ⟨failed, -, seen, -, own, -⟩ := agree
    · exact also.eq_error (same ▸ troubled)
    · cases troubled.symm.trans seen
      cases own.symm.trans (decisive _ rfl).1
  | @healthy index healthy =>
    obtain same | ⟨failed, -, seen, -, -, -⟩ := agree
    · exact (also.eq_ok_iff index).2 ⟨same ▸ healthy.1, healthy.2⟩
    · cases healthy.1.symm.trans seen
  | expired unwell late => cases (decisive _ rfl).2

/-- What sees the index unwell agrees with nothing else. -/
theorem Agree.unwell {look another : Look α ℚ} (agree : Agree look.outcome another.outcome)
    {index : IndexDescriptor} : look.Unwell index ↔ another.Unwell index := by
  obtain same | ⟨failure, more, failed, failedToo, -, -⟩ := agree
  · unfold Look.Unwell
    rw [same]
  · constructor
    · rintro ⟨seen, -⟩
      cases seen.symm.trans failed
    · rintro ⟨seen, -⟩
      cases seen.symm.trans failedToo

/-- A wait that ends with a look that saw the index unwell is over. -/
theorem Concluded.over_of_unwell {one : Except Failure IndexDescriptor}
    (concluded : Concluded limit deadline last one) {index : IndexDescriptor}
    (unwell : last.Unwell index) : deadline ≤ last.after.now ∧ ¬Decisive one := by
  cases concluded with
  | failed troubled => cases unwell.1.symm.trans troubled
  | healthy healthy => exact absurd healthy unwell.not_healthy
  | expired seen late =>
    refine ⟨verdict_eq_expired.1 late, fun decisive => ?_⟩
    cases (decisive _ rfl).2

/-- A sleep with more time left is longer only if the other one takes all that is left, and leaves
more time behind it. -/
theorem min_stretched (interval : ℚ) {left more : ℚ} (ahead : left ≤ more) :
    left - min interval left ≤ more - min interval more ∧
      (min interval more = min interval left ∨
        min interval left ≤ min interval more ∧ min interval left = left) := by
  obtain short | long := le_total interval left
  · rw [min_eq_left short, min_eq_left (short.trans ahead)]
    exact ⟨sub_le_sub_right ahead interval, Or.inl rfl⟩
  · rw [min_eq_right long, sub_self]
    exact ⟨sub_nonneg.2 (min_le_right _ _), Or.inr ⟨le_min long ahead, rfl⟩⟩

/-- As long as the shorter of two waits goes on, the longer one goes on with it. -/
theorem Waited.stretched (waited : Waited session name limit deadline interval c result rounds last)
    (also : Waited session name further later interval d other more final)
    (steady : session.backend.Steady) (finite : session.pacing.longest ≤ Seconds.floatBound)
    (even : c.Even d) (ahead : deadline - c.now ≤ later - d.now) (decisive : Decisive result.1) :
    other.1 = result.1 ∧ last.after.Even final.after ∧
      List.Forall₂ (Stretched deadline) rounds more := by
  induction rounds generalizing interval c d more with
  | nil =>
    obtain ⟨agree, evenToo, -⟩ := steady.inStep_look name deadline later finite even
    obtain ⟨-, rfl⟩ | ⟨index, entry, pause, others, goesOn, -⟩ := waited.begins
    · obtain ⟨rfl, rfl⟩ | ⟨index, entry, pause, others, rfl, unwell, -⟩ := also.begins
      · exact ⟨waited.concluded.eq_of_agree also.concluded agree decisive, evenToo, .nil⟩
      · have late := waited.concluded.over_of_unwell (agree.unwell.2 unwell)
        exact absurd decisive late.2
    · cases goesOn
  | cons round rounds inductionHypothesis =>
    obtain ⟨agree, evenToo, passed⟩ := steady.inStep_look name deadline later finite even
    obtain ⟨ended, -⟩ | ⟨index, entry, pause, others, goesOn, unwell, told, rest⟩ := waited.begins
    · cases ended
    · cases goesOn
      obtain ⟨early, paused⟩ := verdict_eq_rest.1 told
      have left : deadline - (session.lookBefore name deadline c).after.now ≤
          later - (session.lookBefore name later d).after.now := by linarith
      obtain ⟨rfl, rfl⟩ | ⟨other, note, sleep, following, rfl, -, toldToo, restToo⟩ := also.begins
      · have late := also.concluded.over_of_unwell (agree.unwell.1 unwell)
        linarith [late.1]
      · obtain ⟨-, slept⟩ := verdict_eq_rest.1 toldToo
        obtain ⟨remaining, stretched⟩ := min_stretched interval left
        rw [← paused, ← slept] at remaining stretched
        have aheadRested : deadline - ((session.lookBefore name deadline c).after.now + pause) ≤
            later - ((session.lookBefore name later d).after.now + sleep) := by linarith
        obtain ⟨same, evenEnd, pairs⟩ :=
          inductionHypothesis rest restToo (evenToo.rested entry note pause sleep) aheadRested
        have whole : pause = deadline - (session.lookBefore name deadline c).after.now →
            (session.lookBefore name deadline c).after.now + pause = deadline := by
          intro taken
          linarith
        exact ⟨same, evenEnd, .cons (stretched.imp_right (And.imp_right whole)) pairs⟩

/-- A round whose sleep ends with the deadline is the last one, if answers take no negative time. -/
theorem Waited.nil_of_ends_with_deadline
    (waited : Waited session name limit deadline interval c result rounds last)
    (honest : session.backend.Honest) (delayed : ∀ next ∈ c.pending, 0 ≤ next.delay) :
    ∀ before round after, rounds = before ++ round :: after →
      round.look.after.now + round.pause = deadline → after = [] := by
  intro before round after split ends
  obtain ⟨entry, resumed⟩ := waited.polled.resumes before round after split
  cases after with
  | nil => rfl
  | cons next after =>
    -- the next look begins with the deadline, and a round ends before it
    have member : next ∈ rounds := by simp [split]
    obtain ⟨look, later, first, begun⟩ := resumed.begins
    cases first
    have early := (waited.decided next member).before_deadline.2
    have onward := waited.polled.onward honest delayed next.look
      (List.mem_append_left _ (List.mem_map_of_mem member))
    rw [begun] at onward
    change round.look.after.now + round.pause ≤ _ at onward
    linarith

end

/-! ### Sleeps of the longer wait -/

/-- Rows of sleeps that are the same, except that the last one may be longer in the second. -/
inductive SameButLast : List ℚ → List ℚ → Prop where
  | same (pauses : List ℚ) : SameButLast pauses pauses
  | longer (pauses : List ℚ) {last later : ℚ} (longer : last ≤ later) :
      SameButLast (pauses ++ [last]) (pauses ++ [later])

/-- Behind a sleep of the same length rows of sleeps are compared as before. -/
theorem SameButLast.cons {pauses others : List ℚ} (same : SameButLast pauses others) (pause : ℚ) :
    SameButLast (pause :: pauses) (pause :: others) := by
  cases same with
  | same => exact .same _
  | longer pauses longer => exact .longer (pause :: pauses) longer

/-- If only the last round sleeps up to the deadline, only the last sleep of the longer wait is
longer. -/
theorem sameButLast_of_stretched {deadline : ℚ} {rounds more : List (Round α ℚ)}
    (stretched : List.Forall₂ (Stretched deadline) rounds more)
    (final : ∀ before round after, rounds = before ++ round :: after →
      round.look.after.now + round.pause = deadline → after = []) :
    SameButLast (rounds.map Round.pause) (more.map Round.pause) := by
  induction stretched with
  | nil => exact .same []
  | @cons round longer rounds more head tail inductionHypothesis =>
    have rest := inductionHypothesis fun before another after split =>
      final (round :: before) another after (congrArg (round :: ·) split)
    obtain same | ⟨grown, whole⟩ := head
    · rw [List.map_cons, List.map_cons, same]
      exact rest.cons round.pause
    · cases final [] round rounds rfl whole
      cases tail
      exact .longer [] grown

/-- What it is for a longer wait to end as a shorter one did. -/
structure EndsAlike (c : Conversation α ℚ)
    (short long : Except Failure IndexDescriptor × Conversation α ℚ) : Prop where
  /-- It comes to the same. -/
  outcome : long.1 = short.1
  /-- It does so with the same look: as much was asked and sent, and the same answers are still to
  come. -/
  polls : short.2.Even long.2
  /-- It sleeps as often and as long, except that its last sleep may be longer. -/
  sleeps : (∀ next ∈ c.pending, 0 ≤ next.delay) →
    ∃ pauses others, short.2.sleeps = c.sleeps ++ pauses ∧ long.2.sleeps = c.sleeps ++ others ∧
      SameButLast pauses others

/-- The longer of two waits ends as the shorter one did. -/
theorem Waited.endsAlike {session : Session α ℚ} {name : Name} {limit further : Span ℚ}
    {deadline later interval : ℚ} {c : Conversation α ℚ}
    {result other : Except Failure IndexDescriptor × Conversation α ℚ}
    {rounds more : List (Round α ℚ)} {last final : Look α ℚ}
    (waited : Waited session name limit deadline interval c result rounds last)
    (also : Waited session name further later interval c other more final)
    (honest : session.backend.Honest) (steady : session.backend.Steady)
    (finite : session.pacing.longest ≤ Seconds.floatBound) (within : deadline ≤ later)
    (decisive : Decisive result.1) : EndsAlike c result other := by
  obtain ⟨outcome, even, stretched⟩ := waited.stretched also steady finite ⟨rfl, rfl, rfl, rfl⟩
    (sub_le_sub_right within _) decisive
  obtain ⟨log, quiet⟩ := waited.quiet
  obtain ⟨note, quietToo⟩ := also.quiet
  refine ⟨outcome, ?_, fun delayed => ⟨rounds.map Round.pause, more.map Round.pause, ?_, ?_,
    sameButLast_of_stretched stretched (waited.nil_of_ends_with_deadline honest delayed)⟩⟩
  · rw [quiet, quietToo]
    exact ⟨even.pending, even.closings, even.asked, even.sent⟩
  · rw [quiet]
    exact waited.polled.sleeps honest
  · rw [quietToo]
    exact also.polled.sleeps honest

/-- A longer limit never turns success into failure. Over an honest and steady backend, whatever is
answered and however long that takes: where a wait returns an index, a wait with a longer limit
returns the same one after as many looks, and sleeps the same but for the last time; and where a
look makes a wait fail with trouble of the engine's, it makes the longer one fail with the same. -/
theorem longer_wait_ends_alike (session : Session α ℚ) (honest : session.backend.Honest)
    (steady : session.backend.Steady) (finite : session.pacing.longest ≤ Seconds.floatBound)
    (name : Name) {timeout patience : Option (Span ℚ)} {limit further : ℚ}
    (timed : (timeout.getD (.measured session.pacing.limit)).time = .ok limit)
    (timedToo : (patience.getD (.measured session.pacing.limit)).time = .ok further)
    (within : limit ≤ further) (c : Conversation α ℚ) :
    let short := (waitForHealthyIndex session name timeout).run.run c
    let long := (waitForHealthyIndex session name patience).run.run c
    (∀ index, short.1 = .ok index → EndsAlike c short long) ∧
    ∀ failure, short.1 = .error failure → failure.isEngineFailure = true →
      failure.isTimeout = false → EndsAlike c short long := by
  intro short long
  obtain ⟨rounds, last, waited⟩ := honest.waited timed name c
  obtain ⟨more, final, also⟩ := honest.waited timedToo name c
  have later : Seconds.add c.now limit ≤ Seconds.add c.now further := add_le_add_right within c.now
  have alike := waited.endsAlike also honest steady finite later
  constructor
  · intro index returned
    apply alike
    intro failure failed
    cases returned.symm.trans failed
  · intro failure failed own prompt
    apply alike
    intro other failedToo
    cases failed.symm.trans failedToo
    exact ⟨own, prompt⟩

/-- What a wait with a limit comes to that is called an index first red and then green. -/
def untilGreen (limit : ℚ) : Except Failure IndexDescriptor × Conversation Client.Answer ℚ :=
  (waitForHealthyIndex (unhurried (Client.Elasticsearch.backend Client.Elasticsearch.errorKinds))
    (.str "pages") (some (.measured limit))).run.run redThenGreen

/-- A wait that cuts its sleep short ends as one that has more time, and sleeps longer. -/
theorem longer_wait_for_green_ends_alike :
    (2 : ℚ) ≤ Seconds.floatBound ∧
      (∃ index, (untilGreen (1 / 10)).1 = .ok index ∧
        EndsAlike redThenGreen (untilGreen (1 / 10)) (untilGreen 1)) ∧
      [untilGreen (1 / 10), untilGreen 1].map (·.2.sleeps) = [[1 / 20], [1 / 10]] := by
  have finite : (2 : ℚ) ≤ Seconds.floatBound := by exact_mod_cast Seconds.two_le_floatBound
  have timed : ((some (Span.measured (1 / 10))).getD (.measured 1)).time = .ok (1 / 10 : ℚ) := rfl
  have timedToo : ((some (Span.measured 1)).getD (.measured 1)).time = .ok (1 : ℚ) := rfl
  have alike := longer_wait_ends_alike
    (unhurried (Client.Elasticsearch.backend Client.Elasticsearch.errorKinds))
    (Client.Elasticsearch.backend_honest _) (Client.Elasticsearch.backend_steady _) finite
    (.str "pages") timed timedToo (by norm_num) redThenGreen
  have green : (untilGreen (1 / 10)).1.toOption.map IndexDescriptor.health = some .green := by
    decide +kernel
  have slept : [untilGreen (1 / 10), untilGreen 1].map (·.2.sleeps) = [[1 / 20], [1 / 10]] := by
    decide +kernel
  refine ⟨finite, ?_, slept⟩
  cases returned : (untilGreen (1 / 10)).1 with
  | error failure =>
    rw [returned] at green
    cases green
  | ok index => exact ⟨index, rfl, alike.1 index returned⟩

end EngineGateway
