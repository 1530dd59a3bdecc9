import EngineGateway.Proofs.Session.ExactTime

/-!
# What decides the outcome of a wait

In exact time the outcome of a wait for the health of an index can be read off its looks, and the
other way round. A wait returns what the last look saw if that is the first to see the index well,
it gives up if a look saw it unwell when the deadline had passed, and it fails as the look did that
failed. Between two looks it sleeps, and after a sleep it always looks again, also where the sleep
was cut short at the deadline.
-/

namespace EngineGateway

open Session

variable {α : Type}

section

variable {rounds : List (Round α ℚ)} {earlier later : List (Look α ℚ)} {look last : Look α ℚ}

/-- A look of a row is the last one, or one after which the session slept. -/
theorem polls_split (split : polls rounds last = earlier ++ look :: later) :
    (later = [] ∧ look = last ∧ earlier = rounds.map Round.look) ∨
      ∃ round ∈ rounds, look = round.look := by
  obtain rfl | ⟨others, final, rfl⟩ := List.eq_nil_or_concat later
  · obtain ⟨before, ends⟩ := List.append_inj' split rfl
    cases ends
    exact Or.inl ⟨rfl, rfl, before.symm⟩
  · have joined : rounds.map Round.look ++ [last] = (earlier ++ look :: others) ++ [final] := by
      rw [List.concat_eq_append] at split
      rw [List.append_assoc, List.cons_append]
      exact split
    have among : look ∈ rounds.map Round.look := by
      rw [(List.append_inj' joined rfl).1]
      exact List.mem_append_right _ List.mem_cons_self
    obtain ⟨round, member, seen⟩ := List.mem_map.1 among
    exact Or.inr ⟨round, member, seen.symm⟩

/-- A look sees an index well or unwell, and only one. -/
theorem Look.Unwell.not_healthy {index other : IndexDescriptor} (unwell : look.Unwell index) :
    ¬look.Healthy other := by
  rintro ⟨seen, well⟩
  cases unwell.1.symm.trans seen
  cases well.symm.trans unwell.2

/-- After a round the session goes on, so it saw the index unwell before the deadline. -/
theorem Round.Decided.before_deadline {session : Session α ℚ} {deadline : ℚ} {round : Round α ℚ}
    (decided : round.Decided session deadline) :
    (∃ index, round.look.Unwell index) ∧ round.look.after.now < deadline :=
  ⟨decided.unwell, (verdict_eq_rest.1 decided.verdict).1⟩

end

section

variable {limit : Span ℚ} {deadline : ℚ} {last : Look α ℚ}
  {result : Except Failure IndexDescriptor}

/-- A wait comes to what its last look saw exactly if that is well. -/
theorem Concluded.eq_ok_iff (concluded : Concluded limit deadline last result)
    (index : IndexDescriptor) : result = .ok index ↔ last.Healthy index := by
  constructor
  · intro returned
    cases concluded with
    | failed troubled => cases returned
    | healthy healthy =>
      cases returned
      exact healthy
    | expired unwell late => cases returned
  · intro healthy
    cases concluded with
    | failed troubled => cases troubled.symm.trans healthy.1
    | healthy seen =>
      cases seen.1.symm.trans healthy.1
      rfl
    | expired unwell late => exact absurd healthy unwell.not_healthy

/-- A wait comes to an end without an index exactly if its last look ended too late and saw the
index unwell. -/
theorem Concluded.eq_timeout_iff (concluded : Concluded limit deadline last result)
    (prompt : FailsOnly Failure.Prompt last.outcome) (who within : Text) (state : HealthState) :
    result = .error (.healthTimeout who within state) ↔ within = limit.text ∧
      ∃ index, last.Unwell index ∧ index.name = who ∧ index.health = state ∧
        deadline ≤ last.after.now := by
  constructor
  · intro ended
    cases concluded with
    | failed troubled =>
      cases ended
      cases prompt _ troubled
    | healthy healthy => cases ended
    | expired unwell late =>
      cases ended
      exact ⟨rfl, _, unwell, rfl, rfl, verdict_eq_expired.1 late⟩
  · rintro ⟨rfl, index, unwell, rfl, rfl, -⟩
    cases concluded with
    | failed troubled => cases troubled.symm.trans unwell.1
    | healthy healthy => exact absurd healthy unwell.not_healthy
    | expired seen late =>
      cases seen.1.symm.trans unwell.1
      rfl

/-- A wait fails as its last look did. -/
theorem Concluded.eq_error (concluded : Concluded limit deadline last result) {failure : Failure}
    (troubled : last.outcome = .error failure) : result = .error failure := by
  cases concluded with
  | failed failed =>
    cases failed.symm.trans troubled
    rfl
  | healthy healthy => cases healthy.1.symm.trans troubled
  | expired unwell late => cases unwell.1.symm.trans troubled

/-- A wait fails before it is over only if its last look failed. -/
theorem Concluded.failed_of_prompt (concluded : Concluded limit deadline last result)
    {failure : Failure} (ended : result = .error failure) (prompt : failure.Prompt) :
    last.outcome = .error failure := by
  cases concluded with
  | failed troubled =>
    cases ended
    exact troubled
  | healthy healthy => cases ended
  | expired unwell late =>
    cases ended
    cases prompt

end

/-- What it is for the outcome of a wait to be decided by the row of its looks. -/
structure OutcomeDecided (session : Session α ℚ) (name : Name) (limit : Span ℚ) (deadline : ℚ)
    (c : Conversation α ℚ) (result : Except Failure IndexDescriptor × Conversation α ℚ)
    (rounds : List (Round α ℚ)) (last : Look α ℚ) : Prop where
  /-- The wait is a row of looks, one at least, and after the last of them nothing is asked. -/
  polled : Polled session name c rounds last
  quiet : ∃ log, result.2 = { last.after with log := log }
  /-- Every look is aimed at the deadline, and the intervals between them grow as they should. -/
  aimed : ∀ look ∈ polls rounds last, look.Aimed session deadline
  paced : Paced session session.pacing.first rounds
  /-- An index is returned exactly if the last look is the first one to see it well. -/
  returned : ∀ index, result.1 = .ok index ↔
    last.Healthy index ∧ ∀ round ∈ rounds, ∀ other, ¬round.look.Healthy other
  /-- The wait gives up exactly if a look saw the index unwell and ended with the deadline or after
  it, where every look before it saw it unwell and ended before the deadline. -/
  expired : ∀ who within state, result.1 = .error (.healthTimeout who within state) ↔
    within = limit.text ∧ ∃ earlier look later index, polls rounds last = earlier ++ look :: later ∧
      look.Unwell index ∧ index.name = who ∧ index.health = state ∧ deadline ≤ look.after.now ∧
      ∀ before ∈ earlier, (∃ index, before.Unwell index) ∧ before.after.now < deadline
  /-- A look that fails is the last one, and the wait fails as it did. -/
  failed : ∀ earlier look later failure, polls rounds last = earlier ++ look :: later →
    look.outcome = .error failure → later = [] ∧ result.1 = .error failure
  /-- The wait fails in no other way. -/
  troubled : ∀ failure, result.1 = .error failure → failure.isTimeout = false →
    last.outcome = .error failure
  /-- Every sleep lasts for an interval, but not past the deadline, and the next look begins where
  it ends. -/
  resumed : ∀ before round after, rounds = before ++ round :: after →
    round.pause = min round.interval (deadline - round.look.after.now) ∧
      ∃ look later, polls after last = look :: later ∧
        look.before.now = round.look.after.now + round.pause

section

variable {session : Session α ℚ} {name : Name} {limit : Span ℚ} {deadline first : ℚ}
  {c : Conversation α ℚ} {result : Except Failure IndexDescriptor × Conversation α ℚ}
  {rounds : List (Round α ℚ)} {last : Look α ℚ}

/-- A wait returns what its last look saw if that is well, and no look before it saw that. -/
theorem Waited.returned_iff (waited : Waited session name limit deadline first c result rounds last)
    (index : IndexDescriptor) : result.1 = .ok index ↔
      last.Healthy index ∧ ∀ round ∈ rounds, ∀ other, ¬round.look.Healthy other := by
  rw [waited.concluded.eq_ok_iff]
  constructor
  · intro healthy
    refine ⟨healthy, fun round member other => ?_⟩
    obtain ⟨seen, unwell⟩ := (waited.decided round member).unwell
    exact unwell.not_healthy
  · rintro ⟨healthy, -⟩
    exact healthy

/-- A wait gives up where the first look that ended with the deadline or after it saw the index
unwell. -/
theorem Waited.expired_iff (waited : Waited session name limit deadline first c result rounds last)
    (prompt : FailsOnly Failure.Prompt last.outcome) (who within : Text) (state : HealthState) :
    result.1 = .error (.healthTimeout who within state) ↔ within = limit.text ∧
      ∃ earlier look later index, polls rounds last = earlier ++ look :: later ∧
        look.Unwell index ∧ index.name = who ∧ index.health = state ∧ deadline ≤ look.after.now ∧
        ∀ before ∈ earlier, (∃ index, before.Unwell index) ∧ before.after.now < deadline := by
  rw [waited.concluded.eq_timeout_iff prompt]
  apply and_congr_right
  intro _
  constructor
  · rintro ⟨index, unwell, named, told, late⟩
    refine ⟨rounds.map Round.look, last, [], index, rfl, unwell, named, told, late, ?_⟩
    intro before member
    obtain ⟨round, among, rfl⟩ := List.mem_map.1 member
    exact (waited.decided round among).before_deadline
  · rintro ⟨earlier, look, later, index, split, unwell, named, told, late, -⟩
    obtain ⟨-, rfl, -⟩ | ⟨round, member, rfl⟩ := polls_split split
    · exact ⟨index, unwell, named, told, late⟩
    · -- after a round the deadline is still to come
      exact absurd late (not_le.2 (waited.decided round member).before_deadline.2)

/-- A look that fails is the last one of a wait, which fails as it did. -/
theorem Waited.failed (waited : Waited session name limit deadline first c result rounds last)
    {earlier later : List (Look α ℚ)} {look : Look α ℚ} {failure : Failure}
    (split : polls rounds last = earlier ++ look :: later)
    (troubled : look.outcome = .error failure) : later = [] ∧ result.1 = .error failure := by
  obtain ⟨none, rfl, -⟩ | ⟨round, member, rfl⟩ := polls_split split
  · exact ⟨none, waited.concluded.eq_error troubled⟩
  · obtain ⟨index, unwell⟩ := (waited.decided round member).unwell
    cases unwell.1.symm.trans troubled

/-- A wait sleeps for its interval, but not past the deadline, and then looks again. -/
theorem Waited.resumed (waited : Waited session name limit deadline first c result rounds last)
    {before after : List (Round α ℚ)} {round : Round α ℚ}
    (split : rounds = before ++ round :: after) :
    round.pause = min round.interval (deadline - round.look.after.now) ∧
      ∃ look later, polls after last = look :: later ∧
        look.before.now = round.look.after.now + round.pause := by
  have member : round ∈ rounds := split ▸ List.mem_append_right _ List.mem_cons_self
  obtain ⟨entry, rested⟩ := waited.polled.resumes before round after split
  obtain ⟨look, later, row, begun⟩ := rested.begins
  exact ⟨(verdict_eq_rest.1 (waited.decided round member).verdict).2, look, later, row,
    congrArg Conversation.now begun⟩

end

/-- The outcome of every wait over an honest backend is decided by its looks: whatever the limit and
the intervals, whatever is answered and however long that takes. -/
theorem looks_decide_the_outcome (session : Session α ℚ) (honest : session.backend.Honest)
    (name : Name) {timeout : Option (Span ℚ)} {limit : ℚ}
    (timed : (timeout.getD (.measured session.pacing.limit)).time = .ok limit)
    (c : Conversation α ℚ) :
    ∃ rounds last, OutcomeDecided session name (timeout.getD (.measured session.pacing.limit))
      (c.now + limit) c ((waitForHealthyIndex session name timeout).run.run c) rounds last := by
  obtain ⟨rounds, last, waited⟩ := honest.waited timed name c
  have looked : Looked session name last :=
    waited.polled.looked honest last (List.mem_append_right _ List.mem_cons_self)
  have prompt : FailsOnly Failure.Prompt last.outcome :=
    looked.failsOnly honest (Span.holdText_failsOnly last.hold)
  exact ⟨rounds, last, {
    polled := waited.polled
    quiet := waited.quiet
    aimed := waited.aimed_of_mem
    paced := waited.paced
    returned := waited.returned_iff
    expired := waited.expired_iff prompt
    failed := fun earlier look later failure => waited.failed
    troubled := fun failure ended timely => waited.concluded.failed_of_prompt ended timely
    resumed := fun before round after => waited.resumed }⟩

/-- The looks decide the outcome where the second one begins with the deadline. -/
theorem looks_decide_the_outcome_of_red_then_green :
    let session := unhurried (Client.Elasticsearch.backend Client.Elasticsearch.errorKinds)
    (Span.measured (1 / 10 : ℚ)).time = .ok (1 / 10) ∧
    ∃ rounds last, OutcomeDecided session (.str "pages") (.measured (1 / 10)) (0 + 1 / 10)
      redThenGreen ((waitForHealthyIndex session (.str "pages") (some (.measured (1 / 10)))).run.run
        redThenGreen) rounds last := by
  intro session
  have timed : ((some (Span.measured (1 / 10))).getD (.measured session.pacing.limit)).time =
      .ok (1 / 10) := rfl
  exact ⟨rfl, looks_decide_the_outcome session (Client.Elasticsearch.backend_honest _)
    (.str "pages") timed redThenGreen⟩

/-- The sleep is cut short at the deadline, and then the index is looked at once more. -/
example :
    let ending := (waitForHealthyIndex
      (unhurried (Client.Elasticsearch.backend Client.Elasticsearch.errorKinds)) (.str "pages")
      (some (.measured (1 / 10)))).run.run redThenGreen
    ending.2.sleeps = [1 / 20] ∧ ending.2.sent.length = 2 ∧
      ending.1.toOption.map IndexDescriptor.health = some .green := by
  decide +kernel

end EngineGateway
