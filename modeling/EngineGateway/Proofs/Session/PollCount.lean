import EngineGateway.Proofs.Session.Backoff
import EngineGateway.Proofs.Session.Deadline
import EngineGateway.Proofs.Session.Traffic
import Mathlib.Algebra.Order.BigOperators.Group.List

/-!
# How often a wait looks

In exact time a wait looks at the health of an index no more often than the shortest interval fits
into its limit, and two times more. What carries the argument is that every sleep but the last lasts
for its whole interval: one that is cut short ends with the deadline, and the look that follows it
is the last.

So a wait ends whatever is answered. To an engine that goes on answering for ever it listens no
longer: what would be answered behind so many answers makes no difference to it.
-/

namespace EngineGateway

open Session Talk

variable {α τ : Type}

/-! ### Questions that were asked -/

/-- What happened since a conversation, and then since the one that it led to. -/
theorem Since.trans {session : Session α τ} {origin c d : Conversation α τ}
    {fresh later : List Turn} (first : Since session origin fresh c)
    (second : Since session c later d) : Since session origin (fresh ++ later) d where
  turns := by rw [second.turns, first.turns, List.append_assoc]
  sent := by
    rw [second.sent, first.sent, first.closed, List.flatMap_append, List.append_assoc]
  closings := second.closings.trans first.closings

/-- A call makes one request at most. -/
theorem Backend.length_requestsOf_le (backend : Backend α) (closed : Bool) (call : Call) :
    (backend.requestsOf closed call).length ≤ 1 := by
  unfold requestsOf
  split
  · split
    · exact Nat.zero_le 1
    · exact Nat.le_refl 1
  · exact Nat.zero_le 1

/-- Since a conversation nothing happened but that the health of an index was asked for, and that no
more than so many times. -/
def HealthAsked (session : Session α τ) (name : Name) (most : Nat) (c d : Conversation α τ) :
    Prop :=
  ∃ asked, Since session c asked d ∧ asked.length ≤ most ∧
    ∀ turn ∈ asked, ∃ hold, turn.call = .health name hold

/-- No more requests were sent than questions were asked. -/
theorem HealthAsked.length_sent_le {session : Session α τ} {name : Name} {most : Nat}
    {c d : Conversation α τ} (health : HealthAsked session name most c d) :
    d.sent.length ≤ c.sent.length + most := by
  obtain ⟨asked, since, few, -⟩ := health
  have made : (asked.flatMap fun turn => session.backend.requestsOf c.closed turn.call).length ≤
      asked.length := by
    rw [List.length_flatMap]
    refine (List.sum_le_card_nsmul _ 1 fun size member => ?_).trans_eq (by simp)
    obtain ⟨turn, -, rfl⟩ := List.mem_map.1 member
    exact session.backend.length_requestsOf_le c.closed turn.call
  rw [since.sent, List.length_append]
  omega

section

variable [Seconds τ] {session : Session α τ} {name : Name} {look : Look α τ}

omit [Seconds τ] in
/-- A single question is one. -/
theorem HealthAsked.single {c d : Conversation α τ} {hold : String} {reply : Except Failure Json}
    (turns : d.turns = c.turns ++ [⟨healthCall name hold, reply⟩])
    (sent : d.sent = c.sent ++ session.backend.requestsOf c.closed (healthCall name hold))
    (closings : d.closings = c.closings) : HealthAsked session name 1 c d := by
  refine ⟨[_], ⟨turns, ?_, closings⟩, Nat.le_refl 1, ?_⟩
  · rw [sent, List.flatMap_singleton]
  · intro turn member
    exact ⟨_, congrArg Turn.call (List.mem_singleton.1 member)⟩

/-- A look asks once at most. -/
theorem Looked.healthAsked (looked : Looked session name look) :
    HealthAsked session name 1 look.before look.after := by
  cases looked with
  | unwritten unwritten => exact ⟨[], .refl session _, Nat.zero_le 1, nofun⟩
  | unanswered written mishap => exact .single rfl rfl rfl
  | answered written awaited => exact .single rfl rfl rfl

/-- A row of looks asks no more often than it looks. -/
theorem Polled.healthAsked {c : Conversation α τ} {rounds : List (Round α τ)} {last : Look α τ}
    (polled : Polled session name c rounds last) (honest : session.backend.Honest) :
    HealthAsked session name (rounds.length + 1) c last.after := by
  induction polled with
  | last hold c => exact (honest.looked name hold c).healthAsked
  | round hold interval pause entry c rest inductionHypothesis =>
    obtain ⟨asked, since, few, ofHealth⟩ := (honest.looked name hold c).healthAsked
    obtain ⟨later, sinceRest, fewer, ofHealthToo⟩ := inductionHypothesis
    have rested : Since session c asked ((session.look name hold c).rested entry pause) :=
      Since.undisturbed session c asked _ _ _ _ since
    refine ⟨asked ++ later, rested.trans sinceRest, ?_, ?_⟩
    · rw [List.length_append, List.length_cons]
      omega
    · intro turn member
      exact (List.mem_append.1 member).elim (ofHealth turn) (ofHealthToo turn)

end

/-! ### Sleeps before the last one -/

section

variable {session : Session α ℚ} {name : Name} {deadline shortest : ℚ} {c : Conversation α ℚ}
  {rounds : List (Round α ℚ)} {last : Look α ℚ}

/-- Behind the first of some rounds there is time for the shortest interval in each of the others.
-/
theorem Polled.rounds_before_deadline (polled : Polled session name c rounds last)
    (nonnegative : 0 ≤ shortest) (decided : ∀ round ∈ rounds, round.Decided session deadline)
    (long : ∀ round ∈ rounds, shortest ≤ round.interval)
    (onward : ∀ look ∈ polls rounds last, look.before.now ≤ look.after.now) :
    ∀ first others, rounds = first :: others → c.now + others.length * shortest < deadline := by
  induction polled with
  | last hold c =>
    intro first others split
    cases split
  | @round rounds last hold interval pause entry c rest inductionHypothesis =>
    intro first others split
    cases split
    have looked : c.now ≤ (session.look name hold c).after.now := onward _ List.mem_cons_self
    obtain ⟨early, clipped⟩ : (session.look name hold c).after.now < deadline ∧
        pause = min interval (deadline - (session.look name hold c).after.now) :=
      verdict_eq_rest.1 (decided _ List.mem_cons_self).verdict
    cases rounds with
    | nil =>
      rw [List.length_nil, Nat.cast_zero, zero_mul, add_zero]
      exact looked.trans_lt early
    | cons second others =>
      have later : (session.look name hold c).after.now + pause + others.length * shortest <
          deadline := inductionHypothesis
        (fun round member => decided round (List.mem_cons_of_mem _ member))
        (fun round member => long round (List.mem_cons_of_mem _ member))
        (fun look member => onward look (List.mem_cons_of_mem _ member)) second others rfl
      have behind : 0 ≤ others.length * shortest := mul_nonneg (Nat.cast_nonneg _) nonnegative
      -- a sleep that is cut short would leave no time for another round
      have ahead : pause < deadline - (session.look name hold c).after.now := by linarith
      have whole : pause = interval := by
        rw [clipped] at ahead ⊢
        obtain shorter | impossible := min_lt_iff.1 ahead
        · exact min_eq_left shorter.le
        · exact absurd impossible (lt_irrefl _)
      have full : shortest ≤ pause := by
        rw [whole]
        exact long _ List.mem_cons_self
      rw [List.length_cons, Nat.cast_succ]
      linarith

/-- A wait looks no more often than the shortest interval fits into its limit, and two times more.
-/
theorem Waited.length_polls_le {span : Span ℚ} {limit : ℚ}
    {result : Except Failure IndexDescriptor × Conversation α ℚ}
    (waited : Waited session name span (c.now + limit) session.pacing.first c result rounds last)
    (honest : session.backend.Honest) (firstPositive : 0 < session.pacing.first)
    (longestPositive : 0 < session.pacing.longest)
    (delayed : ∀ next ∈ c.pending, 0 ≤ next.delay) :
    rounds.length + 1 ≤
      2 + ⌊max limit 0 / min session.pacing.first session.pacing.longest⌋₊ := by
  have positive : 0 < min session.pacing.first session.pacing.longest :=
    lt_min firstPositive longestPositive
  have long : ∀ round ∈ rounds,
      min session.pacing.first session.pacing.longest ≤ round.interval := by
    intro round member
    obtain ⟨k, counted⟩ := List.mem_iff_getElem?.1 member
    have paced : Paced session (session.pacing.interval 0) rounds := waited.paced
    rw [paced.interval_eq longestPositive counted]
    exact Pacing.shortest_le_interval firstPositive _
  cases rounds with
  | nil =>
    rw [List.length_nil]
    omega
  | cons first others =>
    have within := waited.polled.rounds_before_deadline positive.le waited.decided long
      (waited.polled.onward honest delayed) first others rfl
    have fits : (others.length : ℚ) ≤
        max limit 0 / min session.pacing.first session.pacing.longest := by
      rw [le_div_iff₀ positive]
      apply le_max_of_le_left
      linarith
    have counted := Nat.le_floor fits
    rw [List.length_cons]
    omega

end

/-! ### Answers that are not needed -/

section

variable {β γ : Type} {more : List (Timed α τ)} {c : Conversation α τ}

/-- A conversation in which more is answered behind all that is answered. -/
def Conversation.followedBy (c : Conversation α τ) (more : List (Timed α τ)) : Conversation α τ :=
  { c with pending := c.pending ++ more }

/-- A talk comes to the same, where more is answered, as another where nothing more is. -/
def Talk.Overlooks (more : List (Timed α τ)) (talk longer : Talk α τ β) (c : Conversation α τ) :
    Prop :=
  longer.run.run (c.followedBy more) = ((talk.run.run c).1, (talk.run.run c).2.followedBy more)

/-- What goes on with what both come to overlooks what the parts overlook. -/
theorem Talk.Overlooks.bind {talk longer : Talk α τ β} {next further : β → Talk α τ γ}
    (first : Overlooks more talk longer c)
    (rest : ∀ value, (talk.run.run c).1 = .ok value →
      Overlooks more (next value) (further value) (talk.run.run c).2) :
    Overlooks more (talk >>= next) (longer >>= further) c := by
  unfold Overlooks at first ⊢
  rw [run_bind, run_bind, first]
  cases reached : (talk.run.run c).1 with
  | error failure =>
    rw [← Prod.mk.eta (p := talk.run.run c), reached]
  | ok value =>
    rw [← Prod.mk.eta (p := talk.run.run c), reached]
    exact rest value reached

variable [Seconds τ]

/-- Asking overlooks what is answered behind the next answer. -/
theorem Talk.overlooks_ask (more : List (Timed α τ)) (backend : Backend α) (call : Call)
    (awaited : c.pending ≠ []) :
    Overlooks more (Talk.ask backend call) (Talk.ask backend call) c := by
  unfold Overlooks
  cases written : backend.encode call with
  | error failure =>
    rw [run_ask, run_ask, run_replyTo_of_unwritten written, run_replyTo_of_unwritten written]
    rfl
  | ok request =>
    cases passable : backend.closesForGood && c.closed with
    | true =>
      rw [run_ask, run_ask, run_replyTo_of_shut written passable,
        run_replyTo_of_shut (c := c.followedBy more) written passable]
      rfl
    | false =>
      obtain ⟨next, rest, present⟩ := List.exists_cons_of_ne_nil awaited
      have later : (c.followedBy more).pending = next :: (rest ++ more) := by
        rw [Conversation.followedBy, present]
        rfl
      rw [run_ask_of_answer written passable present,
        run_ask_of_answer (c := c.followedBy more) written passable later]
      rfl

end

section

variable [Seconds τ] {session : Session α τ} {name : Name} {limit : Span τ} {deadline : τ}
  {more : List (Timed α τ)} {c : Conversation α τ}

/-- A look overlooks what is answered behind the next answer, and all answers if it cannot ask. -/
theorem Session.overlooks_indexHealth (span : Span τ)
    (needless : c.pending ≠ [] ∨ ∃ failure, span.holdText = .error failure) :
    Overlooks more (indexHealth session name (some span)) (indexHealth session name (some span))
      c := by
  unfold Overlooks
  cases written : span.holdText with
  | error failure =>
    rw [run_indexHealth_of_unwritten session name written,
      run_indexHealth_of_unwritten session name written]
  | ok hold =>
    have awaited : c.pending ≠ [] := by
      obtain present | ⟨failure, unwritten⟩ := needless
      · exact present
      · cases written.symm.trans unwritten
    have asked := Talk.overlooks_ask more session.backend (healthCall name hold) awaited
    rw [run_indexHealth_of_written session name written,
      run_indexHealth_of_written session name written, asked]

/-- What is said before a sleep. -/
def Session.restNote (index : IndexDescriptor) (interval : τ) : LogEntry :=
  ⟨.debug, "Index [" ++ index.name ++ "] is " ++ index.health.name ++ ", next poll in " ++
    Seconds.hundredths interval ++ "s"⟩

/-- A poll that sees the index unwell before the deadline goes on behind its sleep. -/
theorem Session.run_poll_of_unwell {index : IndexDescriptor} {interval pause : τ}
    {next : Talk α τ IndexDescriptor} (unwell : (session.lookBefore name deadline c).Unwell index)
    (told : verdict deadline interval (session.lookBefore name deadline c).after.now =
      .rest pause) :
    (poll session name limit deadline interval next).run.run c =
      next.run.run
        ((session.lookBefore name deadline c).rested (restNote index interval) pause) := by
  have clocked : ∀ d : Conversation α τ, (Talk.clock : Talk α τ τ).run.run d = (.ok d.now, d) :=
    fun _ => rfl
  have looked : (indexHealth session name (some (.measured (holdUntil deadline
      session.pacing.longest c.now)))).run.run c =
      (.ok index, (session.lookBefore name deadline c).after) := Prod.ext unwell.1 rfl
  unfold poll
  simp only [run_bind, clocked, looked, unwell.2, Bool.false_eq_true, if_false, told]
  rfl

/-- A poll overlooks what its look overlooks, and what follows it. -/
theorem Session.overlooks_poll {interval : τ} {next further : Talk α τ IndexDescriptor}
    {hold : Span τ} (aimed : hold = .measured (holdUntil deadline session.pacing.longest c.now))
    (looked : Overlooks more (indexHealth session name (some hold))
      (indexHealth session name (some hold)) c)
    (rest : ∀ index pause, (session.lookBefore name deadline c).Unwell index →
      verdict deadline interval (session.lookBefore name deadline c).after.now = .rest pause →
        Overlooks more next further
          ((session.lookBefore name deadline c).rested (restNote index interval) pause)) :
    Overlooks more (poll session name limit deadline interval next)
      (poll session name limit deadline interval further) c := by
  have clocked : ∀ d : Conversation α τ, Overlooks more Talk.clock Talk.clock d := fun _ => rfl
  have said : ∀ level text, ∀ d : Conversation α τ,
      Overlooks more (Talk.say level text) (Talk.say level text) d := fun _ _ _ => rfl
  subst aimed
  unfold poll
  refine (clocked c).bind fun now begun => ?_
  cases begun
  refine looked.bind fun index seen => ?_
  cases well : index.health.isHealthy with
  | true => exact (said _ _ _).bind fun _ _ => rfl
  | false =>
    refine (clocked _).bind fun now ended => ?_
    cases ended
    have unwell : (session.lookBefore name deadline c).Unwell index := ⟨seen, well⟩
    split
    case h_1 told => rfl
    case h_2 pause told =>
      refine (said _ _ _).bind fun _ _ => ?_
      exact Overlooks.bind rfl fun _ _ => rest index pause unwell told

/-- A poll that leads to no more turns than there are answers needs no more of them than there are.
-/
theorem Session.needless_of_few (honest : session.backend.Honest) {interval : τ}
    {next : Talk α τ IndexDescriptor}
    (few : ((poll session name limit deadline interval next).run.run c).2.turns.length ≤
      c.turns.length + c.pending.length) :
    c.pending ≠ [] ∨
      ∃ failure, (Span.measured (holdUntil deadline session.pacing.longest c.now)).holdText =
        .error failure := by
  by_contra needed
  simp only [ne_eq, not_or, not_not, not_exists] at needed
  obtain ⟨absent, writable⟩ := needed
  obtain ⟨-, log, quiet⟩ | ⟨index, entry, pause, unwell, told, ended⟩ :=
    session.poll_cases name limit deadline interval next c
  · cases written : (Span.measured (holdUntil deadline session.pacing.longest c.now)).holdText with
    | error failure => exact writable failure written
    | ok hold =>
      obtain ⟨pending, now, asked⟩ := after_ask session.backend (healthCall name hold) c
      have looked : (session.lookBefore name deadline c).after =
          ((ask session.backend (healthCall name hold)).run.run c).2 :=
        congrArg Prod.snd (run_indexHealth_of_written session name written c)
      rw [quiet, looked, asked, absent, List.length_nil, List.length_append,
        List.length_singleton] at few
      omega
  · obtain ⟨next, awaited⟩ := (honest.looked name _ c).pending_of_ok unwell.1
    cases absent.symm.trans awaited

/-- A look that comes to an index takes one of the answers, and adds a turn. -/
theorem Looked.counts_of_ok {look : Look α τ} (looked : Looked session name look)
    {index : IndexDescriptor} (seen : look.outcome = .ok index) :
    look.after.pending.length + 1 = look.before.pending.length ∧
      look.after.turns.length = look.before.turns.length + 1 := by
  cases looked with
  | unwritten unwritten => cases seen
  | unanswered written mishap => cases seen
  | answered written awaited =>
    exact ⟨(congrArg List.length awaited).symm, List.length_append⟩

/-- A wait that may look so often begins with a poll. -/
theorem Session.pollUntil_eq_poll (session : Session α τ) (name : Name) (limit : Span τ)
    (deadline : τ) (answers : Nat) (interval : τ) :
    ∃ next, pollUntil session name limit deadline answers interval =
      poll session name limit deadline interval next := by
  cases answers with
  | zero => exact ⟨_, rfl⟩
  | succ answers => exact ⟨_, rfl⟩

/-- A wait that leads to no more turns than there are answers overlooks what is answered behind
them. It may look more often then, but does not. -/
theorem Session.overlooks_pollUntil (honest : session.backend.Honest) (answers : Nat) :
    ∀ (interval : τ) (c : Conversation α τ), c.pending.length ≤ answers →
      ((pollUntil session name limit deadline answers interval).run.run c).2.turns.length ≤
        c.turns.length + c.pending.length →
      Overlooks more (pollUntil session name limit deadline answers interval)
        (pollUntil session name limit deadline (answers + more.length) interval) c := by
  induction answers with
  | zero =>
    intro interval c bounded few
    obtain ⟨further, longer⟩ :=
      session.pollUntil_eq_poll name limit deadline (0 + more.length) interval
    rw [longer]
    refine overlooks_poll rfl (overlooks_indexHealth _ (needless_of_few honest few)) ?_
    intro index pause unwell told
    -- a look that comes to an index would have taken an answer, but none is there
    have taken : _ = c.pending.length := ((honest.looked name _ c).counts_of_ok unwell.1).1
    omega
  | succ answers inductionHypothesis =>
    intro interval c bounded few
    rw [Nat.succ_add_eq_add_succ, Nat.add_succ]
    refine overlooks_poll rfl (overlooks_indexHealth _ (needless_of_few honest few)) ?_
    intro index pause unwell told
    obtain ⟨taken, added⟩ : (session.lookBefore name deadline c).after.pending.length + 1 =
          c.pending.length ∧
        (session.lookBefore name deadline c).after.turns.length = c.turns.length + 1 :=
      (honest.looked name _ c).counts_of_ok unwell.1
    rw [pollUntil, run_poll_of_unwell unwell told] at few
    apply inductionHypothesis
    · change (session.lookBefore name deadline c).after.pending.length ≤ answers
      omega
    · apply few.trans
      change _ ≤ (session.lookBefore name deadline c).after.turns.length +
        (session.lookBefore name deadline c).after.pending.length
      omega

/-- So does a wait for the health of an index. -/
theorem Session.overlooks_wait (honest : session.backend.Honest) {timeout : Option (Span τ)}
    (few : ((waitForHealthyIndex session name timeout).run.run c).2.turns.length ≤
      c.turns.length + c.pending.length) :
    Overlooks more (waitForHealthyIndex session name timeout)
      (waitForHealthyIndex session name timeout) c := by
  have clocked : ∀ d : Conversation α τ, Overlooks more Talk.clock Talk.clock d := fun _ => rfl
  unfold waitForHealthyIndex at few ⊢
  refine (clocked c).bind fun now begun => ?_
  cases begun
  cases timed : (timeout.getD (.measured session.pacing.limit)).time with
  | error failure => rfl
  | ok time =>
    have counted : (c.followedBy more).pending.length = c.pending.length + more.length :=
      List.length_append
    have overlooked : Overlooks more
        (pollUntil session name (timeout.getD (.measured session.pacing.limit))
          (Seconds.add c.now time) c.pending.length session.pacing.first)
        (pollUntil session name (timeout.getD (.measured session.pacing.limit))
          (Seconds.add c.now time) (c.pending.length + more.length) session.pacing.first) c := by
      apply overlooks_pollUntil honest _ _ c (Nat.le_refl _)
      simp only [timed] at few
      exact few
    rw [← counted] at overlooked
    exact overlooked

end

/-- What it is for a wait to end after so many looks, whatever is answered. -/
structure EndsWithin (session : Session α ℚ) (name : Name) (timeout : Option (Span ℚ)) (most : Nat)
    (c : Conversation α ℚ) : Prop where
  /-- Nothing is asked but for the health of the index, and that no more often. -/
  asked : HealthAsked session name most c
    ((waitForHealthyIndex session name timeout).run.run c).2
  /-- No more requests are sent. -/
  sent : ((waitForHealthyIndex session name timeout).run.run c).2.sent.length ≤
    c.sent.length + most
  /-- No more answers are needed: where there are so many, it makes no difference to the wait how
  many more there are and what they say. -/
  overlooked : most ≤ c.pending.length → ∀ more,
    Overlooks more (waitForHealthyIndex session name timeout)
      (waitForHealthyIndex session name timeout) c

/-- Every wait over an honest backend ends after as many looks as the shortest interval fits into
its limit, and two more: whatever the limit, with positive intervals, whatever is answered and
however long that takes. -/
theorem wait_ends_after_bounded_looks (session : Session α ℚ) (honest : session.backend.Honest)
    (firstPositive : 0 < session.pacing.first) (longestPositive : 0 < session.pacing.longest)
    (name : Name) {timeout : Option (Span ℚ)} {limit : ℚ}
    (timed : (timeout.getD (.measured session.pacing.limit)).time = .ok limit)
    (c : Conversation α ℚ) (delayed : ∀ next ∈ c.pending, 0 ≤ next.delay) :
    EndsWithin session name timeout
      (2 + ⌊max limit 0 / min session.pacing.first session.pacing.longest⌋₊) c := by
  obtain ⟨rounds, last, waited⟩ := honest.waited timed name c
  obtain ⟨log, quiet⟩ := waited.quiet
  have bounded := waited.length_polls_le honest firstPositive longestPositive delayed
  obtain ⟨turns, since, few, ofHealth⟩ := waited.polled.healthAsked honest
  have ended : Since session c turns ((waitForHealthyIndex session name timeout).run.run c).2 := by
    rw [quiet]
    exact Since.undisturbed session c turns _ log _ _ since
  have asked : HealthAsked session name _ c
      ((waitForHealthyIndex session name timeout).run.run c).2 :=
    ⟨turns, ended, few.trans bounded, ofHealth⟩
  refine ⟨asked, asked.length_sent_le, fun enough more => overlooks_wait honest ?_⟩
  rw [ended.turns, List.length_append]
  omega

/-- A wait whose limit does not hold the shortest interval ends after two looks, and takes them. -/
theorem red_then_green_ends_after_two_looks :
    let session := unhurried (Client.Elasticsearch.backend Client.Elasticsearch.errorKinds)
    let timeout := some (.measured (9 / 100))
    (0 < session.pacing.first ∧ 0 < session.pacing.longest ∧
      ∀ next ∈ redThenGreen.pending, 0 ≤ next.delay) ∧
    EndsWithin session (.str "pages") timeout 2 redThenGreen ∧
    2 ≤ redThenGreen.pending.length ∧
    ((waitForHealthyIndex session (.str "pages") timeout).run.run redThenGreen).2.sent.length =
      2 := by
  intro session timeout
  have first : 0 < session.pacing.first := show (0 : ℚ) < 1 / 10 by norm_num
  have longest : 0 < session.pacing.longest := show (0 : ℚ) < 2 by norm_num
  have delayed : ∀ next ∈ redThenGreen.pending, 0 ≤ next.delay := by
    simp [redThenGreen, Conversation.start]
  have fits : 2 + ⌊max (9 / 100 : ℚ) 0 / min session.pacing.first session.pacing.longest⌋₊ = 2 := by
    change 2 + ⌊max (9 / 100 : ℚ) 0 / min (1 / 10) 2⌋₊ = 2
    norm_num
  refine ⟨⟨first, longest, delayed⟩, ?_, Nat.le_refl 2, by decide +kernel⟩
  rw [← fits]
  exact wait_ends_after_bounded_looks session (Client.Elasticsearch.backend_honest _) first longest
    (.str "pages") rfl redThenGreen delayed

end EngineGateway
