import EngineGateway.Proofs.Session.Look

/-!
# The polls of a wait

A wait is a row of looks with a sleep after each but the last. `Polled` says how such a row goes
from one look to the next, and nothing about why: when the wait ends and how long it sleeps is
decided from the looks (`Decided`, `Concluded`). Every wait over an honest backend is such a row.
The induction is on the answers that are to come, of which each look that comes to an index takes
one.
-/

namespace EngineGateway

open Session Talk

variable {α τ : Type}

/-- A look after which a session slept for a pause. The interval is what the pause may last where
the deadline is far. -/
structure Round (α τ : Type) where
  look : Look α τ
  interval : τ
  pause : τ

section

variable [Seconds τ]

/-- The conversation in which something was said after a look and then slept. -/
def Look.rested (look : Look α τ) (entry : LogEntry) (pause : τ) : Conversation α τ :=
  { look.after with
    log := look.after.log ++ [entry]
    sleeps := look.after.sleeps ++ [pause]
    now := Seconds.add look.after.now pause }

/-- A row of rounds and the look behind them, from a conversation on. Each look is taken where the
sleep before it ended. -/
inductive Polled (session : Session α τ) (name : Name) :
    Conversation α τ → List (Round α τ) → Look α τ → Prop where
  | last (hold : τ) (c : Conversation α τ) : Polled session name c [] (session.look name hold c)
  | round {rounds : List (Round α τ)} {last : Look α τ} (hold interval pause : τ)
      (entry : LogEntry) (c : Conversation α τ)
      (rest : Polled session name ((session.look name hold c).rested entry pause) rounds last) :
      Polled session name c (⟨session.look name hold c, interval, pause⟩ :: rounds) last

/-- All looks of a row, in their order. -/
def polls (rounds : List (Round α τ)) (last : Look α τ) : List (Look α τ) :=
  rounds.map Round.look ++ [last]

section

variable {session : Session α τ} {name : Name} {c : Conversation α τ} {rounds : List (Round α τ)}
  {last : Look α τ}

/-- A row begins with a look in the conversation that it goes on from. -/
theorem Polled.begins (polled : Polled session name c rounds last) :
    ∃ look later, polls rounds last = look :: later ∧ look.before = c := by
  cases polled with
  | last hold c => exact ⟨_, [], rfl, rfl⟩
  | round hold interval pause entry c rest => exact ⟨_, _, rfl, rfl⟩

/-- The last look of a row begins where the row does, or where the sleep of some round ended. -/
theorem Polled.last_begins (polled : Polled session name c rounds last) :
    (rounds = [] ∧ last.before = c) ∨
      ∃ round ∈ rounds, ∃ entry, last.before = round.look.rested entry round.pause := by
  induction polled with
  | last hold c => exact Or.inl ⟨rfl, rfl⟩
  | round hold interval pause entry c rest inductionHypothesis =>
    obtain ⟨-, begun⟩ | ⟨round, member, entry, begun⟩ := inductionHypothesis
    · exact Or.inr ⟨_, List.mem_cons_self, entry, begun⟩
    · exact Or.inr ⟨round, List.mem_cons_of_mem _ member, entry, begun⟩

/-- Behind each sleep the row goes on where the sleep ended. -/
theorem Polled.resumes (polled : Polled session name c rounds last) :
    ∀ before round after, rounds = before ++ round :: after →
      ∃ entry, Polled session name (round.look.rested entry round.pause) after last := by
  induction polled with
  | last hold c =>
    intro before round after split
    exact absurd split (by simp)
  | round hold interval pause entry c rest inductionHypothesis =>
    intro before round after split
    cases before with
    | nil =>
      cases split
      exact ⟨entry, rest⟩
    | cons first before =>
      rw [List.cons_append, List.cons.injEq] at split
      exact inductionHypothesis before round after split.2

/-- Every poll of a row over an honest backend goes as looks go. -/
theorem Polled.looked (polled : Polled session name c rounds last)
    (honest : session.backend.Honest) : ∀ look ∈ polls rounds last, Looked session name look := by
  induction polled with
  | last hold c =>
    intro look member
    cases List.mem_singleton.1 member
    exact honest.looked name hold c
  | round hold interval pause entry c rest inductionHypothesis =>
    intro look member
    obtain rfl | later := List.mem_cons.1 member
    · exact honest.looked name hold c
    · exact inductionHypothesis look later

/-- The sleeps of a row are its pauses. -/
theorem Polled.sleeps (polled : Polled session name c rounds last)
    (honest : session.backend.Honest) :
    last.after.sleeps = c.sleeps ++ rounds.map Round.pause := by
  induction polled with
  | last hold c =>
    rw [List.map_nil, List.append_nil]
    exact (honest.looked name hold c).sleeps
  | round hold interval pause entry c rest inductionHypothesis =>
    have slept : ((session.look name hold c).rested entry pause).sleeps = c.sleeps ++ [pause] :=
      congrArg (· ++ [pause]) (honest.looked name hold c).sleeps
    rw [inductionHypothesis, slept, List.map_cons, List.append_assoc, List.singleton_append]

/-- Before each poll of a row only answers are to come that were to come before the row. -/
theorem Polled.pending_suffix (polled : Polled session name c rounds last)
    (honest : session.backend.Honest) :
    ∀ look ∈ polls rounds last, look.before.pending <:+ c.pending := by
  induction polled with
  | last hold c =>
    intro look member
    cases List.mem_singleton.1 member
    exact List.suffix_refl _
  | round hold interval pause entry c rest inductionHypothesis =>
    intro look member
    obtain rfl | later := List.mem_cons.1 member
    · exact List.suffix_refl _
    · exact (inductionHypothesis look later).trans (honest.looked name hold c).pending_suffix

end

/-- A look lets the engine hold the question back for as long as may be so shortly before the
deadline. -/
def Look.Aimed (look : Look α τ) (session : Session α τ) (deadline : τ) : Prop :=
  look.hold = holdUntil deadline session.pacing.longest look.before.now

/-- A round in which all is as it has to be for the wait to go on. -/
structure Round.Decided (round : Round α τ) (session : Session α τ) (deadline : τ) : Prop where
  aimed : round.look.Aimed session deadline
  unwell : ∃ index, round.look.Unwell index
  verdict : verdict deadline round.interval round.look.after.now = .rest round.pause

/-- What a wait comes to, by the look that ends it. -/
inductive Concluded (limit : Span τ) (deadline : τ) (last : Look α τ) :
    Except Failure IndexDescriptor → Prop where
  | failed {failure : Failure} (troubled : last.outcome = .error failure) :
      Concluded limit deadline last (.error failure)
  | healthy {index : IndexDescriptor} (healthy : last.Healthy index) :
      Concluded limit deadline last (.ok index)
  | expired {index : IndexDescriptor} (unwell : last.Unwell index) {interval : τ}
      (late : verdict deadline interval last.after.now = .expired) :
      Concluded limit deadline last (.error (.healthTimeout index.name limit.text index.health))

/-- The intervals of some rounds, from the first on: each follows from the one before it. -/
def Paced (session : Session α τ) : τ → List (Round α τ) → Prop
  | _, [] => True
  | interval, round :: rounds =>
    round.interval = interval ∧ Paced session (nextInterval session.pacing.longest interval) rounds

/-- A row of looks is the course of a wait that comes to a result. -/
structure Waited (session : Session α τ) (name : Name) (limit : Span τ) (deadline first : τ)
    (c : Conversation α τ) (result : Except Failure IndexDescriptor × Conversation α τ)
    (rounds : List (Round α τ)) (last : Look α τ) : Prop where
  polled : Polled session name c rounds last
  paced : Paced session first rounds
  decided : ∀ round ∈ rounds, round.Decided session deadline
  aimed : last.Aimed session deadline
  concluded : Concluded limit deadline last result.1
  /-- After the last look nothing happens but that something is said. -/
  quiet : ∃ log, result.2 = { last.after with log := log }

/-- The look that a wait takes: the question may be held back until the deadline, but not for longer
than the longest interval. -/
def Session.lookBefore (session : Session α τ) (name : Name) (deadline : τ)
    (c : Conversation α τ) : Look α τ :=
  session.look name (holdUntil deadline session.pacing.longest c.now) c

/-- A poll is a look that ends the wait, or one after which the session sleeps and goes on. -/
theorem Session.poll_cases (session : Session α τ) (name : Name) (limit : Span τ)
    (deadline interval : τ) (next : Talk α τ IndexDescriptor) (c : Conversation α τ) :
    let look := session.lookBefore name deadline c
    let ending := (poll session name limit deadline interval next).run.run c
    (Concluded limit deadline look ending.1 ∧ ∃ log, ending.2 = { look.after with log := log }) ∨
    ∃ index entry pause, look.Unwell index ∧
      verdict deadline interval look.after.now = .rest pause ∧
      ending = next.run.run (look.rested entry pause) := by
  intro look ending
  have clocked : ∀ d : Conversation α τ, (Talk.clock : Talk α τ τ).run.run d = (.ok d.now, d) :=
    fun _ => rfl
  have looked : (indexHealth session name (some (.measured (holdUntil deadline
      session.pacing.longest c.now)))).run.run c = (look.outcome, look.after) := rfl
  have begun : ending = (poll session name limit deadline interval next).run.run c := rfl
  unfold poll at begun
  simp only [run_bind, clocked, looked] at begun
  cases seen : look.outcome with
  | error failure =>
    rw [seen] at begun
    refine Or.inl ⟨?_, look.after.log, ?_⟩
    · rw [begun]
      exact .failed seen
    · rw [begun]
  | ok index =>
    simp only [seen] at begun
    by_cases well : index.health.isHealthy = true
    · simp only [well, if_true] at begun
      refine Or.inl ⟨?_, ?_⟩
      · rw [begun]
        exact .healthy ⟨seen, well⟩
      · rw [begun]
        exact ⟨_, rfl⟩
    · rw [Bool.not_eq_true] at well
      simp only [well, Bool.false_eq_true, if_false, run_bind, clocked] at begun
      cases told : verdict deadline interval look.after.now with
      | expired =>
        rw [told] at begun
        refine Or.inl ⟨?_, look.after.log, ?_⟩
        · rw [begun]
          exact .expired ⟨seen, well⟩ told
        · rw [begun]
          rfl
      | rest pause =>
        rw [told] at begun
        exact Or.inr ⟨index, _, pause, ⟨seen, well⟩, rfl, begun⟩

section

variable {session : Session α τ} {name : Name} {limit : Span τ} {deadline interval : τ}
  {c : Conversation α τ} {result : Except Failure IndexDescriptor × Conversation α τ}

/-- The row of a wait that ends with its first look. -/
theorem Waited.single
    (concluded : Concluded limit deadline (session.lookBefore name deadline c) result.1)
    (quiet : ∃ log, result.2 = { (session.lookBefore name deadline c).after with log := log }) :
    Waited session name limit deadline interval c result []
      (session.lookBefore name deadline c) where
  polled := .last _ c
  paced := trivial
  decided := fun _ absent => absurd absent List.not_mem_nil
  aimed := rfl
  concluded := concluded
  quiet := quiet

/-- The row of a wait that goes on after its first look. -/
theorem Waited.cons {rounds : List (Round α τ)} {last : Look α τ} {index : IndexDescriptor}
    {entry : LogEntry} {pause : τ} (unwell : (session.lookBefore name deadline c).Unwell index)
    (told : verdict deadline interval (session.lookBefore name deadline c).after.now = .rest pause)
    (rest : Waited session name limit deadline (nextInterval session.pacing.longest interval)
      ((session.lookBefore name deadline c).rested entry pause) result rounds last) :
    Waited session name limit deadline interval c result
      (⟨session.lookBefore name deadline c, interval, pause⟩ :: rounds) last where
  polled := .round _ interval pause entry c rest.polled
  paced := ⟨rfl, rest.paced⟩
  decided := List.forall_mem_cons.2 ⟨⟨rfl, ⟨index, unwell⟩, told⟩, rest.decided⟩
  aimed := rest.aimed
  concluded := rest.concluded
  quiet := rest.quiet

section

variable {first : τ} {rounds : List (Round α τ)} {last : Look α τ}

/-- Every look of a wait is aimed at its deadline. -/
theorem Waited.aimed_of_mem
    (waited : Waited session name limit deadline first c result rounds last) :
    ∀ look ∈ polls rounds last, look.Aimed session deadline := by
  intro look member
  obtain earlier | final := List.mem_append.1 member
  · obtain ⟨round, among, rfl⟩ := List.mem_map.1 earlier
    exact (waited.decided round among).aimed
  · rw [List.mem_singleton.1 final]
    exact waited.aimed

end

/-- Over an honest backend every wait is a row of looks, if it may look as often as there are
answers to come. -/
theorem Backend.Honest.waited_pollUntil (honest : session.backend.Honest) (answers : Nat) :
    ∀ (interval : τ) (c : Conversation α τ), c.pending.length ≤ answers →
      ∃ rounds last, Waited session name limit deadline interval c
        ((pollUntil session name limit deadline answers interval).run.run c) rounds last := by
  induction answers with
  | zero =>
    intro interval c bounded
    obtain ⟨concluded, quiet⟩ | ⟨index, entry, pause, unwell, told, ended⟩ :=
      session.poll_cases name limit deadline interval (throw session.backend.silence) c
    · exact ⟨[], _, .single concluded quiet⟩
    · -- a look that comes to an index would have taken an answer, but none is there
      obtain ⟨next, awaited⟩ := (honest.looked name _ c).pending_of_ok unwell.1
      have absent : c.pending = [] := List.length_eq_zero_iff.1 (Nat.le_zero.1 bounded)
      cases absent.symm.trans awaited
  | succ answers inductionHypothesis =>
    intro interval c bounded
    obtain ⟨concluded, quiet⟩ | ⟨index, entry, pause, unwell, told, ended⟩ :=
      session.poll_cases name limit deadline interval (pollUntil session name limit deadline answers
        (nextInterval session.pacing.longest interval)) c
    · exact ⟨[], _, .single concluded quiet⟩
    · obtain ⟨next, awaited⟩ := (honest.looked name _ c).pending_of_ok unwell.1
      have counted : c.pending.length =
          (session.lookBefore name deadline c).after.pending.length + 1 :=
        congrArg List.length awaited
      have fewer : (session.lookBefore name deadline c).after.pending.length ≤ answers := by
        omega
      obtain ⟨rounds, last, waited⟩ := inductionHypothesis
        (nextInterval session.pacing.longest interval)
        ((session.lookBefore name deadline c).rested entry pause) fewer
      refine ⟨⟨session.lookBefore name deadline c, interval, pause⟩ :: rounds, last, ?_⟩
      rw [pollUntil, ended]
      exact .cons unwell told waited

/-- A wait looks until its deadline, at most once more than there are answers to come. -/
theorem Session.run_waitForHealthyIndex {timeout : Option (Span τ)} {time : τ}
    (timed : (timeout.getD (.measured session.pacing.limit)).time = .ok time) :
    (waitForHealthyIndex session name timeout).run.run c =
      (pollUntil session name (timeout.getD (.measured session.pacing.limit))
        (Seconds.add c.now time) c.pending.length session.pacing.first).run.run c := by
  unfold waitForHealthyIndex
  simp only [timed]
  rfl

/-- A wait for the health of an index is a row of looks. -/
theorem Backend.Honest.waited (honest : session.backend.Honest) {timeout : Option (Span τ)}
    {time : τ} (timed : (timeout.getD (.measured session.pacing.limit)).time = .ok time)
    (name : Name) (c : Conversation α τ) :
    ∃ rounds last, Waited session name (timeout.getD (.measured session.pacing.limit))
      (Seconds.add c.now time) session.pacing.first c
      ((waitForHealthyIndex session name timeout).run.run c) rounds last := by
  rw [Session.run_waitForHealthyIndex timed]
  exact honest.waited_pollUntil c.pending.length _ c (Nat.le_refl _)

end

end

end EngineGateway
