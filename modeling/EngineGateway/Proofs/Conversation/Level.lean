import EngineGateway.Session.Conversation

/-!
# Talks that do not look back

Two conversations are level if the same answers are to come in both, their clocks agree, and both
connections are open or both are closed. They may differ in everything that happened so far and in
what is remembered. A talk is oblivious if from level conversations it comes to the same outcome,
adds the same turns and requests to both, and leaves them level again, with what was remembered
before it. It may be asked of what is remembered that both sides know something.

A connection that was closed for good carries nothing. A talk that neither sleeps nor closes the
connection then sends nothing and takes no time; such a talk is called restful.
-/

namespace EngineGateway.Talk

variable {α τ β γ : Type}

/-- Conversations in which the same is to come. -/
structure Level (c d : Conversation α τ) : Prop where
  pending : c.pending = d.pending
  now : c.now = d.now
  closed : c.closed = d.closed

/-- A conversation goes on from another by some turns and requests. -/
structure Added (turns : List Turn) (requests : List Request) (c after : Conversation α τ) :
    Prop where
  turns : after.turns = c.turns ++ turns
  sent : after.sent = c.sent ++ requests

/-- Whether a connection carries nothing any more. -/
def Shut (backend : Backend α) (c : Conversation α τ) : Prop :=
  (backend.closesForGood && c.closed) = true

/-- What comes of a talk in two conversations is the same. -/
structure Parallel (backend : Backend α) (restful : Prop) (c d : Conversation α τ)
    (first second : Except Failure β × Conversation α τ) : Prop where
  outcome : first.1 = second.1
  level : Level first.2 second.2
  /-- The same is asked and sent, and it is not the question who the engine is. -/
  added : ∃ turns requests, Added turns requests c first.2 ∧ Added turns requests d second.2 ∧
    (∀ turn ∈ turns, turn.call ≠ .info) ∧ (restful → Shut backend c → requests = [])
  /-- What was remembered is remembered. -/
  memory : first.2.memory = c.memory ∧ second.2.memory = d.memory
  /-- Over a connection that was closed for good no time passes. -/
  rests : restful → Shut backend c → first.2.now = c.now ∧ first.2.closed = c.closed

/-- A talk comes to the same in level conversations, if something is known in both. -/
def Oblivious (backend : Backend α) (restful : Prop) (knowing : Memory → Prop)
    (talk : Talk α τ β) : Prop :=
  ∀ c d, Level c d → knowing c.memory → knowing d.memory →
    Parallel backend restful c d (talk.run.run c) (talk.run.run d)

/-- Nothing is added to a conversation by what leaves its turns and requests alone. -/
theorem Added.nothing {c after : Conversation α τ} (turns : after.turns = c.turns)
    (sent : after.sent = c.sent) : Added [] [] c after :=
  ⟨by rw [turns, List.append_nil], by rw [sent, List.append_nil]⟩

/-- What is added in two parts is added in a row. -/
theorem Added.trans {turns later : List Turn} {requests others : List Request}
    {c middle after : Conversation α τ} (first : Added turns requests c middle)
    (second : Added later others middle after) :
    Added (turns ++ later) (requests ++ others) c after :=
  ⟨by rw [second.turns, first.turns, List.append_assoc],
    by rw [second.sent, first.sent, List.append_assoc]⟩

namespace Parallel

variable {backend : Backend α} {restful : Prop} {c d c' d' : Conversation α τ}

/-- Where only the log changes, the same comes of a talk if the outcome is the same. -/
theorem of_log (level : Level c d) (outcome : Except Failure β) (log log' : List LogEntry) :
    Parallel backend restful c d (outcome, { c with log := log })
      (outcome, { d with log := log' }) where
  outcome := rfl
  level := ⟨level.pending, level.now, level.closed⟩
  added := ⟨[], [], .nothing rfl rfl, .nothing rfl rfl, by simp, fun _ _ => rfl⟩
  memory := ⟨rfl, rfl⟩
  rests _ _ := ⟨rfl, rfl⟩

/-- Where a turn is added and nothing is sent. -/
theorem of_turn (level : Level c d) (turn : Turn) (other : turn.call ≠ .info) :
    Parallel backend restful c d (turn.reply, { c with turns := c.turns ++ [turn] })
      (turn.reply, { d with turns := d.turns ++ [turn] }) where
  outcome := rfl
  level := ⟨level.pending, level.now, level.closed⟩
  added := ⟨[turn], [], ⟨rfl, (List.append_nil _).symm⟩, ⟨rfl, (List.append_nil _).symm⟩,
    List.forall_mem_singleton.2 other, fun _ _ => rfl⟩
  memory := ⟨rfl, rfl⟩
  rests _ _ := ⟨rfl, rfl⟩

/-- Where a turn is added and a request was sent, over a connection that carries it. -/
theorem of_exchange (unshut : ¬Shut backend c) (turn : Turn) (other : turn.call ≠ .info)
    (request : Request) {pending pending' : List (Timed α τ)} {now now' : τ}
    (level : Level { c with pending, now } { d with pending := pending', now := now' }) :
    Parallel backend restful c d
      (turn.reply, { c with
        pending, now, sent := c.sent ++ [request], turns := c.turns ++ [turn] })
      (turn.reply, { d with
        pending := pending', now := now', sent := d.sent ++ [request]
        turns := d.turns ++ [turn] }) where
  outcome := rfl
  level := ⟨level.pending, level.now, level.closed⟩
  added := ⟨[turn], [request], ⟨rfl, rfl⟩, ⟨rfl, rfl⟩, List.forall_mem_singleton.2 other,
    fun _ shut => absurd shut unshut⟩
  memory := ⟨rfl, rfl⟩
  rests _ shut := absurd shut unshut

/-- What comes of two talks in a row is the same if the same comes of each of them. -/
theorem trans {earlier earlier' : Except Failure γ × Conversation α τ}
    {first second : Except Failure β × Conversation α τ}
    (before : Parallel backend restful c d earlier earlier')
    (behind : Parallel backend restful earlier.2 earlier'.2 first second) :
    Parallel backend restful c d first second where
  outcome := behind.outcome
  level := behind.level
  added := by
    obtain ⟨turns, requests, added, added', others, none⟩ := before.added
    obtain ⟨later, further, more, more', laterOthers, laterNone⟩ := behind.added
    refine ⟨turns ++ later, requests ++ further, added.trans more, added'.trans more', ?_, ?_⟩
    · exact fun turn member => (List.mem_append.1 member).elim (others turn) (laterOthers turn)
    · intro quiet shut
      have shutBehind : Shut backend earlier.2 := by
        rw [Shut, (before.rests quiet shut).2]
        exact shut
      rw [none quiet shut, laterNone quiet shutBehind, List.append_nil]
  memory := ⟨behind.memory.1.trans before.memory.1, behind.memory.2.trans before.memory.2⟩
  rests := by
    intro quiet shut
    obtain ⟨now, closed⟩ := before.rests quiet shut
    have shutBehind : Shut backend earlier.2 := by
      rw [Shut, closed]
      exact shut
    obtain ⟨later, closedBehind⟩ := behind.rests quiet shutBehind
    exact ⟨later.trans now, closedBehind.trans closed⟩

end Parallel

namespace Oblivious

variable {backend : Backend α} {restful : Prop} {knowing : Memory → Prop}

/-- A talk that leaves a conversation as it is and comes to the same outcome in level ones. -/
theorem of_unchanged {talk : Talk α τ β}
    (same : ∀ c d, Level c d → knowing c.memory → knowing d.memory →
      ∃ outcome, talk.run.run c = (outcome, c) ∧ talk.run.run d = (outcome, d)) :
    Oblivious backend restful knowing talk := by
  intro c d level known known'
  obtain ⟨outcome, ran, ran'⟩ := same c d level known known'
  rw [ran, ran']
  exact .of_log level outcome c.log d.log

theorem pure (value : β) : Oblivious backend restful knowing (pure value : Talk α τ β) :=
  of_unchanged fun _ _ _ _ _ => ⟨.ok value, rfl, rfl⟩

theorem throw (failure : Failure) :
    Oblivious backend restful knowing (throw failure : Talk α τ β) :=
  of_unchanged fun _ _ _ _ _ => ⟨.error failure, rfl, rfl⟩

/-- An outcome that needs no conversation. -/
theorem outcome (result : Except Failure β) :
    Oblivious backend restful knowing (Talk.outcome result : Talk α τ β) := by
  cases result with
  | ok value => exact pure value
  | error failure => exact throw failure

/-- The clocks agree. -/
theorem clock : Oblivious backend restful knowing (Talk.clock : Talk α τ τ) := by
  refine of_unchanged fun c d level _ _ => ⟨.ok c.now, rfl, ?_⟩
  rw [level.now]
  rfl

/-- What is said goes to the log. -/
theorem say (level : LogLevel) (text : Text) :
    Oblivious backend restful knowing (Talk.say level text : Talk α τ Unit) :=
  fun _ _ even _ _ => .of_log even (.ok ()) _ _

/-- Talks in a row. -/
theorem bind {talk : Talk α τ γ} {next : γ → Talk α τ β}
    (first : Oblivious backend restful knowing talk)
    (rest : ∀ value, Oblivious backend restful knowing (next value)) :
    Oblivious backend restful knowing (talk >>= next) := by
  intro c d level known known'
  have step := first c d level known known'
  rw [run_bind, run_bind]
  cases ran : talk.run.run c with
  | mk reply after =>
    cases ran' : talk.run.run d with
    | mk reply' after' =>
      rw [ran, ran'] at step
      obtain rfl : reply = reply' := step.outcome
      cases reply with
      | ok value =>
        obtain ⟨same, same'⟩ := step.memory
        exact step.trans (rest value after after' step.level (same ▸ known) (same' ▸ known'))
      | error failure => exact step.trans (.of_log step.level _ after.log after'.log)

/-- A choice. -/
theorem ite {condition : Prop} [Decidable condition] {talk other : Talk α τ β}
    (holding : condition → Oblivious backend restful knowing talk)
    (failing : ¬condition → Oblivious backend restful knowing other) :
    Oblivious backend restful knowing (if condition then talk else other) := by
  by_cases holds : condition
  · rw [if_pos holds]
    exact holding holds
  · rw [if_neg holds]
    exact failing holds

/-- What follows an error that the engine reported. -/
theorem onReport {talk : Talk α τ β} {handle : Status → Json → Talk α τ β}
    (action : Oblivious backend restful knowing talk)
    (handled : ∀ status payload, Oblivious backend restful knowing (handle status payload)) :
    Oblivious backend restful knowing (Talk.onReport talk handle) := by
  intro c d level known known'
  have step := action c d level known known'
  rw [run_onReport, run_onReport]
  cases ran : talk.run.run c with
  | mk reply after =>
    cases ran' : talk.run.run d with
    | mk reply' after' =>
      rw [ran, ran'] at step
      obtain rfl : reply = reply' := step.outcome
      cases reply with
      | ok value => exact step
      | error failure =>
        cases failure with
        | reported status payload =>
          obtain ⟨same, same'⟩ := step.memory
          exact step.trans
            (handled status payload after after' step.level (same ▸ known) (same' ▸ known'))
        | _ => exact step

/-- Looking at a conversation, if what is done about it is the same in level ones. -/
theorem look {next : Conversation α τ → Talk α τ β} (same : ∀ c d, Level c d → next c = next d)
    (rest : ∀ c, Oblivious backend restful knowing (next c)) :
    Oblivious backend restful knowing (get >>= next) := by
  intro c d level known known'
  change Parallel backend restful c d ((next c).run.run c) ((next d).run.run d)
  rw [← same c d level]
  exact rest c c d level known known'

section

variable [Seconds τ]

/-- A sleep is as long on both sides. It is not restful. -/
theorem sleep (time : τ) : Oblivious backend False knowing (Talk.sleep time : Talk α τ Unit) := by
  intro c d level _ _
  rw [run_sleep, run_sleep]
  exact {
    outcome := rfl
    level := ⟨level.pending, congrArg (Seconds.add · time) level.now, level.closed⟩
    added := ⟨[], [], .nothing rfl rfl, .nothing rfl rfl, by simp, False.elim⟩
    memory := ⟨rfl, rfl⟩
    rests := False.elim }

/-- A call is answered alike. -/
theorem ask {call : Call} (other : call ≠ .info) :
    Oblivious backend restful knowing (Talk.ask backend call : Talk α τ call.Reply) := by
  intro c d level _ _
  cases written : backend.encode call with
  | error failure =>
    rw [run_ask, run_ask, run_replyTo_of_unwritten written, run_replyTo_of_unwritten written]
    exact .of_turn level ⟨call, _⟩ other
  | ok request =>
    cases passable : backend.closesForGood && c.closed with
    | true =>
      have passable' : (backend.closesForGood && d.closed) = true := level.closed ▸ passable
      rw [run_ask, run_ask, run_replyTo_of_shut written passable,
        run_replyTo_of_shut written passable']
      exact .of_turn level ⟨call, _⟩ other
    | false =>
      have passable' : (backend.closesForGood && d.closed) = false := level.closed ▸ passable
      have unshut : ¬Shut backend c := by
        rw [Shut, passable]
        exact Bool.false_ne_true
      cases awaited : c.pending with
      | nil =>
        rw [run_ask_of_silence written passable awaited,
          run_ask_of_silence written passable' (level.pending ▸ awaited)]
        exact .of_exchange unshut ⟨call, _⟩ other request ⟨level.pending, level.now, level.closed⟩
      | cons next rest =>
        rw [run_ask_of_answer written passable awaited,
          run_ask_of_answer written passable' (level.pending ▸ awaited)]
        exact .of_exchange unshut ⟨call, _⟩ other request
          ⟨rfl, congrArg (Seconds.add · next.delay) level.now, level.closed⟩

end

/-- Closing leaves both connections closed. It is not restful. -/
theorem close (other : Backend α) :
    Oblivious backend False knowing (Talk.close other : Talk α τ Unit) := by
  intro c d level _ _
  have closed (c : Conversation α τ) : ((Talk.close other).run.run c).2.closed = true := by
    change (!(c.closings ++ [_]).isEmpty) = true
    simp
  exact {
    outcome := rfl
    level := ⟨level.pending, level.now, (closed c).trans (closed d).symm⟩
    added := ⟨[], other.closing.toList, ⟨(List.append_nil _).symm, rfl⟩,
      ⟨(List.append_nil _).symm, rfl⟩, by simp, False.elim⟩
    memory := ⟨rfl, rfl⟩
    rests := False.elim }

end Oblivious

end EngineGateway.Talk
