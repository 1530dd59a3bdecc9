import EngineGateway.Proofs.Conversation.Event
import EngineGateway.Proofs.Conversation.Leading

/-!
# Conversations abreast

A conversation over a backend is compared with one in which the events are heard as they are. The
two are abreast if the same answers and events are still to come, the same time has passed, and the
same was said and remembered. A talk over the backend follows another over the events if from
conversations abreast both come to the same outcome and to conversations abreast, unless the script
conveyed something else or the backend could not carry a call on the way.

Whether the script conveys the events is asked of the turns behind a talk. Talks take no turns back,
so what is asked behind two talks in a row holds between them too.
-/

namespace EngineGateway.Talk

variable {α τ β γ : Type}

/-- A conversation over a backend and one over the events that have come equally far. -/
structure Abreast (events : List (Timed Event τ)) (script : List (Timed α τ))
    (c : Conversation α τ) (d : Conversation Event τ) : Prop where
  complete : script.length = events.length
  answers : c.pending = script.drop c.turns.length
  events : d.pending = events.drop c.turns.length
  now : c.now = d.now
  sleeps : c.sleeps = d.sleeps
  log : c.log = d.log
  memory : c.memory = d.memory

/-- A talk over a backend comes to what another comes to over the events. -/
structure Follows (rendering : Rendering α) (events : List (Timed Event τ))
    (script : List (Timed α τ)) (same : β → γ → Prop) (talk : Talk α τ β)
    (other : Talk Event τ γ) : Prop where
  grows : Grows talk
  abreast : ∀ c d, Abreast events script c d →
    rendering.Faithful events script (talk.run.run c).2.turns →
    Alike same (talk.run.run c).1 (other.run.run d).1 ∧
      Abreast events script (talk.run.run c).2 (other.run.run d).2

section

variable {events : List (Timed Event τ)} {script : List (Timed α τ)} {c : Conversation α τ}
  {d : Conversation Event τ}

/-- Conversations that have not begun are abreast. -/
theorem Abreast.start (complete : script.length = events.length) (now : τ) :
    Abreast events script (.start script now) (.start events now) :=
  ⟨complete, rfl, rfl, rfl, rfl, rfl, rfl⟩

/-- Equally many answers and events are still to come. -/
theorem Abreast.length_pending (abreast : Abreast events script c d) :
    c.pending.length = d.pending.length := by
  rw [abreast.answers, abreast.events, List.length_drop, List.length_drop, abreast.complete]

/-- If no answer is still to come, all were taken. -/
theorem Abreast.spent (abreast : Abreast events script c d) (awaited : c.pending = []) :
    script.length ≤ c.turns.length := by
  rw [← List.drop_eq_nil_iff, ← abreast.answers, awaited]

/-- The next answer stands in the script where the next event stands among the events. -/
theorem Abreast.next (abreast : Abreast events script c d) {answer : Timed α τ}
    {rest : List (Timed α τ)} (awaited : c.pending = answer :: rest) :
    ∃ event, events[c.turns.length]? = some event ∧ script[c.turns.length]? = some answer ∧
      d.pending = event :: events.drop (c.turns.length + 1) ∧
      rest = script.drop (c.turns.length + 1) := by
  have first := abreast.answers.symm.trans awaited
  have present : c.turns.length < script.length := by
    refine Nat.lt_of_not_le fun spent => ?_
    rw [List.drop_eq_nil_iff.2 spent] at first
    simp at first
  have happens : c.turns.length < events.length := abreast.complete ▸ present
  rw [List.drop_eq_getElem_cons present] at first
  obtain ⟨rfl, rfl⟩ := List.cons.inj first
  exact ⟨events[c.turns.length], List.getElem?_eq_getElem happens, List.getElem?_eq_getElem present,
    abreast.events.trans (List.drop_eq_getElem_cons happens), rfl⟩

end

namespace Follows

variable {rendering : Rendering α} {events : List (Timed Event τ)} {script : List (Timed α τ)}

section

variable {same : β → γ → Prop}

/-- An outcome that needs no conversation follows every outcome that it is like. -/
theorem outcome {result : Except Failure β} {other : Except Failure γ}
    (alike : Alike same result other) :
    Follows rendering events script same (Talk.outcome result) (Talk.outcome other) where
  grows _ _ := Keeps.outcome _
  abreast c d abreast _ := by cases alike with
    | value related => exact ⟨.value related, abreast⟩
    | failure akin => exact ⟨.failure akin, abreast⟩

theorem pure {v : β} {w : γ} (related : same v w) :
    Follows rendering events script same (Pure.pure v : Talk α τ β)
      (Pure.pure w : Talk Event τ γ) :=
  outcome (.value related)

theorem throw {f g : Failure} (akin : f.Akin g) :
    Follows rendering events script same (MonadExcept.throw f : Talk α τ β)
      (MonadExcept.throw g : Talk Event τ γ) :=
  outcome (.failure akin)

/-- Talks in a row follow talks in a row. Every value of the first one has to be related to some,
for else nothing is known of what comes after it. -/
theorem bind {δ ε : Type} {related : δ → ε → Prop} {talk : Talk α τ δ} {other : Talk Event τ ε}
    {next : δ → Talk α τ β} {otherNext : ε → Talk Event τ γ}
    (first : Follows rendering events script related talk other)
    (total : ∀ v, ∃ w, related v w)
    (rest : ∀ v w, related v w → Follows rendering events script same (next v) (otherNext w)) :
    Follows rendering events script same (talk >>= next) (other >>= otherNext) where
  grows turns sent := by
    refine (first.grows turns sent).bind fun v => ?_
    obtain ⟨w, holds⟩ := total v
    exact (rest v w holds).grows turns sent
  abreast c d abreast faithful := by
    rw [run_bind] at faithful
    rw [run_bind, run_bind]
    have step := first.abreast c d abreast
    cases ran : talk.run.run c with
    | mk reply after =>
      rw [ran] at step faithful
      cases otherRan : other.run.run d with
      | mk otherReply otherAfter =>
        rw [otherRan] at step
        cases reply with
        | error failure =>
          obtain ⟨alike, behind⟩ := step faithful
          cases alike with
          | failure akin => exact ⟨.failure akin, behind⟩
        | ok v =>
          -- The turns between the two talks begin those behind both, so all was well until then.
          obtain ⟨w, holds⟩ := total v
          have begins := (rest v w holds).grows.begins after
          obtain ⟨alike, behind⟩ := step (faithful.of_prefix begins)
          cases alike with
          | value related => exact (rest v _ related).abreast after otherAfter behind faithful

/-- A choice follows the same choice. -/
theorem ite {condition : Prop} [Decidable condition] {talk talk' : Talk α τ β}
    {other other' : Talk Event τ γ}
    (holding : condition → Follows rendering events script same talk other)
    (failing : ¬condition → Follows rendering events script same talk' other') :
    Follows rendering events script same (if condition then talk else talk')
      (if condition then other else other') := by
  by_cases holds : condition
  · rw [if_pos holds, if_pos holds]
    exact holding holds
  · rw [if_neg holds, if_neg holds]
    exact failing holds

/-- What follows an error that the engine reported follows the same on the other side. -/
theorem onReport {talk : Talk α τ β} {other : Talk Event τ γ}
    {handle : Status → Json → Talk α τ β} {otherHandle : Status → Json → Talk Event τ γ}
    (action : Follows rendering events script same talk other)
    (handled : ∀ status payload,
      Follows rendering events script same (handle status payload) (otherHandle status payload)) :
    Follows rendering events script same (Talk.onReport talk handle)
      (Talk.onReport other otherHandle) where
  grows turns sent := Keeps.onReport (action.grows turns sent) fun status payload =>
    (handled status payload).grows turns sent
  abreast c d abreast faithful := by
    rw [run_onReport] at faithful
    rw [run_onReport, run_onReport]
    have step := action.abreast c d abreast
    cases ran : talk.run.run c with
    | mk reply after =>
      rw [ran] at step faithful
      cases otherRan : other.run.run d with
      | mk otherReply otherAfter =>
        rw [otherRan] at step
        cases reply with
        | ok v =>
          obtain ⟨alike, behind⟩ := step faithful
          cases alike with
          | value related => exact ⟨.value related, behind⟩
        | error failure =>
          cases failure with
          | reported status payload =>
            have begins := (handled status payload).grows.begins after
            obtain ⟨alike, behind⟩ := step (faithful.of_prefix begins)
            cases alike with
            | failure akin =>
              cases akin with
              | same =>
                exact (handled status payload).abreast after otherAfter behind faithful
          | _ =>
            obtain ⟨alike, behind⟩ := step faithful
            cases alike with
            | failure akin => cases akin <;> exact ⟨.failure (by constructor), behind⟩

end

/-- Talks in a row, of which the first gives the same value on both sides. -/
theorem after {δ : Type} {same : β → γ → Prop} {talk : Talk α τ δ} {other : Talk Event τ δ}
    {next : δ → Talk α τ β} {otherNext : δ → Talk Event τ γ}
    (first : Follows rendering events script Eq talk other)
    (rest : ∀ v, Follows rendering events script same (next v) (otherNext v)) :
    Follows rendering events script same (talk >>= next) (other >>= otherNext) :=
  first.bind (fun v => ⟨v, rfl⟩) fun v _ equal => equal ▸ rest v

/-- The same outcome on both sides, and what follows if it is a value. -/
theorem outcome_bind {δ : Type} {same : β → γ → Prop} {result : Except Failure δ}
    {next : δ → Talk α τ β} {otherNext : δ → Talk Event τ γ}
    (rest : ∀ v, result = .ok v →
      Follows rendering events script same (next v) (otherNext v)) :
    Follows rendering events script same (Talk.outcome result >>= next)
      (Talk.outcome result >>= otherNext) := by
  cases result with
  | ok v => exact rest v rfl
  | error failure => exact throw (.same failure)

/-- What is said on both sides is the same. -/
theorem say (level : LogLevel) (text : Text) :
    Follows rendering events script Eq (Talk.say level text : Talk α τ Unit)
      (Talk.say level text : Talk Event τ Unit) where
  grows _ _ _ grown := grown
  abreast c d abreast _ := by
    refine ⟨.value rfl, ?_⟩
    rw [run_say, run_say]
    exact ⟨abreast.complete, abreast.answers, abreast.events, abreast.now, abreast.sleeps,
      by simp [abreast.log], abreast.memory⟩

/-- Both sides sleep alike. -/
theorem sleep [Seconds τ] (time : τ) :
    Follows rendering events script Eq (Talk.sleep time : Talk α τ Unit)
      (Talk.sleep time : Talk Event τ Unit) where
  grows _ _ _ grown := grown
  abreast c d abreast _ := by
    refine ⟨.value rfl, ?_⟩
    rw [run_sleep, run_sleep]
    exact ⟨abreast.complete, abreast.answers, abreast.events, by simp [abreast.now],
      by simp [abreast.sleeps], abreast.log, abreast.memory⟩

/-- The clocks agree. -/
theorem clock : Follows rendering events script Eq (Talk.clock : Talk α τ τ)
    (Talk.clock : Talk Event τ τ) where
  grows _ _ _ grown := grown
  abreast _ _ abreast _ := ⟨.value abreast.now, abreast⟩

/-- Looking at a conversation, if what is done about it is followed from all that are abreast. -/
theorem look {same : β → γ → Prop} {next : Conversation α τ → Talk α τ β}
    {otherNext : Conversation Event τ → Talk Event τ γ} (grows : ∀ c, Grows (next c))
    (rest : ∀ c d, Abreast events script c d →
      Follows rendering events script same (next c) (otherNext d)) :
    Follows rendering events script same (get >>= next) (get >>= otherNext) where
  grows turns sent := by
    intro c grown
    exact grows c turns sent c grown
  abreast c d abreast := (rest c d abreast).abreast c d abreast

/-- Both sides remember alike. -/
theorem remember (change : Memory → Memory) :
    Follows rendering events script Eq
      (modify fun c => { c with memory := change c.memory } : Talk α τ Unit)
      (modify fun d => { d with memory := change d.memory } : Talk Event τ Unit) where
  grows _ _ _ grown := grown
  abreast _ _ abreast _ := ⟨.value rfl, ⟨abreast.complete, abreast.answers, abreast.events,
    abreast.now, abreast.sleeps, abreast.log, congrArg change abreast.memory⟩⟩

/-- What a backend carried it could write, and the connection was open. -/
theorem carried_ask [Seconds τ] {call : Call} (common : call.Common) {c : Conversation α τ}
    (carried : rendering.carries ⟨call, ((Talk.ask rendering.backend call).run.run c).1⟩) :
    ∃ request, rendering.backend.encode call = .ok request ∧
      (rendering.backend.closesForGood && c.closed) = false := by
  obtain ⟨request, written⟩ := rendering.written call _ common carried
  refine ⟨request, written, ?_⟩
  cases shut : rendering.backend.closesForGood && c.closed with
  | false => rfl
  | true =>
    rw [run_ask, run_replyTo_of_shut written shut] at carried
    simp [rendering.refused call carried] at shut

/-- A call that every backend can make has replies that match on both sides. -/
theorem ask [Seconds τ] {call : Call} (common : call.Common) :
    Follows rendering events script call.want.Matches
      (Talk.ask rendering.backend call : Talk α τ call.Reply)
      (Talk.ask plain call : Talk Event τ call.Reply) where
  grows := grows_ask rendering.backend call
  abreast c d abreast faithful := by
    have behind : ((Talk.ask rendering.backend call).run.run c).2.turns =
        c.turns ++ [⟨call, ((Talk.ask rendering.backend call).run.run c).1⟩] := by
      obtain ⟨pending, now, asked⟩ := after_ask rendering.backend call c
      rw [asked]
    have carried := faithful.carried ⟨call, ((Talk.ask rendering.backend call).run.run c).1⟩
      (by rw [behind]; simp)
    obtain ⟨request, written, passable⟩ := carried_ask common carried
    have heard : plain.encode call = .ok (.named "" []) := rfl
    have audible : (plain.closesForGood && d.closed) = false := rfl
    cases awaited : c.pending with
    | nil =>
      have spent := abreast.spent awaited
      have quiet : d.pending = [] := by
        rw [abreast.events, List.drop_eq_nil_iff, ← abreast.complete]
        exact spent
      rw [run_ask_of_silence written passable awaited, run_ask_of_silence heard audible quiet]
      refine ⟨.failure rendering.silent, abreast.complete, ?_, ?_, abreast.now, abreast.sleeps,
        abreast.log, abreast.memory⟩
      · simp [awaited, Nat.le_succ_of_le spent]
      · simp [quiet, ← abreast.complete, Nat.le_succ_of_le spent]
    | cons next rest =>
      obtain ⟨event, happens, gives, hears, remaining⟩ := abreast.next awaited
      obtain ⟨delayed, conveyed⟩ := faithful.told c.turns.length
        ⟨call, ((Talk.ask rendering.backend call).run.run c).1⟩ event next
        (by rw [behind]; simp) happens gives
      rw [run_ask_of_answer written passable awaited, run_ask_of_answer heard audible hears]
      refine ⟨rendering.heard call _ _ _ common carried conveyed, abreast.complete, ?_, ?_, ?_,
        abreast.sleeps, abreast.log, abreast.memory⟩
      · simp [remaining]
      · simp
      · simp [abreast.now, delayed]

/-- Closing the connection is no turn of the conversation. -/
theorem close (backend : Backend α) (other : Backend Event) :
    Follows rendering events script Eq (Talk.close backend : Talk α τ Unit)
      (Talk.close other : Talk Event τ Unit) where
  grows := grows_close backend
  abreast _ _ abreast _ := ⟨.value rfl, ⟨abreast.complete, abreast.answers, abreast.events,
    abreast.now, abreast.sleeps, abreast.log, abreast.memory⟩⟩

end Follows

end EngineGateway.Talk
