import EngineGateway.Backend.Basic
import EngineGateway.Capabilities
import EngineGateway.Session.LogEntry
import EngineGateway.Session.Seconds

/-!
# Conversations

The course of a session's exchange with an engine: the answers that are still to come, each with the
time that passes until it arrives, and everything that can be observed of what happened so far. A
session remembers one thing about the engine, its version, with what follows from it.

`Talk` is a computation in a conversation. A failure ends it, and what was asked and said before the
failure stays.
-/

namespace EngineGateway

/-- An answer and the time until it arrives. -/
structure Timed (α τ : Type) where
  answer : α
  delay : τ

/-- One turn of a conversation: what was asked of the engine, and what came of it. -/
structure Turn where
  call : Call
  reply : Except Failure call.Reply

/-- What a session knows about the engine. -/
structure Memory where
  version : Option Version := none
  capabilities : Option Capabilities := none
  deriving Repr, DecidableEq

/-- The state of a session's exchange with an engine. -/
structure Conversation (α τ : Type) where
  /-- The answers to come. -/
  pending : List (Timed α τ)
  /-- The time on the clock. -/
  now : τ
  /-- All requests so far. -/
  sent : List Request := []
  /-- All sleeps so far. -/
  sleeps : List τ := []
  /-- All that was said so far. -/
  log : List LogEntry := []
  /-- How many requests had been sent each time the connection was closed, that of the closing
  itself included. -/
  closings : List Nat := []
  memory : Memory := {}
  /-- All turns so far, those included in which no request could be sent. -/
  turns : List Turn := []

/-- A conversation in which nothing has been said yet. -/
def Conversation.start (answers : List (Timed α τ)) (now : τ) : Conversation α τ :=
  { pending := answers, now }

/-- Whether the connection was closed. -/
def Conversation.closed (c : Conversation α τ) : Bool := !c.closings.isEmpty

/-- A computation in a conversation. -/
abbrev Talk (α τ β : Type) : Type := ExceptT Failure (StateM (Conversation α τ)) β

namespace Talk

variable {α τ β : Type}

/-- An outcome that needs no conversation. -/
def outcome (result : Except Failure β) : Talk α τ β :=
  match result with
  | .ok value => pure value
  | .error failure => throw failure

/-- Says something. -/
def say (level : LogLevel) (text : Text) : Talk α τ Unit :=
  modify fun c => { c with log := c.log ++ [⟨level, text⟩] }

/-- The time on the clock. -/
def clock : Talk α τ τ := return (← get).now

/-- Lets time pass. -/
def sleep [Seconds τ] (time : τ) : Talk α τ Unit :=
  modify fun c => { c with sleeps := c.sleeps ++ [time], now := Seconds.add c.now time }

/-- Sends a request and takes the next answer; without one the backend's silence is all there is. -/
def exchange [Seconds τ] (backend : Backend α) (request : Request) : Talk α τ α := do
  let c ← get
  match c.pending with
  | [] =>
    set { c with sent := c.sent ++ [request] }
    throw backend.silence
  | next :: rest =>
    set { c with
      sent := c.sent ++ [request]
      pending := rest
      now := Seconds.add c.now next.delay }
    return next.answer

/-- What an engine replies to a call. A call that cannot be written sends nothing, and neither does
a connection that was closed for good. -/
def replyTo [Seconds τ] (backend : Backend α) (call : Call) : Talk α τ call.Reply := do
  let request ← outcome (backend.encode call)
  if backend.closesForGood && (← get).closed then throw .closed
  let answer ← exchange backend request
  outcome (backend.decode call answer)

/-- Asks an engine, and keeps in mind what came of it. -/
def ask [Seconds τ] (backend : Backend α) (call : Call) : Talk α τ call.Reply := do
  let reply ← ExceptT.lift (replyTo backend call).run
  modify fun c => { c with turns := c.turns ++ [⟨call, reply⟩] }
  outcome reply

/-- Closes the connection. Closing it again is no fault. -/
def close (backend : Backend α) : Talk α τ Unit :=
  modify fun c =>
    let sent := c.sent ++ backend.closing.toList
    { c with sent, closings := c.closings ++ [sent.length] }

/-- Goes on with `handle` after an error that the engine reported. -/
def onReport (action : Talk α τ β) (handle : Status → Json → Talk α τ β) : Talk α τ β :=
  tryCatch action fun failure =>
    match failure with
    | .reported status payload => handle status payload
    | other => throw other

/-! ### What each step leaves behind -/

/-- A failure on the way out changes nothing. -/
theorem run_outcome_error (failure : Failure) (c : Conversation α τ) :
    (outcome (.error failure) : Talk α τ β).run.run c = (.error failure, c) := rfl

/-- A value on the way out changes nothing. -/
theorem run_outcome_ok (value : β) (c : Conversation α τ) :
    (outcome (.ok value) : Talk α τ β).run.run c = (.ok value, c) := rfl

/-- What is said is added to the log, and nothing else changes. -/
theorem run_say (level : LogLevel) (text : Text) (c : Conversation α τ) :
    (say level text : Talk α τ Unit).run.run c =
      (.ok (), { c with log := c.log ++ [⟨level, text⟩] }) := rfl

/-- A sleep is recorded and moves the clock. -/
theorem run_sleep [Seconds τ] (time : τ) (c : Conversation α τ) :
    (sleep time : Talk α τ Unit).run.run c =
      (.ok (), { c with sleeps := c.sleeps ++ [time], now := Seconds.add c.now time }) := rfl

/-- With an answer to come, a request is sent and the answer taken when its time has passed. -/
theorem run_exchange_cons [Seconds τ] (backend : Backend α) (request : Request)
    {c : Conversation α τ} {next : Timed α τ} {rest : List (Timed α τ)}
    (present : c.pending = next :: rest) :
    (exchange backend request : Talk α τ α).run.run c =
      (.ok next.answer, { c with
        sent := c.sent ++ [request]
        pending := rest
        now := Seconds.add c.now next.delay }) := by
  obtain ⟨pending, now, sent, sleeps, log, closings, memory, turns⟩ := c
  subst present
  rfl

/-- Without an answer to come, a request is sent all the same. -/
theorem run_exchange_nil [Seconds τ] (backend : Backend α) (request : Request)
    {c : Conversation α τ} (absent : c.pending = []) :
    (exchange backend request : Talk α τ α).run.run c =
      (.error backend.silence, { c with sent := c.sent ++ [request] }) := by
  obtain ⟨pending, now, sent, sleeps, log, closings, memory, turns⟩ := c
  subst absent
  rfl

/-- A call that cannot be written changes nothing. -/
theorem run_replyTo_of_unwritten [Seconds τ] {backend : Backend α} {call : Call} {failure : Failure}
    (unwritten : backend.encode call = .error failure) (c : Conversation α τ) :
    (replyTo backend call : Talk α τ call.Reply).run.run c = (.error failure, c) := by
  unfold replyTo
  rw [unwritten]
  rfl

/-- The rest of a computation goes on where its beginning left off, unless that failed. -/
theorem run_bind {γ : Type} (talk : Talk α τ β) (next : β → Talk α τ γ) (c : Conversation α τ) :
    (talk >>= next).run.run c =
      match talk.run.run c with
      | (.ok value, after) => (next value).run.run after
      | (.error failure, after) => (.error failure, after) := by
  rw [ExceptT.run_bind, StateT.run_bind]
  cases ran : talk.run.run c with
  | mk reply after => cases reply <;> rfl

/-- To make something of the value of a computation changes nothing else. -/
theorem run_map {γ : Type} (make : β → γ) (talk : Talk α τ β) (c : Conversation α τ) :
    (make <$> talk).run.run c = (make <$> (talk.run.run c).1, (talk.run.run c).2) := by
  rw [map_eq_pure_bind, run_bind]
  cases talk.run.run c with
  | mk reply after => cases reply <;> rfl

/-- Asking adds one turn to what getting the reply leaves behind. -/
theorem run_ask [Seconds τ] (backend : Backend α) (call : Call) (c : Conversation α τ) :
    (ask backend call : Talk α τ call.Reply).run.run c =
      (((replyTo backend call).run.run c).1, { ((replyTo backend call).run.run c).2 with
        turns := ((replyTo backend call).run.run c).2.turns ++
          [⟨call, ((replyTo backend call).run.run c).1⟩] }) := by
  have lifted : (ExceptT.lift (replyTo backend call).run : Talk α τ _).run.run c =
      (.ok ((replyTo backend call).run.run c).1, ((replyTo backend call).run.run c).2) := rfl
  unfold ask
  rw [run_bind, lifted]
  cases (replyTo backend call : Talk α τ call.Reply).run.run c with
  | mk reply after => cases reply <;> rfl

/-- Over a connection that was closed for good nothing is sent. -/
theorem run_replyTo_of_shut [Seconds τ] {backend : Backend α} {call : Call} {request : Request}
    (written : backend.encode call = .ok request) {c : Conversation α τ}
    (shut : (backend.closesForGood && c.closed) = true) :
    (replyTo backend call : Talk α τ call.Reply).run.run c = (.error .closed, c) := by
  have looked : (get : Talk α τ (Conversation α τ)).run.run c = (.ok c, c) := rfl
  unfold replyTo
  rw [written, run_bind, run_outcome_ok]
  simp only [run_bind, looked, shut, if_true]
  rfl

/-- Otherwise the request is sent, and what the answer means is the reply. -/
theorem run_replyTo_of_open [Seconds τ] {backend : Backend α} {call : Call} {request : Request}
    (written : backend.encode call = .ok request) {c : Conversation α τ}
    (passable : (backend.closesForGood && c.closed) = false) :
    (replyTo backend call : Talk α τ call.Reply).run.run c =
      match (exchange backend request : Talk α τ α).run.run c with
      | (.ok answer, after) => (backend.decode call answer, after)
      | (.error failure, after) => (.error failure, after) := by
  have looked : (get : Talk α τ (Conversation α τ)).run.run c = (.ok c, c) := rfl
  unfold replyTo
  rw [written, run_bind, run_outcome_ok]
  simp only [run_bind, looked, passable, Bool.false_eq_true, if_false]
  cases (exchange backend request : Talk α τ α).run.run c with
  | mk reply after =>
    cases reply with
    | error failure => rfl
    | ok answer => cases decoded : backend.decode call answer <;> simp only [decoded] <;> rfl

/-- Over an open connection without an answer to come, asking ends in silence. -/
theorem run_ask_of_silence [Seconds τ] {backend : Backend α} {call : Call} {request : Request}
    (written : backend.encode call = .ok request) {c : Conversation α τ}
    (passable : (backend.closesForGood && c.closed) = false) (absent : c.pending = []) :
    (ask backend call : Talk α τ call.Reply).run.run c =
      (.error backend.silence, { c with
        sent := c.sent ++ [request]
        turns := c.turns ++ [⟨call, .error backend.silence⟩] }) := by
  rw [run_ask, run_replyTo_of_open written passable, run_exchange_nil _ _ absent]

/-- With an answer to come, asking ends in what the answer means. -/
theorem run_ask_of_answer [Seconds τ] {backend : Backend α} {call : Call} {request : Request}
    (written : backend.encode call = .ok request) {c : Conversation α τ}
    (passable : (backend.closesForGood && c.closed) = false) {next : Timed α τ}
    {rest : List (Timed α τ)} (present : c.pending = next :: rest) :
    (ask backend call : Talk α τ call.Reply).run.run c =
      (backend.decode call next.answer, { c with
        sent := c.sent ++ [request]
        pending := rest
        now := Seconds.add c.now next.delay
        turns := c.turns ++ [⟨call, backend.decode call next.answer⟩] }) := by
  rw [run_ask, run_replyTo_of_open written passable, run_exchange_cons _ _ present]

/-- Getting a reply sends what `requestsOf` says, whatever comes of it, and takes an answer if there
is one. Nothing else changes. -/
theorem run_replyTo [Seconds τ] (backend : Backend α) (call : Call) (c : Conversation α τ) :
    ∃ pending now, ((replyTo backend call).run.run c).2 = { c with
      pending, now, sent := c.sent ++ backend.requestsOf c.closed call } := by
  cases written : backend.encode call with
  | error failure =>
    refine ⟨c.pending, c.now, ?_⟩
    simp [run_replyTo_of_unwritten written, Backend.requestsOf, written]
  | ok request =>
    cases passable : backend.closesForGood && c.closed with
    | true =>
      refine ⟨c.pending, c.now, ?_⟩
      simp [run_replyTo_of_shut written passable, Backend.requestsOf, written, passable]
    | false =>
      rw [run_replyTo_of_open written passable]
      cases awaited : c.pending with
      | nil =>
        refine ⟨[], c.now, ?_⟩
        simp [run_exchange_nil _ _ awaited, Backend.requestsOf, written, passable, ← awaited]
      | cons next rest =>
        refine ⟨rest, Seconds.add c.now next.delay, ?_⟩
        simp [run_exchange_cons _ _ awaited, Backend.requestsOf, written, passable]

/-- Asking sends what `requestsOf` says, takes an answer if there is one, and adds one turn. Nothing
else changes. -/
theorem after_ask [Seconds τ] (backend : Backend α) (call : Call) (c : Conversation α τ) :
    ∃ pending now, ((ask backend call).run.run c).2 = { c with
      pending, now
      sent := c.sent ++ backend.requestsOf c.closed call
      turns := c.turns ++ [⟨call, ((ask backend call).run.run c).1⟩] } := by
  obtain ⟨pending, now, replied⟩ := run_replyTo backend call c
  refine ⟨pending, now, ?_⟩
  rw [run_ask, replied]

/-- An error that the engine reported leads on to what is done about it, and nothing else does. -/
theorem run_onReport (action : Talk α τ β) (handle : Status → Json → Talk α τ β)
    (c : Conversation α τ) :
    (onReport action handle).run.run c =
      match action.run.run c with
      | (.error (.reported status payload), after) => (handle status payload).run.run after
      | other => other := by
  simp only [onReport, tryCatch, tryCatchThe, MonadExceptOf.tryCatch, ExceptT.tryCatch, ExceptT.run,
    ExceptT.mk, StateT.run_bind]
  cases StateT.run action c with
  | mk outcome after =>
    cases outcome with
    | ok value => rfl
    | error failure => cases failure <;> rfl

/-- What is done about an error that the engine reported matters only if it reported one. -/
theorem run_onReport_of_unreported {talk : Talk α τ β} {handle : Status → Json → Talk α τ β}
    {c : Conversation α τ}
    (unreported : ∀ status payload, (talk.run.run c).1 ≠ .error (.reported status payload)) :
    (onReport talk handle).run.run c = talk.run.run c := by
  rw [run_onReport]
  cases ran : talk.run.run c with
  | mk outcome after =>
    rw [ran] at unreported
    cases outcome with
    | ok value => rfl
    | error failure =>
      cases failure with
      | reported status payload => exact absurd rfl (unreported status payload)
      | _ => rfl

end Talk

end EngineGateway
