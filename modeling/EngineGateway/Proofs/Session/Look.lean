import EngineGateway.Proofs.Backend.Honest
import EngineGateway.Session.Health

/-!
# One look at the health of an index

A look asks one question and reads its reply. If the time to hold the question back cannot be
written, nothing is asked. What the look comes to follows from the reply alone (`readHealth`), and a
look that comes to an index has taken exactly one answer, if the backend is honest.
-/

namespace EngineGateway

open Session Talk

variable {α τ : Type}

/-- What a reply to the question for the health of an index comes to. An error that only says that
the health is not known yet is read like a reply. -/
def Session.readHealth (name : Name) : Except Failure Json → Except Failure IndexDescriptor
  | .ok payload => describe name (healthOf payload)
  | .error (.reported status payload) => do
    if ← isHealthUnavailable status then describe name (healthOf payload)
    else .error (.reported status payload)
  | .error failure => .error failure

/-- The question for the health of an index. -/
def healthCall (name : Name) (hold : String) : Call := .health name (.str hold)

/-- A number of milliseconds is written in full, or it is too long. -/
theorem Span.millisecondsText_cases (count : Int) :
    millisecondsText count = .ok (toString count ++ "ms") ∨
      millisecondsText count = .error .durationTooLong := by
  unfold millisecondsText
  split
  · exact Or.inl rfl
  · exact Or.inr rfl

/-- The text of a number of milliseconds is the number with its unit. -/
theorem Span.text_of_written {count : Int} {text : String}
    (written : millisecondsText count = .ok text) : text = toString count ++ "ms" := by
  obtain short | long := millisecondsText_cases count
  · rw [short] at written
    cases written
    rfl
  · rw [long] at written
    cases written

/-- The time that an engine may hold a request back is written in milliseconds, one at least. -/
theorem Span.holdText_eq [Seconds τ] {span : Span τ} {count : Int}
    (counted : span.milliseconds = .ok count) :
    span.holdText = millisecondsText (max count 1) := by
  simp only [holdText, counted, bind, Except.bind]

/-- The status of an error is none or it can be looked for. -/
theorem Session.isHealthUnavailable_failsOnly (status : Status) :
    FailsOnly Failure.Prompt (isHealthUnavailable status) :=
  (FailsOnly.asKey Failure.prompt_wrongKind status).bind fun _ => FailsOnly.ok _

/-- Describing an index does not end a wait. -/
theorem Session.describe_failsOnly (name : Name) (health : HealthState) :
    FailsOnly Failure.Prompt (describe name health) := by
  have nameless : Failure.Prompt (.invalid IndexDescriptor.modelName [⟨[.key "name"], .text⟩]) :=
    rfl
  exact (FailsOnly.textOr nameless name).bind fun _ => FailsOnly.ok _

/-- Reading a reply does not end a wait that the reply does not end. -/
theorem Session.readHealth_failsOnly (name : Name) {reply : Except Failure Json}
    (replied : FailsOnly Failure.Prompt reply) :
    FailsOnly Failure.Prompt (readHealth name reply) := by
  unfold readHealth
  split
  · exact describe_failsOnly name _
  · refine (isHealthUnavailable_failsOnly _).bind fun _ => ?_
    exact FailsOnly.ite (describe_failsOnly name _) (FailsOnly.error rfl)
  · exact FailsOnly.error (replied _ rfl)

/-- A mishap is handed on. -/
theorem Session.readHealth_of_mishap (name : Name) {failure : Failure} (mishap : failure.Mishap) :
    readHealth name (.error failure) = .error failure := by
  unfold readHealth
  split
  case h_1 replied => cases replied
  case h_2 replied =>
    cases replied
    cases mishap.1
  case h_3 replied =>
    cases replied
    rfl

/-- Reading the reply to a question needs nothing but the reply. -/
theorem Session.run_reading (name : Name) (asking : Talk α τ Json) (c : Conversation α τ) :
    ((asking.onReport fun status payload => do
        if ← Talk.outcome (isHealthUnavailable status) then return payload
        else throw (.reported status payload)) >>=
      fun payload => Talk.outcome (describe name (healthOf payload))).run.run c =
      (readHealth name (asking.run.run c).1, (asking.run.run c).2) := by
  have described : ∀ (payload : Json) (after : Conversation α τ),
      (Talk.outcome (describe name (healthOf payload)) : Talk α τ _).run.run after =
        (describe name (healthOf payload), after) := by
    intro payload after
    cases describe name (healthOf payload) <;> rfl
  rw [run_bind, run_onReport]
  cases asking.run.run c with
  | mk reply after =>
    cases reply with
    | ok payload => exact described payload after
    | error failure =>
      cases failure with
      | reported status payload =>
        cases known : isHealthUnavailable status with
        | error failure => simp only [readHealth, known, run_bind, run_outcome_error]; rfl
        | ok unavailable =>
          cases unavailable <;> simp only [readHealth, known, run_bind, run_outcome_ok]
          · rfl
          · exact described payload after
      | _ => rfl

section

variable [Seconds τ] (session : Session α τ) (name : Name)

/-- A time that cannot be written ends a look before anything is asked. -/
theorem Session.run_indexHealth_of_unwritten {span : Span τ} {failure : Failure}
    (unwritten : span.holdText = .error failure) (c : Conversation α τ) :
    (indexHealth session name (some span)).run.run c = (.error failure, c) := by
  unfold indexHealth
  simp only [Option.mapM_some, unwritten]
  rfl

/-- Otherwise the health is asked for, and the reply is read. -/
theorem Session.run_indexHealth_of_written {span : Span τ} {hold : String}
    (written : span.holdText = .ok hold) (c : Conversation α τ) :
    (indexHealth session name (some span)).run.run c =
      (readHealth name ((Talk.ask session.backend (healthCall name hold)).run.run c).1,
        ((Talk.ask session.backend (healthCall name hold)).run.run c).2) := by
  have held : (some span).mapM (m := Talk α τ) (fun span => Talk.outcome span.holdText) =
      pure (some hold) := by
    simp only [Option.mapM_some, written]
    rfl
  unfold indexHealth
  rw [held, pure_bind]
  exact run_reading name (Talk.ask session.backend (healthCall name hold)) c

end

/-- One look at the health of an index: where it began, how long it let the engine hold the question
back, what it came to, and where it ended. -/
structure Look (α τ : Type) where
  before : Conversation α τ
  hold : τ
  outcome : Except Failure IndexDescriptor
  after : Conversation α τ

/-- A look that came to an index, which is well. -/
def Look.Healthy (look : Look α τ) (index : IndexDescriptor) : Prop :=
  look.outcome = .ok index ∧ index.health.isHealthy = true

/-- A look that came to an index, which is not well yet. -/
def Look.Unwell (look : Look α τ) (index : IndexDescriptor) : Prop :=
  look.outcome = .ok index ∧ index.health.isHealthy = false

/-- A look that asked for the health of an index, and let the engine hold the question back for so
many milliseconds. What was sent is the request for this question. -/
def Look.Asks (session : Session α τ) (name : Name) (look : Look α τ) (milliseconds : Int) : Prop :=
  ∃ reply,
    look.after.turns = look.before.turns ++
      [⟨healthCall name (toString milliseconds ++ "ms"), reply⟩] ∧
    look.after.sent = look.before.sent ++ session.backend.requestsOf look.before.closed
      (healthCall name (toString milliseconds ++ "ms"))

section

variable [Seconds τ]

/-- The look that a session takes in a conversation. -/
def Session.look (session : Session α τ) (name : Name) (hold : τ) (c : Conversation α τ) :
    Look α τ where
  before := c
  hold
  outcome := ((indexHealth session name (some (.measured hold))).run.run c).1
  after := ((indexHealth session name (some (.measured hold))).run.run c).2

/-- How a look can go over an honest backend. -/
inductive Looked (session : Session α τ) (name : Name) : Look α τ → Prop where
  /-- The time to hold the question back cannot be written. -/
  | unwritten {c : Conversation α τ} {hold : τ} {failure : Failure}
      (unwritten : (Span.measured hold).holdText = .error failure) :
      Looked session name ⟨c, hold, .error failure, c⟩
  /-- The question was not answered. -/
  | unanswered {c : Conversation α τ} {hold : τ} {text : String} {failure : Failure}
      (written : (Span.measured hold).holdText = .ok text) (mishap : failure.Mishap) :
      Looked session name ⟨c, hold, .error failure, { c with
        sent := c.sent ++ session.backend.requestsOf c.closed (healthCall name text)
        turns := c.turns ++ [⟨healthCall name text, .error failure⟩] }⟩
  /-- The question was answered after a time. -/
  | answered {c : Conversation α τ} {hold : τ} {text : String} {next : Timed α τ}
      {rest : List (Timed α τ)} (written : (Span.measured hold).holdText = .ok text)
      (awaited : c.pending = next :: rest) :
      Looked session name ⟨c, hold,
        readHealth name (session.backend.decode (healthCall name text) next.answer), { c with
          sent := c.sent ++ session.backend.requestsOf c.closed (healthCall name text)
          pending := rest
          now := Seconds.add c.now next.delay
          turns := c.turns ++ [⟨healthCall name text,
            session.backend.decode (healthCall name text) next.answer⟩] }⟩

variable {session : Session α τ} {name : Name}

/-- Every look over an honest backend goes in one of these ways. -/
theorem Backend.Honest.looked (honest : session.backend.Honest) (name : Name) (hold : τ)
    (c : Conversation α τ) : Looked session name (session.look name hold c) := by
  unfold Session.look
  cases held : (Span.measured hold).holdText with
  | error failure =>
    rw [Session.run_indexHealth_of_unwritten session name held]
    exact .unwritten held
  | ok text =>
    rw [Session.run_indexHealth_of_written session name held]
    obtain ⟨next, rest, awaited, asked⟩ | ⟨failure, mishap, asked⟩ :=
      honest.ask_cases (healthCall name text) c
    · rw [asked]
      exact .answered held awaited
    · rw [asked]
      change Looked session name ⟨c, hold, Session.readHealth name (.error failure), _⟩
      rw [Session.readHealth_of_mishap name mishap]
      exact .unanswered held mishap

namespace Looked

variable {look : Look α τ}

/-- A look that comes to an index has taken an answer. -/
theorem pending_of_ok (looked : Looked session name look) {index : IndexDescriptor}
    (seen : look.outcome = .ok index) :
    ∃ next, look.before.pending = next :: look.after.pending := by
  cases looked with
  | unwritten unwritten => cases seen
  | unanswered written mishap => cases seen
  | answered written awaited => exact ⟨_, awaited⟩

/-- Looking is no sleep. -/
theorem sleeps (looked : Looked session name look) : look.after.sleeps = look.before.sleeps := by
  cases looked <;> rfl

/-- The answers that are to come after a look were to come before it. -/
theorem pending_suffix (looked : Looked session name look) :
    look.after.pending <:+ look.before.pending := by
  cases looked with
  | unwritten unwritten => exact List.suffix_refl _
  | unanswered written mishap => exact List.suffix_refl _
  | answered written awaited => exact ⟨[_], awaited.symm⟩

/-- A look takes no time, or as long as an answer that was to come. -/
theorem now (looked : Looked session name look) :
    look.after.now = look.before.now ∨
      ∃ next ∈ look.before.pending, look.after.now = Seconds.add look.before.now next.delay := by
  cases looked with
  | unwritten unwritten => exact Or.inl rfl
  | unanswered written mishap => exact Or.inl rfl
  | answered written awaited => exact Or.inr ⟨_, awaited ▸ List.mem_cons_self, rfl⟩

/-- A look does not end a wait, if writing the time does not. -/
theorem failsOnly (looked : Looked session name look) (honest : session.backend.Honest)
    (holds : FailsOnly Failure.Prompt (Span.measured look.hold).holdText) :
    FailsOnly Failure.Prompt look.outcome := by
  cases looked with
  | unwritten unwritten => exact FailsOnly.error (holds _ unwritten)
  | unanswered written mishap => exact FailsOnly.error mishap.prompt
  | answered written awaited => exact Session.readHealth_failsOnly name (honest.decode _ _)

/-- A look asks for the time that it is to let the engine have, or it does not ask at all. -/
theorem asks (looked : Looked session name look) {count : Int}
    (counted : Seconds.milliseconds look.hold = .ok count) :
    look.Asks session name (max count 1) ∨
      look.outcome = .error .durationTooLong ∧ look.after = look.before := by
  have held : (Span.measured look.hold).holdText = Span.millisecondsText (max count 1) :=
    Span.holdText_eq counted
  cases looked with
  | unwritten unwritten =>
    obtain short | long := Span.millisecondsText_cases (max count 1)
    · rw [held, short] at unwritten
      cases unwritten
    · rw [held, long] at unwritten
      cases unwritten
      exact Or.inr ⟨rfl, rfl⟩
  | unanswered written mishap =>
    cases Span.text_of_written (held ▸ written)
    exact Or.inl ⟨_, rfl, rfl⟩
  | answered written awaited =>
    cases Span.text_of_written (held ▸ written)
    exact Or.inl ⟨_, rfl, rfl⟩

end Looked

end

end EngineGateway
