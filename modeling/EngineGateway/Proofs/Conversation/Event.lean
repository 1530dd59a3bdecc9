import EngineGateway.Session.Conversation

/-!
# Events behind answers

What an engine does with a request is an event: it answers with a status and an object, or it is not
reached. What the same event looks like differs between backends, and what it means to a session
does not. `Event.reply` says what it means, and `plain` is the backend that hears events as they
are. A `Rendering` is a backend for which it is known which answers convey an event, and whose
replies to them mean what the event means.
-/

namespace EngineGateway

/-- What an engine does with a request. -/
inductive Event where
  /-- It answers with a status and an object. -/
  | answered (status : Int) (fields : Fields)
  /-- It is not reached. -/
  | lost

/-- Failures of one kind: the same one, or two of which each says that the engine was not reached.
-/
inductive Failure.Akin : Failure → Failure → Prop where
  | same (failure : Failure) : Akin failure failure
  | unreached (kind text otherKind otherText : Text) :
    Akin (.unreachable kind text) (.unreachable otherKind otherText)

/-- Outcomes that are both values, related by `same`, or both failures of one kind. -/
inductive Alike {β γ : Type} (same : β → γ → Prop) :
    Except Failure β → Except Failure γ → Prop where
  | value {v : β} {w : γ} (related : same v w) : Alike same (.ok v) (.ok w)
  | failure {f g : Failure} (akin : f.Akin g) : Alike same (.error f) (.error g)

theorem Failure.Akin.symm {f g : Failure} (akin : f.Akin g) : g.Akin f := by
  cases akin with
  | same => exact .same _
  | unreached => exact .unreached ..

theorem Failure.Akin.trans {f g h : Failure} (first : f.Akin g) (second : g.Akin h) : f.Akin h := by
  cases first with
  | same => exact second
  | unreached =>
    cases second with
    | same => exact .unreached ..
    | unreached => exact .unreached ..

/-- Every outcome is like itself. -/
theorem Alike.refl {β : Type} (outcome : Except Failure β) : Alike Eq outcome outcome := by
  cases outcome with
  | ok value => exact .value rfl
  | error failure => exact .failure (.same failure)

theorem Alike.symm {β : Type} {first second : Except Failure β} (alike : Alike Eq first second) :
    Alike Eq second first := by
  cases alike with
  | value related => exact .value related.symm
  | failure akin => exact .failure akin.symm

theorem Alike.trans {β : Type} {first second third : Except Failure β}
    (earlier : Alike Eq first second) (later : Alike Eq second third) : Alike Eq first third := by
  cases earlier with
  | value related =>
    obtain rfl := related
    exact later
  | failure akin =>
    cases later with
    | failure other => exact .failure (akin.trans other)

/-- Replies that mean the same to a session. Of a raw request that succeeded it does not matter by
which status. -/
def Want.Matches : (want : Want) → want.Reply → want.Reply → Prop
  | .data, reply, other => reply = other
  | .presence, reply, other => reply = other
  | .response, reply, other =>
    reply.payload = other.payload ∧ reply.ok = other.ok ∧
      (reply.ok = false → reply.status = other.status)

/-- Every reply matches itself. -/
theorem Want.matches_self (want : Want) (reply : want.Reply) : want.Matches reply reply := by
  cases want with
  | data => exact rfl
  | presence => exact rfl
  | response => exact ⟨rfl, rfl, fun _ => rfl⟩

/-- What an event means to who wants a reply of some kind. -/
def Event.reply : Event → (want : Want) → Except Failure want.Reply
  | .lost, _ => .error (.unreachable "" "")
  | .answered status fields, .data =>
    if Status.isSuccess (.int status) then .ok (.obj fields)
    else .error (.reported (.int status) (.obj fields))
  | .answered status fields, .presence =>
    if status = 404 then .ok false
    else if Status.isSuccess (.int status) then .ok true
    else .error (.reported (.int status) (.obj fields))
  | .answered status fields, .response => .ok ⟨.int status, .obj fields⟩

/-- The backend that hears events as they are. It can write every call. -/
def plain : Backend Event where
  name := .http
  typedProbe := false
  encode _ := .ok (.named "" [])
  decode call event := event.reply call.want
  closing := some (.named "" [])
  silence := .unreachable "" ""

/-- A call that can be made through every backend: it is not the typed question for a pipeline, no
index is created with settings, and a pipeline is stored with fields that are all texts and do not
repeat its id. -/
def Call.Common : Call → Prop
  | .createIndex _ body => body.truthy = false
  | .putPipeline _ body =>
    ∃ fields, body = .obj fields ∧ Fields.has fields "id" = false ∧
      (fields.all fun field => field.1.isText) = true
  | .pipelineExists _ => False
  | _ => True

/-- A backend for which it is known how events come through it. -/
structure Rendering (α : Type) where
  backend : Backend α
  /-- Which answers to a call convey an event. -/
  conveys : Call → Event → α → Prop
  /-- Whether the backend could carry the call of a turn to the engine, and the answer back. -/
  carries : Turn → Prop
  silent : backend.silence.Akin plain.silence
  /-- A connection that was closed carries nothing. -/
  refused : ∀ call, carries ⟨call, .error .closed⟩ → backend.closesForGood = false
  written : ∀ call reply, call.Common → carries ⟨call, reply⟩ →
    ∃ request, backend.encode call = .ok request
  heard : ∀ call reply event answer, call.Common → carries ⟨call, reply⟩ →
    conveys call event answer →
    Alike call.want.Matches (backend.decode call answer) (event.reply call.want)

/-- A script conveys what happens in the course of some turns: it has one answer to each event, and
the answer to the call of each turn comes when the event does and conveys it. -/
structure Rendering.Told {α τ : Type} (rendering : Rendering α) (events : List (Timed Event τ))
    (script : List (Timed α τ)) (turns : List Turn) : Prop where
  complete : script.length = events.length
  told : ∀ (i : Nat) (turn : Turn) (event : Timed Event τ) (answer : Timed α τ),
    turns[i]? = some turn → events[i]? = some event → script[i]? = some answer →
    answer.delay = event.delay ∧ rendering.conveys turn.call event.answer answer.answer

section

variable {α τ : Type} {rendering : Rendering α} {turns : List Turn}

/-- Without answers nothing is conveyed, and nothing happens. -/
theorem Rendering.Told.nil : rendering.Told ([] : List (Timed Event τ)) [] turns where
  complete := rfl
  told _ _ _ _ _ happens := nomatch happens

/-- One more answer conveys one more event, if it does so to the first call. -/
theorem Rendering.Told.cons {event : Timed Event τ} {answer : Timed α τ}
    {events : List (Timed Event τ)} {script : List (Timed α τ)}
    (punctual : answer.delay = event.delay)
    (conveyed : ∀ turn ∈ turns.head?, rendering.conveys turn.call event.answer answer.answer)
    (later : rendering.Told events script turns.tail) :
    rendering.Told (event :: events) (answer :: script) turns where
  complete := congrArg Nat.succ later.complete
  told i turn happened given present happens gives := by
    cases i with
    | zero =>
      obtain rfl := Option.some.inj happens
      obtain rfl := Option.some.inj gives
      exact ⟨punctual, conveyed turn (List.head?_eq_getElem? ▸ present)⟩
    | succ i =>
      exact later.told i turn happened given (by rwa [List.getElem?_tail]) happens gives

end

/-- Turns in the course of which the script conveys what happens and the backend could carry all. -/
structure Rendering.Faithful {α τ : Type} (rendering : Rendering α)
    (events : List (Timed Event τ)) (script : List (Timed α τ)) (turns : List Turn) : Prop
    extends rendering.Told events script turns where
  carried : ∀ turn ∈ turns, rendering.carries turn

/-- What holds of some turns holds of those with which they begin. -/
theorem Rendering.Faithful.of_prefix {α τ : Type} {rendering : Rendering α}
    {events : List (Timed Event τ)} {script : List (Timed α τ)} {earlier later : List Turn}
    (faithful : rendering.Faithful events script later) (begins : earlier <+: later) :
    rendering.Faithful events script earlier where
  complete := faithful.complete
  told i turn event answer present := by
    refine faithful.told i turn event answer ?_
    obtain ⟨rest, rfl⟩ := begins
    rw [List.getElem?_append_left (List.getElem?_eq_some_iff.1 present).1, present]
  carried turn member := faithful.carried turn (begins.subset member)

end EngineGateway
