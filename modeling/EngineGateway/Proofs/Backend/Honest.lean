import EngineGateway.Client.Elasticsearch
import EngineGateway.Client.Opensearch
import EngineGateway.Rest.Backend
import EngineGateway.Session.Conversation

/-!
# What a backend can fail with

`FailsOnly` bounds the failures of a result, and follows the way in which results are put together.
With it a backend is seen to be honest: it speaks of an error that the engine reported only when an
answer lies before it, and the end of a wait is never its own failure. A wait can then be told apart
from the trouble of its requests. All three backends are honest.
-/

namespace EngineGateway

variable {α β γ : Type}

/-- Whether a failure says that an index was waited for in vain. -/
def Failure.isTimeout : Failure → Bool
  | .healthTimeout .. => true
  | _ => false

/-- Whether a failure is an error that the engine reported. -/
def Failure.isReport : Failure → Bool
  | .reported .. => true
  | _ => false

/-- A failure that can arise without an answer: neither a report nor the end of a wait. -/
def Failure.Mishap (failure : Failure) : Prop :=
  failure.isReport = false ∧ failure.isTimeout = false

/-- A failure that is not the end of a wait. -/
def Failure.Prompt (failure : Failure) : Prop := failure.isTimeout = false

/-- A mishap does not end a wait. -/
theorem Failure.Mishap.prompt {failure : Failure} (mishap : failure.Mishap) : failure.Prompt :=
  mishap.2

/-- A value of the wrong kind does not end a wait. -/
theorem Failure.prompt_wrongKind : Failure.wrongKind.Prompt := rfl

/-- A result fails, if it fails, with an allowed failure. -/
def FailsOnly (allowed : Failure → Prop) (result : Except Failure β) : Prop :=
  ∀ failure, result = .error failure → allowed failure

namespace FailsOnly

variable {allowed permitted : Failure → Prop} {result : Except Failure β}

/-- More failures may be allowed. -/
theorem weaken (only : FailsOnly allowed result)
    (permits : ∀ failure, allowed failure → permitted failure) : FailsOnly permitted result :=
  fun failure failed => permits failure (only failure failed)

/-- A value is no failure. -/
theorem ok (value : β) : FailsOnly allowed (.ok value) :=
  fun _ failed => nomatch failed

/-- A failure has to be allowed itself. -/
theorem error {failure : Failure} (isAllowed : allowed failure) :
    FailsOnly allowed (.error failure : Except Failure β) := by
  intro other failed
  cases failed
  exact isAllowed

/-- Two steps in a row fail as one of them does. -/
theorem bind {next : β → Except Failure γ} (first : FailsOnly allowed result)
    (rest : ∀ value, FailsOnly allowed (next value)) : FailsOnly allowed (result >>= next) := by
  cases result with
  | ok value => exact rest value
  | error failure => exact error (first failure rfl)

/-- What is made of a value cannot fail. -/
theorem map {f : β → γ} (only : FailsOnly allowed result) : FailsOnly allowed (f <$> result) := by
  cases result with
  | ok value => exact ok (f value)
  | error failure => exact error (only failure rfl)

/-- Failures of another kind are allowed if what they are turned into is. -/
theorem mapError {ε : Type} {f : ε → Failure} {outcome : Except ε β}
    (turned : ∀ fault, allowed (f fault)) : FailsOnly allowed (outcome.mapError f) := by
  cases outcome with
  | ok value => exact ok value
  | error fault => exact error (turned fault)

/-- A choice fails as one of the two ways does. -/
theorem ite {condition : Prop} [Decidable condition] {other : Except Failure β}
    (holding : FailsOnly allowed result) (failing : FailsOnly allowed other) :
    FailsOnly allowed (if condition then result else other) := by
  by_cases holds : condition
  · rw [if_pos holds]
    exact holding
  · rw [if_neg holds]
    exact failing

/-- A list is gone through until an item fails. -/
theorem mapM {f : β → Except Failure γ} (each : ∀ item, FailsOnly allowed (f item))
    (items : List β) : FailsOnly allowed (items.mapM f) := by
  induction items with
  | nil => exact ok []
  | cons item rest inductionHypothesis =>
    rw [List.mapM_cons]
    exact (each item).bind fun _ => inductionHypothesis.bind fun _ => ok _

/-- A value that is no text fails as it was agreed. -/
theorem textOr {fault : Failure} (isAllowed : allowed fault) (value : Json) :
    FailsOnly allowed (value.textOr fault) := by
  cases value with
  | str text => exact ok text
  | _ => exact error isAllowed

/-- A value in the place of a key is of the right kind or of the wrong one. -/
theorem asKey (isAllowed : allowed .wrongKind) (value : Json) : FailsOnly allowed value.asKey := by
  unfold Json.asKey
  split
  · exact ok _
  · exact error isAllowed

end FailsOnly

/-- A backend needs an answer to report an error, and does not end a wait. -/
structure Backend.Honest (backend : Backend α) : Prop where
  /-- Writing a request fails without an answer. -/
  encode : ∀ call, FailsOnly Failure.Mishap (backend.encode call)
  /-- An answer may mean an error, but not that the wait is over. -/
  decode : ∀ call answer, FailsOnly Failure.Prompt (backend.decode call answer)
  /-- Silence is no answer. -/
  silence : backend.silence.Mishap

/-- Over an honest backend either an answer is taken and read, or nothing is taken and asking ends
in a mishap. -/
theorem Backend.Honest.ask_cases {τ : Type} [Seconds τ] {backend : Backend α}
    (honest : backend.Honest) (call : Call) (c : Conversation α τ) :
    (∃ next rest, c.pending = next :: rest ∧
      (Talk.ask backend call).run.run c = (backend.decode call next.answer, { c with
        sent := c.sent ++ backend.requestsOf c.closed call
        pending := rest
        now := Seconds.add c.now next.delay
        turns := c.turns ++ [⟨call, backend.decode call next.answer⟩] })) ∨
    ∃ failure, failure.Mishap ∧
      (Talk.ask backend call).run.run c = (.error failure, { c with
        sent := c.sent ++ backend.requestsOf c.closed call
        turns := c.turns ++ [⟨call, .error failure⟩] }) := by
  cases written : backend.encode call with
  | error failure =>
    have silent : backend.requestsOf c.closed call = [] := by simp [requestsOf, written]
    refine Or.inr ⟨failure, honest.encode call failure written, ?_⟩
    rw [Talk.run_ask, Talk.run_replyTo_of_unwritten written, silent, List.append_nil]
  | ok request =>
    cases passable : backend.closesForGood && c.closed with
    | true =>
      have silent : backend.requestsOf c.closed call = [] := by
        simp [requestsOf, written, passable]
      refine Or.inr ⟨.closed, ⟨rfl, rfl⟩, ?_⟩
      rw [Talk.run_ask, Talk.run_replyTo_of_shut written passable, silent, List.append_nil]
    | false =>
      have sends : backend.requestsOf c.closed call = [request] := by
        simp [requestsOf, written, passable]
      cases awaited : c.pending with
      | nil =>
        refine Or.inr ⟨backend.silence, honest.silence, ?_⟩
        rw [Talk.run_ask_of_silence written passable awaited, sends, awaited]
      | cons next rest =>
        refine Or.inl ⟨next, rest, rfl, ?_⟩
        rw [Talk.run_ask_of_answer written passable awaited, sends]

namespace Rest

/-- A name that is no segment is a mishap. -/
theorem segmentWith_failsOnly (safe : List Char) (name : Name) :
    FailsOnly Failure.Mishap (name.text >>= segmentWith safe) := by
  refine (FailsOnly.textOr ⟨rfl, rfl⟩ name).bind fun text => ?_
  unfold segmentWith
  split
  · exact FailsOnly.ok _
  · exact FailsOnly.error ⟨rfl, rfl⟩

theorem segment_failsOnly (name : Name) : FailsOnly Failure.Mishap (segment name) :=
  segmentWith_failsOnly [] name

theorem indexSegment_failsOnly (name : Name) : FailsOnly Failure.Mishap (indexSegment name) :=
  segmentWith_failsOnly ['*', ','] name

/-- The plan of a call fails at its names alone. -/
theorem plan_failsOnly (call : Call) : FailsOnly Failure.Mishap (plan call) := by
  cases call with
  | info => exact FailsOnly.ok _
  | pipelineExists id => exact FailsOnly.error ⟨rfl, rfl⟩
  | raw method path body parameters => exact FailsOnly.ok _
  | writeDocument index id document pipeline =>
    exact (indexSegment_failsOnly index).bind fun _ => (segment_failsOnly id).bind fun _ =>
      FailsOnly.ok _
  | putPipeline id body =>
    exact ((segment_failsOnly id).bind fun _ => FailsOnly.ok _).bind fun _ => FailsOnly.ok _
  | createIndex index _ | indexExists index | deleteIndex index | health index _ | refresh index
  | search index _ => exact (indexSegment_failsOnly index).bind fun _ => FailsOnly.ok _

/-- The item at a place is there or not. -/
theorem itemAt_failsOnly (position : Nat) (value : Json) :
    FailsOnly Failure.Mishap (itemAt position value) := by
  unfold itemAt
  split
  case h_1 items =>
    cases items[position]? with
    | none => exact FailsOnly.error ⟨rfl, rfl⟩
    | some item => exact FailsOnly.ok item
  case h_2 text =>
    cases text.points[position]? with
    | none => exact FailsOnly.error ⟨rfl, rfl⟩
    | some point => exact FailsOnly.ok _
  all_goals exact FailsOnly.error ⟨rfl, rfl⟩

/-- Parameters that are none are a mishap. -/
theorem parametersOf?_failsOnly (value : Json) :
    FailsOnly Failure.Mishap (parametersOf? value) := by
  have written : ∀ parameters, FailsOnly Failure.Mishap (writtenOut parameters) := fun _ =>
    FailsOnly.ite (FailsOnly.ok _) (FailsOnly.error ⟨rfl, rfl⟩)
  cases value with
  | null | str _ => exact FailsOnly.ok _
  | obj fields => exact (written fields).bind fun _ => FailsOnly.ok _
  | arr items =>
    refine (FailsOnly.mapM (fun item => ?_) items).bind fun pairs =>
      (written (gather pairs)).bind fun _ => FailsOnly.ok _
    refine (itemAt_failsOnly 0 item).bind fun _ => (FailsOnly.asKey ⟨rfl, rfl⟩ _).bind fun _ => ?_
    exact (itemAt_failsOnly 1 item).bind fun _ => FailsOnly.ok _
  | _ => exact FailsOnly.ite (FailsOnly.error ⟨rfl, rfl⟩) (FailsOnly.ok _)

theorem Plan.sentMethod_failsOnly (plan : Plan) : FailsOnly Failure.Mishap plan.sentMethod :=
  (FailsOnly.textOr ⟨rfl, rfl⟩ plan.method).bind fun _ => FailsOnly.ok _

/-- A request without an address is a mishap. -/
theorem Plan.address_failsOnly (engine : Address) (plan : Plan) :
    FailsOnly Failure.Mishap (plan.address engine) := by
  have badAddress : ∀ fault, (Failure.badAddress fault).Mishap := fun _ => ⟨rfl, rfl⟩
  refine (FailsOnly.textOr ⟨rfl, rfl⟩ plan.path).bind fun path => ?_
  refine (FailsOnly.mapError badAddress).bind fun place => ?_
  refine (parametersOf?_failsOnly plan.parameters).bind fun parameters => ?_
  exact plan.sentMethod_failsOnly.bind fun _ => FailsOnly.mapError badAddress

/-- A host that may not be asked is a mishap. -/
theorem checkHost_failsOnly (host : List Char) : FailsOnly Failure.Mishap (checkHost host) := by
  have badName : ∀ fault, (Failure.badName fault).Mishap := fun _ => ⟨rfl, rfl⟩
  have written : FailsOnly Failure.Mishap
      (if host.all (·.toNat < 0x80) then .ok () else .error .unencodable) :=
    FailsOnly.ite (FailsOnly.ok ()) (FailsOnly.error ⟨rfl, rfl⟩)
  exact FailsOnly.ite ((FailsOnly.mapError badName).bind fun _ => written) written

/-- A body that cannot be written is a mishap. -/
theorem checkBody_failsOnly (body : Json) : FailsOnly Failure.Mishap (checkBody body) := by
  intro failure failed
  unfold checkBody at failed
  split at failed
  case h_1 fault _ =>
    cases failed
    cases fault <;> exact ⟨rfl, rfl⟩
  case h_2 =>
    split at failed
    · cases failed
    · cases failed
      exact ⟨rfl, rfl⟩

/-- A request that cannot be put on the wire is a mishap. -/
theorem Plan.request_failsOnly (engine : Address) (plan : Plan) :
    FailsOnly Failure.Mishap (plan.request engine) := by
  refine (plan.address_failsOnly engine).bind fun address => ?_
  refine plan.sentMethod_failsOnly.bind fun method => ?_
  refine (checkBody_failsOnly plan.body).bind fun _ => ?_
  exact (checkHost_failsOnly address.host).bind fun _ => FailsOnly.ok _

/-- Trouble on the way is a mishap, whether it is handed on or not. -/
theorem trouble_mishap (kind text : Text) : (trouble kind text).Mishap := by
  unfold trouble
  split <;> exact ⟨rfl, rfl⟩

/-- A body that cannot be read has too many levels. -/
theorem payloadOf_tooDeep (octets : List UInt8) :
    FailsOnly (· = .unreadable .tooDeep) (payloadOf octets) := by
  refine FailsOnly.ite (FailsOnly.ok _) ?_
  split
  · exact FailsOnly.ok _
  · exact FailsOnly.error rfl
  · exact FailsOnly.ok _

/-- A body that cannot be read is a mishap. -/
theorem payloadOf_failsOnly (octets : List UInt8) :
    FailsOnly Failure.Mishap (payloadOf octets) :=
  (payloadOf_tooDeep octets).weaken fun _ deep => deep ▸ ⟨rfl, rfl⟩

/-- What an answer means may be an error. -/
theorem decode_failsOnly (call : Call) (answer : Answer) :
    FailsOnly Failure.Prompt (decode call answer) := by
  have responded : FailsOnly Failure.Prompt (respond answer) := by
    cases answer with
    | failed kind text => exact FailsOnly.error (trouble_mishap kind text).prompt
    | answered status octets =>
      have read := (payloadOf_failsOnly octets).bind fun payload =>
        FailsOnly.ok (RawResponse.mk status payload)
      exact read.weaken fun _ mishap => mishap.prompt
  have replied : ∀ response want, FailsOnly Failure.Prompt (replyOf call response want) := by
    intro response want
    cases want with
    | data =>
      refine FailsOnly.ite (FailsOnly.error rfl) ?_
      split
      · exact FailsOnly.ok _
      · exact ((plan_failsOnly call).weaken fun _ mishap => mishap.prompt).bind fun _ =>
          FailsOnly.error rfl
    | presence =>
      exact FailsOnly.ite (FailsOnly.ok _) (FailsOnly.ite (FailsOnly.error rfl) (FailsOnly.ok _))
    | response => exact FailsOnly.ok _
  unfold decode
  cases read : respond answer with
  | ok response => exact replied response call.want
  | error failure => exact FailsOnly.error (responded failure read)

/-- An address is at fault by its scheme or by its brackets. -/
theorem addressFault?_prompt {engine : Address} {call : Call} {failure : Failure}
    (useless : addressFault? engine call = some failure) : failure.Prompt := by
  have atFault : ∀ address : Address, address.fault? = some failure → failure.Prompt := by
    intro address found
    unfold Address.fault? at found
    split at found
    · cases found
      rfl
    · split at found <;> cases found
      rfl
  unfold addressFault? at useless
  split at useless
  · exact atFault _ useless
  · cases useless

/-- The way over HTTP is honest. -/
theorem backend_honest (engine : Address) : (backend engine).Honest where
  encode call := (plan_failsOnly call).bind fun plan => plan.request_failsOnly engine
  decode call answer := by
    change FailsOnly Failure.Prompt (receive engine call answer)
    unfold receive
    split
    · exact FailsOnly.error (addressFault?_prompt ‹_›)
    · exact decode_failsOnly call _
  silence := trouble_mishap "ConnectError" exhausted

end Rest

namespace Client

/-- An error that a library raises does not end a wait. -/
theorem Error.failureAmong_prompt (known : List Text) (error : Error) :
    (error.failureAmong known).Prompt := by
  unfold failureAmong failure
  split
  · split <;> rfl
  · rfl

/-- A raw request that ends in an error does not end a wait. -/
theorem Error.responseAmong_failsOnly (known : List Text) (error : Error) :
    FailsOnly Failure.Prompt (error.responseAmong known) := by
  unfold responseAmong
  split
  · exact FailsOnly.ok _
  · exact FailsOnly.error (error.failureAmong_prompt known)

/-- The silence of a library is a mishap. -/
theorem silence_mishap (known : List Text) : (silence known).Mishap := by
  unfold silence Error.failureAmong
  split <;> exact ⟨rfl, rfl⟩

/-- A body is handed over or not. -/
theorem Elasticsearch.spread_failsOnly (call key : String) (name : Name) (body : Json) :
    FailsOnly Failure.Mishap (Elasticsearch.spread call key name body) := by
  unfold Elasticsearch.spread
  split
  · exact FailsOnly.ite (FailsOnly.error ⟨rfl, rfl⟩) (FailsOnly.ok _)
  · exact FailsOnly.error ⟨rfl, rfl⟩

/-- The Elasticsearch library is an honest way. -/
theorem Elasticsearch.backend_honest (known : List Text) :
    (Elasticsearch.backend known).Honest where
  encode call := by
    cases call with
    | createIndex index body =>
      exact FailsOnly.ite (Elasticsearch.spread_failsOnly _ _ index body) (FailsOnly.ok _)
    | putPipeline id body => exact Elasticsearch.spread_failsOnly _ _ id body
    | pipelineExists id => exact FailsOnly.error ⟨rfl, rfl⟩
    | _ => exact FailsOnly.ok _
  decode call answer := by
    change FailsOnly Failure.Prompt (Elasticsearch.replyOf _ answer call.want)
    cases call.want with
    | data => exact FailsOnly.mapError (Error.failureAmong_prompt _)
    | presence => exact FailsOnly.mapError (Error.failureAmong_prompt _)
    | response =>
      cases answer with
      | value v => exact FailsOnly.error rfl
      | response status body => exact FailsOnly.ok _
      | raised error => exact error.responseAmong_failsOnly _
  silence := silence_mishap _

/-- A value that is not taken for an object is of the wrong kind or holds no pairs. -/
theorem Opensearch.asFields_unfit (value : Json) :
    FailsOnly (fun failure => failure = .wrongKind ∨ failure = .notPairs) value.asFields := by
  have pair : ∀ item : Json,
      FailsOnly (fun failure => failure = .wrongKind ∨ failure = .notPairs) item.asPair := by
    intro item
    unfold Json.asPair
    split
    · exact FailsOnly.error (.inl rfl)
    · exact (FailsOnly.asKey (.inl rfl) _).bind fun _ => FailsOnly.ok _
    · exact FailsOnly.error (.inr rfl)
  unfold Json.asFields
  split
  · exact FailsOnly.ok _
  · split
    · exact FailsOnly.error (.inl rfl)
    · exact (FailsOnly.mapM pair _).bind fun _ => FailsOnly.ok _

/-- A value is taken for an object or not. -/
theorem Opensearch.asFields_failsOnly (value : Json) :
    FailsOnly Failure.Prompt value.asFields := by
  refine (Opensearch.asFields_unfit value).weaken fun failure unfit => ?_
  rcases unfit with rfl | rfl <;> rfl

/-- An answer holds a pipeline, or not, or is of no use. -/
theorem Opensearch.pipelinePresence_failsOnly (known : List Text) (id : Name) (answer : Answer) :
    FailsOnly Failure.Prompt (Opensearch.pipelinePresence known id answer) := by
  cases answer with
  | value v =>
    change FailsOnly Failure.Prompt (v.holds id)
    cases v with
    | obj fields =>
      exact (FailsOnly.asKey Failure.prompt_wrongKind id).bind fun _ => FailsOnly.ok _
    | arr items => exact FailsOnly.ok _
    | str text =>
      exact (FailsOnly.textOr Failure.prompt_wrongKind id).bind fun _ => FailsOnly.ok _
    | _ => exact FailsOnly.error rfl
  | response status body => exact FailsOnly.error rfl
  | raised error =>
    exact FailsOnly.ite (FailsOnly.ok _) (FailsOnly.error (error.failureAmong_prompt known))

/-- The OpenSearch library is an honest way. -/
theorem Opensearch.backend_honest (known : List Text) :
    (Opensearch.backend known).Honest where
  encode call := by cases call <;> exact FailsOnly.ok _
  decode call answer := by
    change FailsOnly Failure.Prompt (Opensearch.replyOf _ call answer call.want)
    cases call.want with
    | data =>
      cases answer with
      | value v => exact (Opensearch.asFields_failsOnly v).map
      | response status body => exact FailsOnly.error rfl
      | raised error => exact FailsOnly.error (error.failureAmong_prompt _)
    | presence =>
      unfold Opensearch.replyOf
      split
      case h_1 id asked => exact Opensearch.pipelinePresence_failsOnly _ id answer
      case h_2 =>
        cases answer with
        | value v => exact FailsOnly.ok _
        | response status body => exact FailsOnly.ok _
        | raised error => exact FailsOnly.error (error.failureAmong_prompt _)
    | response =>
      cases answer with
      | value v => cases v <;> exact FailsOnly.ok _
      | response status body => exact FailsOnly.error rfl
      | raised error => exact error.responseAmong_failsOnly _
  silence := silence_mishap _

end Client

end EngineGateway
