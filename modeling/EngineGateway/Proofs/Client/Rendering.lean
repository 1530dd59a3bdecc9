import EngineGateway.Client.Elasticsearch
import EngineGateway.Client.Opensearch
import EngineGateway.Proofs.Conversation.Event

/-!
# Events through client libraries

What an engine does comes through a client library in the library's own words. An answer of success
is what the library returns, any other one an error that carries its status and its object, and an
engine that is not reached an error without a status. To the question whether something exists a
library returns yes or no. The two libraries differ in what they return and in where an error
carries what (`Conveys`), and in how that is read back (`Reads`).
-/

namespace EngineGateway.Client

/-- The answers of a library that convey an event: what it returns for an answer of success is
`accepted`, the errors for any other one are `refused`, and its errors are of the given kinds. -/
inductive Conveys (accepted : Int → Fields → Answer) (refused : Int → Fields → Error → Prop)
    (kinds : List Text) (call : Call) : Event → Answer → Prop where
  | accepted {status : Int} {fields : Fields} (asked : call.want ≠ .presence)
      (success : Status.isSuccess (.int status) = true) :
      Conveys accepted refused kinds call (.answered status fields) (accepted status fields)
  | found {status : Int} {fields : Fields} (asked : call.want = .presence)
      (success : Status.isSuccess (.int status) = true) :
      Conveys accepted refused kinds call (.answered status fields) (.value (.bool true))
  | missing {fields : Fields} (asked : call.want = .presence) :
      Conveys accepted refused kinds call (.answered 404 fields) (.value (.bool false))
  | refused {status : Int} {fields : Fields} {error : Error}
      (failed : Status.isSuccess (.int status) = false)
      (other : call.want = .presence → status ≠ 404) (carries : refused status fields error) :
      Conveys accepted refused kinds call (.answered status fields) (.raised error)
  | lost {error : Error} (known : error.Among kinds) (unanswered : error.status? = none) :
      Conveys accepted refused kinds call .lost (.raised error)

/-- The replies that an error means: its failure, and to a raw request what it says of the response.
-/
structure Error.Means (known : List Text) (error : Error)
    (reply : (want : Want) → Except Failure want.Reply) : Prop where
  data : reply .data = .error (error.failureAmong known)
  presence : reply .presence = .error (error.failureAmong known)
  response : reply .response = error.responseAmong known

/-- How the answers of a library are read: each as what it conveys. -/
structure Reads (accepted : Int → Fields → Answer) (refused : Int → Fields → Error → Prop)
    (kinds : List Text) (reply : Answer → (want : Want) → Except Failure want.Reply) : Prop where
  data : ∀ status fields, reply (accepted status fields) .data = .ok (.obj fields)
  response : ∀ status fields, Status.isSuccess (.int status) = true →
    Alike (Want.Matches .response) (reply (accepted status fields) .response)
      (.ok ⟨.int status, .obj fields⟩)
  presence : ∀ found, reply (.value (.bool found)) .presence = .ok found
  means : ∀ error : Error, error.Means kinds (reply (.raised error))
  among : ∀ status fields error, refused status fields error → error.Among kinds
  status : ∀ status fields error, refused status fields error → error.status? = some status
  payload : ∀ status fields error, refused status fields error → error.payload = .obj fields

/-- What an engine's refusal means to who wants no raw response. -/
theorem reply_of_refused {status : Int} {fields : Fields}
    (failed : Status.isSuccess (.int status) = false) {want : Want} (asked : want ≠ .response)
    (other : want = .presence → status ≠ 404) :
    (Event.answered status fields).reply want = .error (.reported (.int status) (.obj fields)) := by
  cases want with
  | data => simp [Event.reply, failed]
  | presence => simp [Event.reply, failed, other rfl]
  | response => exact absurd rfl asked

/-- What an answer of success means to who asks whether something exists. -/
theorem reply_presence_of_success {status : Int} {fields : Fields}
    (success : Status.isSuccess (.int status) = true) :
    (Event.answered status fields).reply .presence = .ok true := by
  have present : status ≠ 404 := by
    rintro rfl
    simp [Status.isSuccess_int] at success
  simp [Event.reply, success, present]

section

variable {accepted : Int → Fields → Answer} {refused : Int → Fields → Error → Prop}
  {kinds : List Text} {reply : Answer → (want : Want) → Except Failure want.Reply}

/-- An error that hands on an engine's refusal means what the refusal means. -/
theorem Reads.alike_of_refused (reads : Reads accepted refused kinds reply) {status : Int}
    {fields : Fields} {error : Error} (failed : Status.isSuccess (.int status) = false)
    (carries : refused status fields error) (want : Want)
    (other : want = .presence → status ≠ 404) :
    Alike want.Matches (reply (.raised error) want)
      ((Event.answered status fields).reply want) := by
  have known := Error.isAmong_iff.2 (reads.among _ _ _ carries)
  have carried := reads.status _ _ _ carries
  have told := reads.payload _ _ _ carries
  have failure : error.failureAmong kinds = .reported (.int status) (.obj fields) := by
    simp [Error.failureAmong, Error.failure, known, carried, told]
  cases want with
  | data =>
    rw [(reads.means error).data, reply_of_refused failed (by simp) other, failure]
    exact .failure (.same _)
  | presence =>
    rw [(reads.means error).presence, reply_of_refused failed (by simp) other, failure]
    exact .failure (.same _)
  | response =>
    have outcome : error.responseAmong kinds = .ok ⟨.int status, .obj fields⟩ := by
      simp [Error.responseAmong, known, carried, told]
    rw [(reads.means error).response, outcome]
    exact .value (Want.matches_self .response _)

/-- An error without a status means that the engine was not reached. -/
theorem Reads.alike_of_lost (reads : Reads accepted refused kinds reply) {error : Error}
    (known : error.Among kinds) (unanswered : error.status? = none) (want : Want) :
    Alike want.Matches (reply (.raised error) want) (Event.lost.reply want) := by
  have failure : error.failureAmong kinds = .unreachable error.kind error.text := by
    simp [Error.failureAmong, Error.failure, Error.isAmong_iff.2 known, unanswered]
  have outcome : error.responseAmong kinds = .error (error.failureAmong kinds) := by
    simp [Error.responseAmong, unanswered]
  have failed : reply (.raised error) want = .error (.unreachable error.kind error.text) := by
    cases want with
    | data => rw [(reads.means error).data, failure]
    | presence => rw [(reads.means error).presence, failure]
    | response => exact (reads.means error).response.trans (failure ▸ outcome)
  rw [failed]
  exact .failure (.unreached ..)

/-- An answer of a library that is read so means what the event means that it conveys. -/
theorem Reads.alike (reads : Reads accepted refused kinds reply) {call : Call} {event : Event}
    {answer : Answer} (conveys : Conveys accepted refused kinds call event answer) :
    Alike call.want.Matches (reply answer call.want) (event.reply call.want) := by
  cases conveys with
  | @accepted status fields asked success =>
    generalize call.want = want at asked ⊢
    cases want with
    | data =>
      rw [reads.data]
      simp only [Event.reply, success, if_true]
      exact .value rfl
    | presence => exact absurd rfl asked
    | response => exact reads.response status fields success
  | found asked success =>
    rw [asked, reads.presence, reply_presence_of_success success]
    exact .value rfl
  | missing asked =>
    rw [asked, reads.presence]
    exact .value rfl
  | refused failed other carries => exact reads.alike_of_refused failed carries call.want other
  | lost known unanswered => exact reads.alike_of_lost known unanswered call.want

end

/-- The call to which no answer comes is one to an engine that was not reached. -/
theorem silence_of_mem {known : List Text} (among : ("TransportError" : Text) ∈ known) :
    silence known = .unreachable "TransportError" exhausted := by
  have transport (error : Error) (own : error.kind = "TransportError") : error.Among known :=
    .of_kind List.mem_cons_self (own ▸ among)
  rw [silence, Error.failureAmong, if_pos (Error.isAmong_iff.2 (transport _ rfl))]
  rfl

namespace Elasticsearch

/-- What the library returns for an answer of success. -/
def accepted (status : Int) (fields : Fields) : Answer := .response (.int status) (.obj fields)

/-- The errors by which the library hands on any other answer. -/
def Refused (status : Int) (fields : Fields) (error : Error) : Prop :=
  ("ApiError" : Text) ∈ error.kinds ∧ error.metaStatus = some (.int status) ∧
    error.body = some (.obj fields)

/-- The library's answers are read as what they convey, if all kinds of its errors are known. -/
theorem reads {known : List Text} (included : ∀ kind ∈ errorKinds, kind ∈ known) :
    Reads accepted Refused known (replyOf known) where
  data _ _ := rfl
  response _ _ _ := .value (Want.matches_self .response _)
  presence _ := rfl
  means _ := ⟨rfl, rfl, rfl⟩
  among _ _ _ refused := .of_kind refused.1 (included _ List.mem_cons_self)
  status _ _ error refused := by simp [Error.status?, refused.2.1]
  payload _ _ error refused := by simp [Error.payload, Error.filled?, refused.2.2]

/-- How events come through the library. -/
def rendering (known : List Text) (included : ∀ kind ∈ errorKinds, kind ∈ known) :
    Rendering Answer where
  backend := backend known
  conveys := Conveys accepted Refused known
  carries _ := True
  silent := by
    change (silence known).Akin _
    rw [silence_of_mem (included _ (List.mem_cons_of_mem _ List.mem_cons_self))]
    exact .unreached ..
  refused _ _ := rfl
  written call _ common _ := by
    cases call with
    | createIndex name body =>
      have unset : body.truthy = false := common
      exact ⟨_, by simp only [backend, encode, unset]; rfl⟩
    | putPipeline id body =>
      obtain ⟨fields, rfl, absent, texts⟩ := common
      exact ⟨_, by simp only [backend, encode, spread, absent, texts]; rfl⟩
    | pipelineExists id => exact common.elim
    | _ => exact ⟨_, rfl⟩
  heard _ _ _ _ _ _ conveyed := (reads included).alike conveyed

/-- The error by which the library says that nothing was found. -/
def missing : Error where
  kind := "NotFoundError"
  bases := ["ApiError"]
  text := "missing"
  metaStatus := some (.int 404)
  body := some (.obj [])

/-- It hands on what an engine answers that has nothing to say on it. -/
theorem refused_missing : Refused 404 [] missing :=
  ⟨List.mem_cons_of_mem _ List.mem_cons_self, rfl, rfl⟩

end Elasticsearch

namespace Opensearch

/-- What the library returns for an answer of success. -/
def accepted (_ : Int) (fields : Fields) : Answer := .value (.obj fields)

/-- The errors by which the library hands on any other answer. -/
def Refused (status : Int) (fields : Fields) (error : Error) : Prop :=
  ("TransportError" : Text) ∈ error.kinds ∧ error.metaStatus = none ∧
    error.statusCode = some (.int status) ∧ error.body = none ∧ error.info = some (.obj fields)

/-- The library's answers are read as what they convey, but for the question for a pipeline. -/
theorem reads {known : List Text} (included : ∀ kind ∈ errorKinds, kind ∈ known) {call : Call}
    (common : call.Common) : Reads accepted Refused known (replyOf known call) where
  data _ _ := rfl
  response status fields success :=
    .value ⟨rfl, success.symm, fun failed => Bool.noConfusion failed⟩
  presence _ := by cases call <;> first | rfl | exact common.elim
  means error := ⟨rfl, by cases call <;> first | rfl | exact common.elim, rfl⟩
  among _ _ _ refused := .of_kind refused.1 (included _ List.mem_cons_self)
  status _ _ error refused := by simp [Error.status?, refused.2.1, refused.2.2.1]
  payload _ _ error refused := by
    simp [Error.payload, Error.filled?, refused.2.2.2.1, refused.2.2.2.2]

/-- How events come through the library. -/
def rendering (known : List Text) (included : ∀ kind ∈ errorKinds, kind ∈ known) :
    Rendering Answer where
  backend := backend known
  conveys := Conveys accepted Refused known
  carries _ := True
  silent := by
    change (silence known).Akin _
    rw [silence_of_mem (included _ List.mem_cons_self)]
    exact .unreached ..
  refused _ _ := rfl
  written call _ common _ := by
    cases call with
    | pipelineExists id => exact common.elim
    | _ => exact ⟨_, rfl⟩
  heard _ _ _ _ common _ conveyed := (reads included common).alike conveyed

/-- The error by which the library says that nothing was found. -/
def missing : Error where
  kind := "NotFoundError"
  bases := ["TransportError"]
  text := "missing"
  statusCode := some (.int 404)
  info := some (.obj [])

/-- It hands on what an engine answers that has nothing to say on it. -/
theorem refused_missing : Refused 404 [] missing :=
  ⟨List.mem_cons_of_mem _ List.mem_cons_self, rfl, rfl, rfl, rfl⟩

end Opensearch

end EngineGateway.Client
