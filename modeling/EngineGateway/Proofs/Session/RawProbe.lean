import EngineGateway.Proofs.Backend.Meaning
import EngineGateway.Proofs.Session.PipelineProbe

/-!
# The raw request for a pipeline

A pipeline exists, so the raw request for it is read, unless the status says that it was not found
or, on success, the body is an object with other fields only. An object is so read exactly, whatever
the id. A body that is there and is no object names no pipeline at all, and is read as a yes
nevertheless.
-/

namespace EngineGateway

open Session Talk

/-- An answer to a raw request has a status and a payload: over HTTP any answer whose body can be
read, and through the Elasticsearch library a response or an error of a known kind with a status. -/
inductive Backend.Responds : {α : Type} → Backend α → Call → α → Int → Json → Prop where
  | http {engine : Rest.Address} {call : Call} {status : Int} {octets : List UInt8} {payload : Json}
      (usable : Rest.addressFault? engine call = none)
      (read : Rest.payloadOf octets = .ok payload) :
    Responds (Rest.backend engine) call (.answered (.int status) octets) status payload
  | response {known : List Text} {call : Call} {status : Int} {payload : Json} :
    Responds (Client.Elasticsearch.backend known) call (.response (.int status) payload) status
      payload
  | raised {known : List Text} {call : Call} {error : Client.Error} {status : Int}
      {payload : Json}
      (among : error.Among known)
      (carries : error.Carries status) (tells : error.Tells payload) :
    Responds (Client.Elasticsearch.backend known) call (.raised error) status payload

/-- A payload that stands for an answer without a body. -/
inductive Json.Bodiless : Json → Prop where
  | fieldless : Bodiless (.obj [])
  | null : Bodiless .null
  | textless : Bodiless (.str ⟨[]⟩)

/-- A payload is an object that has a field of exactly that name. -/
def Json.Names (payload : Json) (id : Text) : Prop :=
  ∃ fields value, payload = .obj fields ∧ (Key.name id, value) ∈ fields

/-- What an answer says of a pipeline. One that was not found does not exist; another refusal is
reported; and on success the pipeline exists if the body names it or there is no body. -/
inductive SaysOfPipeline (id : Text) (status : Int) (payload : Json) : Except Failure Bool → Prop
    where
  | missing (missing : status = 404) : SaysOfPipeline id status payload (.ok false)
  | refused (present : status ≠ 404) (failed : ¬(200 ≤ status ∧ status < 300)) :
    SaysOfPipeline id status payload (.error (.reported (.int status) payload))
  | named (success : 200 ≤ status ∧ status < 300) (named : payload.Bodiless ∨ payload.Names id) :
    SaysOfPipeline id status payload (.ok true)
  | unnamed (success : 200 ≤ status ∧ status < 300)
      (unnamed : ¬(payload.Bodiless ∨ payload.Names id)) :
    SaysOfPipeline id status payload (.ok false)

/-- On success a body that is there and is no object. -/
def Misleading (status : Int) (payload : Json) : Prop :=
  (200 ≤ status ∧ status < 300) ∧ (∀ fields, payload ≠ .obj fields) ∧ ¬payload.Bodiless

section

variable {α τ : Type} {id : Text} {status : Int} {payload : Json}

/-- A session asks for pipelines by raw requests where answers to them are such answers. -/
theorem Backend.Responds.untyped {backend : Backend α} {call : Call} {answer : α}
    (responds : backend.Responds call answer status payload) : backend.typedProbe = false := by
  cases responds <;> rfl

/-- A raw request is told the status and the payload. -/
theorem Backend.Responds.decode {backend : Backend α} {path : String} {answer : α}
    (responds : backend.Responds (pipelineProbe path) answer status payload) :
    backend.decode (pipelineProbe path) answer = .ok ⟨.int status, payload⟩ := by
  cases responds with
  | http usable read => exact Rest.decode_answered usable read
  | response => rfl
  | @raised known call error status payload among carries tells =>
    have adapts := Client.Adapts.elasticsearch known
    have read := Client.Error.status?_eq_some_iff.2 carries
    rw [adapts.decode_of_status ⟨_, rfl⟩ among read, Client.Error.payload_eq_iff.2 tells]
    rfl

/-- An object has a field of a name if one of its keys is that name. -/
theorem Fields.any_isName_iff (fields : Fields) (id : Text) :
    (fields.any fun field => field.1.isName id) = true ↔ (Json.obj fields).Names id := by
  rw [List.any_eq_true]
  constructor
  · rintro ⟨⟨key, value⟩, member, same⟩
    cases key with
    | name text =>
      obtain rfl : text = id := by simpa using same
      exact ⟨fields, value, rfl, member⟩
    | _ => cases same
  · rintro ⟨_, value, ⟨⟩, member⟩
    exact ⟨_, member, by simp⟩

/-- An object stands for no body only if it has no fields. -/
theorem Json.not_bodiless_cons (field : Key × Json) (rest : Fields) :
    ¬(Json.obj (field :: rest)).Bodiless := nofun

/-- A text stands for no body only if it is empty. -/
theorem Json.eq_nil_of_bodiless_str {text : Text} (bodiless : (Json.str text).Bodiless) :
    text.points = [] := by
  cases bodiless
  rfl

/-- What is made of an answer that is neither a success nor tells that something is missing. -/
theorem Session.probeOutcome_of_failed (present : status ≠ 404)
    (failed : ¬(200 ≤ status ∧ status < 300)) :
    probeOutcome (.str id) ⟨.int status, payload⟩ = .error (.reported (.int status) payload) := by
  have found : Status.isMissing (.int status) = false :=
    Bool.eq_false_iff.2 (mt (Status.isMissing_int status).1 present)
  have refused : RawResponse.ok ⟨.int status, payload⟩ = false := by
    simpa [RawResponse.ok, Status.isSuccess_int] using failed
  unfold probeOutcome
  rw [found, refused]
  rfl

/-- What is made of an answer of success. -/
theorem Session.probeOutcome_of_success (success : 200 ≤ status ∧ status < 300) :
    probeOutcome (.str id) ⟨.int status, payload⟩ =
      match payload with
      | .obj (field :: rest) => .ok ((field :: rest).any fun field => field.1.isName id)
      | _ => .ok true := by
  have accepted : RawResponse.ok ⟨.int status, payload⟩ = true := by
    simpa [RawResponse.ok, Status.isSuccess_int] using success
  have found : Status.isMissing (.int status) = false :=
    Bool.eq_false_iff.2 (mt (Status.isMissing_int status).1 (by omega))
  unfold probeOutcome
  rw [found, accepted]
  cases payload with
  | obj fields =>
    cases fields with
    | nil => rfl
    | cons field rest => exact Json.holds_obj_str (field :: rest) id
  | _ => rfl

/-- The answer to a raw request is judged by what it says of the pipeline, unless its body is
misleading. -/
theorem Session.probeOutcome_says (telling : ¬Misleading status payload) :
    SaysOfPipeline id status payload (probeOutcome (.str id) ⟨.int status, payload⟩) := by
  by_cases missing : status = 404
  · subst missing
    exact .missing rfl
  by_cases success : 200 ≤ status ∧ status < 300
  · rw [probeOutcome_of_success success]
    cases payload with
    | obj fields =>
      cases fields with
      | nil => exact .named success (.inl .fieldless)
      | cons field rest =>
        have names := Fields.any_isName_iff (field :: rest) id
        change SaysOfPipeline id status _ (.ok ((field :: rest).any fun field => field.1.isName id))
        cases found : (field :: rest).any fun field => field.1.isName id with
        | true => exact .named success (.inr (names.1 found))
        | false =>
          have absent : ¬(Json.obj (field :: rest)).Names id := by simp [← names, found]
          exact .unnamed success (not_or.2 ⟨Json.not_bodiless_cons field rest, absent⟩)
    | _ =>
      refine .named success (.inl ?_)
      by_contra full
      exact telling ⟨success, nofun, full⟩
  · rw [probeOutcome_of_failed missing success]
    exact .refused missing success

/-- A misleading body is taken for a yes, and says no. -/
theorem Misleading.probeOutcome_eq (misleading : Misleading status payload) (id : Text) :
    probeOutcome (.str id) ⟨.int status, payload⟩ = .ok true ∧
      SaysOfPipeline id status payload (.ok false) := by
  obtain ⟨success, other, full⟩ := misleading
  refine ⟨?_, .unnamed success (not_or.2 ⟨full, ?_⟩)⟩
  · rw [probeOutcome_of_success success]
    cases payload with
    | obj fields => exact absurd rfl (other fields)
    | _ => rfl
  · rintro ⟨fields, value, isObject, member⟩
    exact other fields isObject

/-- Which answers say yes is settled. -/
theorem SaysOfPipeline.not_both (yes : SaysOfPipeline id status payload (.ok true))
    (no : SaysOfPipeline id status payload (.ok false)) : False := by
  cases yes with
  | named success named =>
    cases no with
    | missing missing => omega
    | unnamed success unnamed => exact unnamed named

/-- Over HTTP and through the Elasticsearch library the question for a pipeline comes to exactly
what the answer says of it, for every id that can stand in a path, every status and every body, but
for one kind of answers. A success whose body is there and is no object says that there is no such
pipeline, and the question comes to a yes. -/
theorem raw_probe_is_exact_but_for_misleading_bodies [Seconds τ] {session : Session α τ}
    {c : Conversation α τ} {answer : α} (awaits : session.Awaits c answer) {path : String}
    (built : Rest.pipelinePath (.str id) = .ok path) {request : Request}
    (written : session.backend.encode (pipelineProbe path) = .ok request)
    (responds : session.backend.Responds (pipelineProbe path) answer status payload) :
    (SaysOfPipeline id status payload (session.pipelineOutcome c id) ↔
        ¬Misleading status payload) ∧
      (Misleading status payload → session.pipelineOutcome c id = .ok true ∧
        SaysOfPipeline id status payload (.ok false)) := by
  have judged : session.pipelineOutcome c id =
      probeOutcome (.str id) ⟨.int status, payload⟩ := by
    rw [awaits.raw_outcome responds.untyped built written, responds.decode]
    rfl
  rw [judged]
  refine ⟨⟨fun told misleading => ?_, probeOutcome_says⟩, fun misleading =>
    misleading.probeOutcome_eq id⟩
  obtain ⟨taken, denied⟩ := misleading.probeOutcome_eq id
  rw [taken] at told
  exact told.not_both denied

end

/-- A list of the id that is asked for, as text. -/
def idList : List Char := "[\"p\"]".toList

/-- Such a yes comes of a list over HTTP and of a text through the library, while an object with
another field only is a no. -/
theorem list_and_text_are_taken_for_a_pipeline :
    directly.pipelineOutcome
          (awaiting (.answered (.int 200) (Text.Octets.encode idList))) "p" = .ok true ∧
      throughClient.pipelineOutcome (awaiting (.response (.int 200) (.str "ok"))) "p" = .ok true ∧
      SaysOfPipeline "p" 200 (.arr [.str "p"]) (.ok false) ∧
      SaysOfPipeline "p" 200 (.str "ok") (.ok false) ∧
      SaysOfPipeline "p" 200 (.obj [("q", .obj [])])
        (throughClient.pipelineOutcome
          (awaiting (.response (.int 200) (.obj [("q", .obj [])]))) "p") := by
  have success : 200 ≤ (200 : Int) ∧ (200 : Int) < 300 := by decide
  have list : Misleading 200 (.arr [.str "p"]) := ⟨success, nofun, nofun⟩
  have text : Misleading 200 (.str "ok") := by
    refine ⟨success, nofun, fun bodiless => ?_⟩
    cases Json.eq_nil_of_bodiless_str bodiless
  have object : ¬Misleading 200 (.obj [("q", .obj [])]) := fun misleading =>
    misleading.2.1 _ rfl
  have body : Rest.payloadOf (Text.Octets.encode idList) = .ok (.arr [.str "p"]) :=
    Rest.payloadOf_encode (by rfl) (by cbv)
  have listed : directly.backend.Responds (pipelineProbe "/_ingest/pipeline/p")
      (.answered (.int 200) (Text.Octets.encode idList)) 200 (.arr [.str "p"]) := .http rfl body
  obtain ⟨-, first⟩ := raw_probe_is_exact_but_for_misleading_bodies (awaits_awaiting directly _)
    (rfl : Rest.pipelinePath (.str "p") = _) rfl listed
  obtain ⟨-, second⟩ := raw_probe_is_exact_but_for_misleading_bodies
    (awaits_awaiting throughClient _) (rfl : Rest.pipelinePath (.str "p") = _) rfl .response
  obtain ⟨third, -⟩ := raw_probe_is_exact_but_for_misleading_bodies
    (awaits_awaiting throughClient _) (rfl : Rest.pipelinePath (.str "p") = _) rfl .response
  exact ⟨(first list).1, (second text).1, (first list).2, (second text).2, third.2 object⟩

end EngineGateway
