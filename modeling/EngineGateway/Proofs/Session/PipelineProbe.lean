import EngineGateway.Proofs.Client.Rendering
import EngineGateway.Proofs.Rest.Reaching
import EngineGateway.Proofs.Rest.Rendering
import EngineGateway.Proofs.Session.Searching
import EngineGateway.Session.Pipelines

/-!
# Two ways to ask for a pipeline

Whether a pipeline exists is asked by a raw request over HTTP and through the Elasticsearch library,
and by a question of its own through the OpenSearch library. What an event tells is decided in two
places then, but by the same rules: not found means no, any other refusal is reported, and an object
says yes if it has a field of that name. One rule differs. A success that names no pipelines at all
counts as a yes where the request was raw, and as a no where the library was asked.
-/

namespace EngineGateway

open Session Talk

variable {α τ : Type}

/-- An engine accepts a request and answers with an object that has no fields. -/
def Event.IsEmptySuccess (event : Event) : Prop :=
  ∃ status, event = .answered status [] ∧ Status.isSuccess (.int status) = true

/-- What an event tells someone who asks for a pipeline, and who takes an object without any fields
for `nameless`. -/
def Event.tellsOfPipeline (id : Text) (nameless : Bool) : Event → Except Failure Bool
  | .lost => .error (.unreachable "" "")
  | .answered status fields =>
    if status = 404 then .ok false
    else if Status.isSuccess (.int status) then
      .ok (if fields.isEmpty then nameless else fields.any fun field => field.1.isName id)
    else .error (.reported (.int status) (.obj fields))

/-- A success is not told by the status of something that was not found. -/
theorem Status.ne_missing_of_isSuccess {status : Int}
    (success : Status.isSuccess (.int status) = true) : status ≠ 404 := by
  rintro rfl
  exact absurd success (by decide)

/-- The success without any fields is what two such people may understand in two ways. -/
theorem Event.tellsOfPipeline_of_isEmptySuccess {event : Event} (empty : event.IsEmptySuccess)
    (id : Text) (nameless : Bool) : event.tellsOfPipeline id nameless = .ok nameless := by
  obtain ⟨status, rfl, success⟩ := empty
  have present := Status.ne_missing_of_isSuccess success
  simp only [tellsOfPipeline, present, success, if_true, if_false, List.isEmpty_nil]

/-- Nothing else is. -/
theorem Event.tellsOfPipeline_congr {event : Event} (telling : ¬event.IsEmptySuccess) (id : Text)
    (nameless other : Bool) :
    event.tellsOfPipeline id nameless = event.tellsOfPipeline id other := by
  cases event with
  | lost => rfl
  | answered status fields =>
    cases success : Status.isSuccess (.int status) with
    | false => simp only [tellsOfPipeline, success, Bool.false_eq_true, if_false]
    | true =>
      cases fields with
      | nil => exact absurd ⟨status, rfl, success⟩ telling
      | cons field rest => rfl

/-- A raw response is judged by what the event tells. Of a success it does not matter by which
status it is told. -/
theorem Session.probeOutcome_of_matches (id : Text) {status : Int} {fields : Fields}
    {response : RawResponse} (same : Want.Matches .response response ⟨.int status, .obj fields⟩) :
    probeOutcome (.str id) response = (Event.answered status fields).tellsOfPipeline id true := by
  obtain ⟨told, payload⟩ := response
  obtain ⟨rfl, sameOk, sameStatus⟩ := same
  change told.isSuccess = Status.isSuccess (.int status) at sameOk
  cases success : Status.isSuccess (.int status) with
  | true =>
    rw [success] at sameOk
    have found : told.isMissing = false := by
      by_contra missing
      exact absurd (Status.isSuccess_of_isMissing (by simpa using missing)) (by simp [sameOk])
    have present := Status.ne_missing_of_isSuccess success
    simp only [probeOutcome, RawResponse.ok, found, sameOk, Event.tellsOfPipeline, present, success,
      Bool.false_eq_true, Bool.not_true, if_true, if_false]
    cases fields with
    | nil => rfl
    | cons field rest => exact Json.holds_obj_str (field :: rest) id
  | false =>
    rw [success] at sameOk
    obtain rfl : told = .int status := sameStatus sameOk
    by_cases missing : status = 404
    · subst missing
      rfl
    · have found : Status.isMissing (.int status) = false := by
        simpa [Status.isMissing, Json.whole?, Json.key?, Key.whole?] using missing
      simp only [probeOutcome, RawResponse.ok, found, success, Event.tellsOfPipeline, missing,
        Bool.false_eq_true, Bool.not_false, if_true, if_false]

namespace Client.Opensearch

/-- The answers of the library to its own question for a pipeline: it returns the object of a
success, and raises an error of a known kind for everything else. -/
inductive Hands (known : List Text) : Event → Answer → Prop where
  | accepted {status : Int} {fields : Fields} (success : Status.isSuccess (.int status) = true) :
    Hands known (.answered status fields) (accepted status fields)
  | refused {status : Int} {fields : Fields} {error : Error}
      (failed : Status.isSuccess (.int status) = false) (carries : Refused status fields error) :
    Hands known (.answered status fields) (.raised error)
  | lost {error : Error} (among : error.Among known) (unanswered : error.status? = none) :
    Hands known .lost (.raised error)

/-- The library's answer is judged by what the event tells. -/
theorem alike_pipelinePresence {known : List Text} (included : ∀ kind ∈ errorKinds, kind ∈ known)
    (id : Text) {event : Event} {answer : Answer} (hands : Hands known event answer) :
    Alike Eq (pipelinePresence known (.str id) answer) (event.tellsOfPipeline id false) := by
  cases hands with
  | @accepted status fields success =>
    have present := Status.ne_missing_of_isSuccess success
    have told : (Event.answered status fields).tellsOfPipeline id false =
        .ok (fields.any fun field => field.1.isName id) := by
      simp only [Event.tellsOfPipeline, present, success, if_true, if_false]
      cases fields <;> rfl
    rw [told, accepted, pipelinePresence, Json.holds_obj_str]
    exact .value rfl
  | @refused status fields error failed carries =>
    have among : error.isAmong known = true :=
      Error.isAmong_iff.2 (.of_kind carries.1 (included _ List.mem_cons_self))
    have carried : error.status? = some status := by
      simp [Error.status?, carries.2.1, carries.2.2.1]
    have payload : error.payload = .obj fields := by
      simp [Error.payload, Error.filled?, carries.2.2.2.1, carries.2.2.2.2]
    by_cases missing : status = 404
    · subst missing
      simp only [pipelinePresence, among, carried, Event.tellsOfPipeline]
      exact .value rfl
    · have other : (some status == some 404) = false := by simpa using missing
      simp only [pipelinePresence, among, carried, other, Event.tellsOfPipeline, missing, failed,
        Error.failureAmong, Error.failure, payload, Bool.and_false, Bool.false_eq_true, if_false,
        if_true]
      exact .failure (.same _)
  | @lost error own unanswered =>
    have among : error.isAmong known = true := Error.isAmong_iff.2 own
    have other : ((none : Option Int) == some 404) = false := rfl
    simp only [pipelinePresence, among, unanswered, other, Error.failureAmong, Error.failure,
      Bool.and_false, Bool.false_eq_true, if_false, if_true]
    exact .failure (.unreached ..)

end Client.Opensearch

section

variable [Seconds τ]

/-- In a conversation a session knows or finds out that the engine has pipelines, its connection is
open, and `answer` is what comes next. -/
def Session.Awaits (session : Session α τ) (c : Conversation α τ) (answer : α) : Prop :=
  ∃ able d next rest, session.capabilities.run.run c = (.ok able, d) ∧
    able.ingestSupported = true ∧ (session.backend.closesForGood && d.closed) = false ∧
    d.pending = next :: rest ∧ next.answer = answer

/-- What comes of the question whether a pipeline exists. -/
def Session.pipelineOutcome (session : Session α τ) (c : Conversation α τ) (id : Text) :
    Except Failure Bool :=
  ((session.isExistingPipeline (.str id)).run.run c).1

variable {session : Session α τ} {c : Conversation α τ} {answer : α} {id : Text}

/-- What is made of the answer to a call over an open connection. -/
theorem Talk.asked_outcome {β : Type} {backend : Backend α} {call : Call} {request : Request}
    (written : backend.encode call = .ok request) {d : Conversation α τ}
    (passable : (backend.closesForGood && d.closed) = false) {next : Timed α τ}
    (present : ∃ rest, d.pending = next :: rest) (judge : call.Reply → Except Failure β) :
    ((Talk.ask backend call >>= fun reply => Talk.outcome (judge reply)).run.run d).1 =
      (backend.decode call next.answer).bind judge := by
  obtain ⟨rest, present⟩ := present
  have asked := congrArg Prod.fst (run_ask_of_answer written passable present)
  rw [outcome_bind fun reply d => run_outcome (judge reply) d, asked]
  rfl

/-- A backend that has a question of its own for pipelines is asked it. -/
theorem Session.Awaits.typed_outcome (awaits : session.Awaits c answer)
    (typed : session.backend.typedProbe = true) {request : Request}
    (written : session.backend.encode (.pipelineExists (.str id)) = .ok request) :
    session.pipelineOutcome c id = session.backend.decode (.pipelineExists (.str id)) answer := by
  obtain ⟨able, d, next, rest, derived, supported, passable, present, rfl⟩ := awaits
  unfold pipelineOutcome isExistingPipeline isIngestSupported
  rw [bind_assoc, run_bind, derived]
  simp only [pure_bind, supported, Bool.not_true, Bool.false_eq_true, if_false]
  refine (congrArg (fun talk : Talk α τ Bool => (talk.run.run d).1) (if_pos typed)).trans ?_
  exact congrArg Prod.fst (run_ask_of_answer written passable present)

/-- Any other backend is given a raw request, if the id can stand in a path. -/
theorem Session.Awaits.raw_outcome (awaits : session.Awaits c answer)
    (untyped : session.backend.typedProbe = false) {path : String}
    (built : Rest.pipelinePath (.str id) = .ok path) {request : Request}
    (written : session.backend.encode (pipelineProbe path) = .ok request) :
    session.pipelineOutcome c id =
      (session.backend.decode (pipelineProbe path) answer).bind (probeOutcome (.str id)) := by
  obtain ⟨able, d, next, rest, derived, supported, passable, present, rfl⟩ := awaits
  unfold pipelineOutcome isExistingPipeline isIngestSupported
  rw [bind_assoc, run_bind, derived]
  simp only [pure_bind, supported, Bool.not_true, Bool.false_eq_true, if_false]
  have raw : ¬session.backend.typedProbe = true := by simp [untyped]
  refine (congrArg (fun talk : Talk α τ Bool => (talk.run.run d).1) (if_neg raw)).trans ?_
  rw [run_bind, run_say, built]
  refine asked_outcome written ?_ ?_ (probeOutcome (.str id))
  · exact passable
  · exact ⟨rest, present⟩

/-- Where a raw request hears what an event means, it is judged by what the event tells. -/
theorem Session.Awaits.raw_alike (awaits : session.Awaits c answer)
    (untyped : session.backend.typedProbe = false) {path : String}
    (built : Rest.pipelinePath (.str id) = .ok path) {request : Request}
    (written : session.backend.encode (pipelineProbe path) = .ok request) {event : Event}
    (heard : Alike (Want.Matches .response)
      (session.backend.decode (pipelineProbe path) answer) (event.reply .response)) :
    Alike Eq (session.pipelineOutcome c id) (event.tellsOfPipeline id true) := by
  rw [awaits.raw_outcome untyped built written]
  generalize session.backend.decode (pipelineProbe path) answer = reply at heard ⊢
  cases event with
  | lost =>
    cases heard with
    | failure akin => exact .failure akin
  | answered status fields =>
    cases heard with
    | value related =>
      rw [← probeOutcome_of_matches id related]
      exact .refl _

/-- Over HTTP a question for a pipeline that reaches the engine is judged by what the event tells.
-/
theorem Session.Awaits.http_alike {session : Session Rest.Answer τ}
    {c : Conversation Rest.Answer τ} {answer : Rest.Answer} (awaits : session.Awaits c answer)
    {engine : Rest.Address} (own : session.backend = Rest.backend engine) {path : String}
    (built : Rest.pipelinePath (.str id) = .ok path)
    (reaches : Rest.Reaches engine (pipelineProbe path)) {event : Event}
    (conveys : Rest.Conveys event answer) :
    Alike Eq (session.pipelineOutcome c id) (event.tellsOfPipeline id true) := by
  obtain ⟨request, written⟩ := reaches.encode_eq Rest.sendable_null
  have carries : Rest.Carries engine ⟨pipelineProbe path, .error .notFinite⟩ :=
    ⟨⟨request, written⟩, reaches.addressFault?_eq, nofun⟩
  refine awaits.raw_alike (by rw [own]; rfl) built (by rw [own]; exact written) ?_
  rw [own]
  exact Rest.alike_decode carries conveys

/-- Through the Elasticsearch library it is judged in the same way, if its id can stand in a path.
-/
theorem Session.Awaits.elasticsearch_alike {session : Session Client.Answer τ}
    {c : Conversation Client.Answer τ} {answer : Client.Answer} (awaits : session.Awaits c answer)
    {known : List Text} (own : session.backend = Client.Elasticsearch.backend known)
    (included : ∀ kind ∈ Client.Elasticsearch.errorKinds, kind ∈ known) {path : String}
    (built : Rest.pipelinePath (.str id) = .ok path) {event : Event}
    (conveys : Client.Conveys Client.Elasticsearch.accepted Client.Elasticsearch.Refused known
      (pipelineProbe path) event answer) :
    Alike Eq (session.pipelineOutcome c id) (event.tellsOfPipeline id true) := by
  refine awaits.raw_alike (by rw [own]; rfl) built (by rw [own]; rfl) ?_
  rw [own]
  exact (Client.Elasticsearch.rendering known included).heard (pipelineProbe path)
    (.error .notFinite) event answer trivial trivial conveys

/-- Through the OpenSearch library a success without any fields is no yes. -/
theorem Session.Awaits.opensearch_alike {session : Session Client.Answer τ}
    {c : Conversation Client.Answer τ} {answer : Client.Answer} (awaits : session.Awaits c answer)
    {known : List Text} (own : session.backend = Client.Opensearch.backend known)
    (included : ∀ kind ∈ Client.Opensearch.errorKinds, kind ∈ known) {event : Event}
    (hands : Client.Opensearch.Hands known event answer) :
    Alike Eq (session.pipelineOutcome c id) (event.tellsOfPipeline id false) := by
  rw [awaits.typed_outcome (by rw [own]; rfl) (by rw [own]; rfl), own]
  exact Client.Opensearch.alike_pipelinePresence included id hands

end

/-- An outcome that is like a value is that value. -/
theorem Alike.eq_ok {β : Type} {outcome : Except Failure β} {value : β}
    (alike : Alike Eq outcome (.ok value)) : outcome = .ok value := by
  cases alike with
  | value same => rw [same]

/-- The raw request and the question of the OpenSearch library agree. For every id that is a string,
every engine that has pipelines, and every event that comes to the three backends in their own
forms, they give the same answer or fail alike, unless the engine accepts the request and answers
with an object that has no fields: then the raw requests say yes and the library's question says no.
The raw requests over HTTP and through the Elasticsearch library agree on that as well. -/
theorem probes_agree_but_for_an_empty_success [Seconds τ] {direct : Session Rest.Answer τ}
    {elastic opened : Session Client.Answer τ} {engine : Rest.Address}
    {known alsoKnown : List Text} (overHttp : direct.backend = Rest.backend engine)
    (throughElastic : elastic.backend = Client.Elasticsearch.backend known)
    (throughOpened : opened.backend = Client.Opensearch.backend alsoKnown)
    (included : ∀ kind ∈ Client.Elasticsearch.errorKinds, kind ∈ known)
    (alsoIncluded : ∀ kind ∈ Client.Opensearch.errorKinds, kind ∈ alsoKnown) {id : String}
    (reaches : ∀ path, Rest.pipelinePath (.str id) = .ok path →
      Rest.Reaches engine (pipelineProbe path)) {event : Event}
    {toDirect : Rest.Answer} {toElastic toOpened : Client.Answer}
    (conveysDirect : Rest.Conveys event toDirect)
    (conveysElastic : ∀ path, Client.Conveys Client.Elasticsearch.accepted
      Client.Elasticsearch.Refused known (pipelineProbe path) event toElastic)
    (conveysOpened : Client.Opensearch.Hands alsoKnown event toOpened)
    {c : Conversation Rest.Answer τ} {d e : Conversation Client.Answer τ}
    (directAwaits : direct.Awaits c toDirect) (elasticAwaits : elastic.Awaits d toElastic)
    (openedAwaits : opened.Awaits e toOpened) :
    Alike Eq (direct.pipelineOutcome c id) (elastic.pipelineOutcome d id) ∧
      (¬event.IsEmptySuccess →
        Alike Eq (direct.pipelineOutcome c id) (opened.pipelineOutcome e id) ∧
          Alike Eq (elastic.pipelineOutcome d id) (opened.pipelineOutcome e id)) ∧
      (event.IsEmptySuccess → direct.pipelineOutcome c id = .ok true ∧
        elastic.pipelineOutcome d id = .ok true ∧ opened.pipelineOutcome e id = .ok false) := by
  obtain ⟨path, built⟩ := Rest.pipelinePath_ofString id
  have first := directAwaits.http_alike overHttp built (reaches path built) conveysDirect
  have second :=
    elasticAwaits.elasticsearch_alike throughElastic included built (conveysElastic path)
  have third : Alike Eq (opened.pipelineOutcome e id) (event.tellsOfPipeline id false) :=
    openedAwaits.opensearch_alike throughOpened alsoIncluded conveysOpened
  refine ⟨first.trans second.symm, fun telling => ?_, fun empty => ?_⟩
  · rw [Event.tellsOfPipeline_congr telling id false true] at third
    exact ⟨first.trans third.symm, second.trans third.symm⟩
  · rw [Event.tellsOfPipeline_of_isEmptySuccess empty] at first second third
    exact ⟨first.eq_ok, second.eq_ok, third.eq_ok⟩

/-! ### One answer to each of the three -/

/-- A conversation with an engine that has pipelines and has one more answer. -/
def awaiting {α : Type} (answer : α) : Conversation α Float where
  pending := [⟨answer, 0⟩]
  now := 0
  memory := { capabilities := some { ingestSupported := true, mappingStyle := .typeless } }

/-- In such a conversation the answer is awaited. -/
theorem awaits_awaiting {α : Type} (session : Session α Float) (answer : α) :
    session.Awaits (awaiting answer) answer :=
  ⟨_, _, _, _, rfl, rfl, Bool.and_false _, rfl, rfl⟩

/-- The three agree that a pipeline is missing, and do not on what an empty success says. -/
theorem probes_of_missing_pipeline_and_of_empty_success :
    Alike Eq (directly.pipelineOutcome (awaiting (Rest.bodiless 404)) "p")
        (throughOpensearch.pipelineOutcome (awaiting (.raised Client.Opensearch.missing)) "p") ∧
      Alike Eq (throughClient.pipelineOutcome (awaiting (.raised Client.Elasticsearch.missing)) "p")
        (throughOpensearch.pipelineOutcome (awaiting (.raised Client.Opensearch.missing)) "p") ∧
      directly.pipelineOutcome (awaiting (Rest.bodiless 200)) "p" = .ok true ∧
      throughClient.pipelineOutcome (awaiting (.response (.int 200) (.obj []))) "p" = .ok true ∧
      throughOpensearch.pipelineOutcome (awaiting (.value (.obj []))) "p" = .ok false := by
  have reaches : ∀ path, Rest.pipelinePath (.str "p") = .ok path →
      Rest.Reaches Rest.simplest (pipelineProbe path) := by
    rintro path ⟨⟩
    exact ⟨_, rfl, rfl, rfl⟩
  have failed : Status.isSuccess (.int 404) = false := rfl
  have success : Status.isSuccess (.int 200) = true := rfl
  have overHttp : directly.backend = Rest.backend Rest.simplest := rfl
  have throughElastic : throughClient.backend =
      Client.Elasticsearch.backend Client.Elasticsearch.errorKinds := rfl
  have throughOpened : throughOpensearch.backend =
      Client.Opensearch.backend Client.Opensearch.errorKinds := rfl
  have missing : Rest.Conveys (.answered 404 []) (Rest.bodiless 404) := .answered rfl
  have empty : Rest.Conveys (.answered 200 []) (Rest.bodiless 200) := .answered rfl
  obtain ⟨-, agree, -⟩ := probes_agree_but_for_an_empty_success overHttp throughElastic
    throughOpened (fun _ member => member) (fun _ member => member) reaches missing
    (fun _ => .refused failed nofun Client.Elasticsearch.refused_missing)
    (.refused failed Client.Opensearch.refused_missing)
    (awaits_awaiting _ _) (awaits_awaiting _ _) (awaits_awaiting _ _)
  obtain ⟨-, -, disagree⟩ := probes_agree_but_for_an_empty_success overHttp throughElastic
    throughOpened (fun _ member => member) (fun _ member => member) reaches empty
    (fun _ => .accepted nofun success) (.accepted success) (awaits_awaiting _ _)
    (awaits_awaiting _ _) (awaits_awaiting _ _)
  have telling : ¬Event.IsEmptySuccess (.answered 404 []) := by
    rintro ⟨status, same, accepted⟩
    cases same
    exact absurd accepted (by decide)
  obtain ⟨first, second⟩ := agree telling
  exact ⟨first, second, disagree ⟨200, rfl, success⟩⟩

/-- The same event comes to the three backends, and to the question for a pipeline the raw requests
answer otherwise than the OpenSearch library. -/
def ProbedApart (id : Text) : Prop :=
  ∃ event toDirect toElastic toOpened, Rest.Conveys event toDirect ∧
    (∀ path, Client.Conveys Client.Elasticsearch.accepted Client.Elasticsearch.Refused
      Client.Elasticsearch.errorKinds (pipelineProbe path) event toElastic) ∧
    Client.Opensearch.Hands Client.Opensearch.errorKinds event toOpened ∧
    ¬Alike Eq (directly.pipelineOutcome (awaiting toDirect) id)
      (throughOpensearch.pipelineOutcome (awaiting toOpened) id) ∧
    ¬Alike Eq (throughClient.pipelineOutcome (awaiting toElastic) id)
      (throughOpensearch.pipelineOutcome (awaiting toOpened) id)

/-- That is so where the engine accepts the request and answers with nothing, and for an id that
cannot stand in a path. -/
theorem probed_apart_by_empty_success_and_half :
    ProbedApart "p" ∧ ProbedApart ⟨[.half 0xD800]⟩ := by
  refine ⟨⟨.answered 200 [], Rest.bodiless 200, .response (.int 200) (.obj []), .value (.obj []),
      .answered rfl, fun _ => .accepted nofun rfl, .accepted rfl, ?_, ?_⟩,
    ⟨.answered 404 [], Rest.bodiless 404, .raised Client.Elasticsearch.missing,
      .raised Client.Opensearch.missing, .answered rfl,
      fun _ => .refused rfl nofun Client.Elasticsearch.refused_missing,
      .refused rfl Client.Opensearch.refused_missing, ?_, ?_⟩⟩
  · exact fun alike => nomatch (alike : Alike Eq (.ok true) (.ok false))
  · exact fun alike => nomatch (alike : Alike Eq (.ok true) (.ok false))
  · exact fun alike => nomatch (alike : Alike Eq (.error .unencodable) (.ok false))
  · exact fun alike => nomatch (alike : Alike Eq (.error .unencodable) (.ok false))

end EngineGateway
