import EngineGateway.Proofs.Backend.Data

/-!
# Errors of client libraries, translated

An error that a library raises may carry a status in two places and words of the engine in two more,
and any value may stand there. `Error.Carries` and `Error.Tells` say which of them count. An error
of a known kind, or of a kind that is made from one, is then one of three things: the engine's
answer where a call takes any answer, an error that the engine reported, or a sign that the engine
was not reached. No such error is handed on as it came, and every other error is.
-/

namespace EngineGateway

/-- What comes of a call to which the engine answers with a status and words of its own, by an error
of a library: a raw request takes any answer, a pipeline that is not found does not exist, and
everything else is reported. -/
def Call.refused (call : Call) (status : Int) (payload : Json) : Except Failure call.Reply :=
  match call with
  | .raw .. => .ok ⟨.int status, payload⟩
  | .pipelineExists _ =>
    if status = 404 then .ok false else .error (.reported (.int status) payload)
  | _ => .error (.reported (.int status) payload)

namespace Client

namespace Error

/-- The status of an error is the whole number in its description of the answer, or else the one in
the error itself. A yes or no is no status, and in the description it hides the other place. -/
inductive Carries (error : Error) : Int → Prop where
  | described {status : Int} (found : error.metaStatus = some (.int status)) : Carries error status
  | itself {status : Int} (undescribed : ∀ other, error.metaStatus ≠ some (.int other))
      (unhidden : ∀ flag, error.metaStatus ≠ some (.bool flag))
      (found : error.statusCode = some (.int status)) : Carries error status

/-- A place in which nothing stands, or `null`. -/
def Vacant (place : Option Json) : Prop := place = none ∨ place = some .null

/-- What an error tells is its body, or else its further information, or else its text. -/
inductive Tells (error : Error) : Json → Prop where
  | body {payload : Json} (found : error.body = some payload) (present : payload ≠ .null) :
    Tells error payload
  | info {payload : Json} (bodiless : Vacant error.body) (found : error.info = some payload)
      (present : payload ≠ .null) : Tells error payload
  | text (bodiless : Vacant error.body) (uninformed : Vacant error.info) :
    Tells error (.str error.text)

variable {error : Error} {status : Int} {payload : Json}

/-- The status that is read off an error is the one that it carries. -/
theorem status?_eq_some_iff : error.status? = some status ↔ error.Carries status := by
  constructor
  · intro read
    unfold status? at read
    split at read
    case h_1 described found =>
      cases read
      exact .described found
    case h_2 => cases read
    case h_3 undescribed unhidden =>
      split at read
      case h_1 own found =>
        cases read
        exact .itself undescribed unhidden found
      case h_2 => cases read
  · intro carries
    cases carries with
    | described found => simp only [status?, found]
    | itself undescribed unhidden found =>
      unfold status?
      split
      case h_1 described found => exact absurd found (undescribed described)
      case h_2 flag found => exact absurd found (unhidden flag)
      case h_3 => simp only [found]

/-- An error of which no status is read carries none. -/
theorem status?_eq_none_iff : error.status? = none ↔ ∀ status, ¬error.Carries status := by
  rw [Option.eq_none_iff_forall_ne_some]
  exact forall_congr' fun status => not_congr status?_eq_some_iff

/-- A place is vacant where nothing is taken from it. -/
theorem filled?_eq_none_iff (place : Option Json) : filled? place = none ↔ Vacant place := by
  rcases place with _ | value
  · exact iff_of_true rfl (.inl rfl)
  · cases value <;> simp [filled?, Vacant]

/-- What is taken from a place stands there and is not `null`. -/
theorem filled?_eq_some_iff (place : Option Json) :
    filled? place = some payload ↔ place = some payload ∧ payload ≠ .null := by
  rcases place with _ | value
  · simp [filled?]
  · cases value <;> cases payload <;> simp [filled?]

/-- The payload of an error is what it tells, and it tells nothing else. -/
theorem payload_eq_iff : error.payload = payload ↔ error.Tells payload := by
  unfold Error.payload
  constructor
  · rintro rfl
    cases body : filled? error.body with
    | some told =>
      obtain ⟨found, present⟩ := (filled?_eq_some_iff _).1 body
      exact .body found present
    | none =>
      have bodiless := (filled?_eq_none_iff _).1 body
      cases info : filled? error.info with
      | some told =>
        obtain ⟨found, present⟩ := (filled?_eq_some_iff _).1 info
        exact .info bodiless found present
      | none => exact .text bodiless ((filled?_eq_none_iff _).1 info)
  · intro tells
    cases tells with
    | body found present => simp [(filled?_eq_some_iff _).2 ⟨found, present⟩]
    | info bodiless found present =>
      simp [(filled?_eq_none_iff _).2 bodiless, (filled?_eq_some_iff _).2 ⟨found, present⟩]
    | text bodiless uninformed =>
      simp [(filled?_eq_none_iff _).2 bodiless, (filled?_eq_none_iff _).2 uninformed]

end Error

/-- A backend goes through a client library, of which it knows the given kinds of errors. -/
inductive Adapts : Backend Answer → List Text → Prop where
  | elasticsearch (known : List Text) :
    Adapts (Elasticsearch.backend known) known
  | opensearch (known : List Text) :
    Adapts (Opensearch.backend known) known

section

variable {backend : Backend Answer} {known : List Text} {call : Call} {error : Error} {status : Int}

/-- An error of another kind is handed on as it came. -/
theorem Error.failureAmong_of_unknown (unknown : ¬error.Among known) :
    error.failureAmong known = .passed error.kind error.text := by
  rw [failureAmong, if_neg (mt isAmong_iff.1 unknown)]

/-- An error of a known kind without a status says that the engine was not reached. -/
theorem Error.failureAmong_of_no_status (among : error.Among known)
    (unnumbered : error.status? = none) :
    error.failureAmong known = .unreachable error.kind error.text := by
  rw [failureAmong, if_pos (isAmong_iff.2 among), failure_of_no_status unnumbered]

/-- An error of a known kind with a status is one that the engine reported. -/
theorem Error.failureAmong_of_status (among : error.Among known)
    (numbered : error.status? = some status) :
    error.failureAmong known = .reported (.int status) error.payload := by
  rw [failureAmong, if_pos (isAmong_iff.2 among), failure, numbered]

/-- Whatever is asked of a client library, an error that is no answer of the engine ends it. -/
theorem Adapts.decode_of_no_answer (adapts : Adapts backend known)
    (silent : ¬error.Among known ∨ error.status? = none) :
    backend.decode call (.raised error) = .error (error.failureAmong known) := by
  have raw : error.responseAmong known = .error (error.failureAmong known) := by
    unfold Error.responseAmong
    split
    case h_1 status among numbered =>
      rcases silent with unknown | unnumbered
      · exact absurd (Error.isAmong_iff.1 among) unknown
      · cases unnumbered.symm.trans numbered
    case h_2 => rfl
  have found : (error.isAmong known && error.status? == some 404) = false := by
    rcases silent with unknown | unnumbered
    · rw [Bool.eq_false_iff.2 (mt Error.isAmong_iff.1 unknown), Bool.false_and]
    · simp [unnumbered]
  cases adapts with
  | elasticsearch known =>
    cases call with
    | raw method path body parameters => exact raw
    | _ => rfl
  | opensearch known =>
    cases call with
    | raw method path body parameters => exact raw
    | pipelineExists id => exact if_neg (by rw [found]; exact Bool.false_ne_true)
    | _ => rfl

/-- An error that is an answer of the engine means what the call makes of such an answer. -/
theorem Adapts.decode_of_status (adapts : Adapts backend known)
    (written : ∃ request, backend.encode call = .ok request) (among : error.Among known)
    (numbered : error.status? = some status) :
    backend.decode call (.raised error) = call.refused status error.payload := by
  have reported : error.failureAmong known = .reported (.int status) error.payload :=
    Error.failureAmong_of_status among numbered
  have contained : error.isAmong known = true := Error.isAmong_iff.2 among
  have raw : error.responseAmong known = .ok ⟨.int status, error.payload⟩ := by
    unfold Error.responseAmong
    rw [contained, numbered]
  have probe (id : Name) : Opensearch.pipelinePresence known id (.raised error) =
      (Call.pipelineExists id).refused status error.payload := by
    change (if error.isAmong known && error.status? == some 404 then Except.ok false
      else .error (error.failureAmong known)) = if status = 404 then Except.ok false
      else .error (.reported (.int status) error.payload)
    rw [contained, numbered, reported]
    by_cases missing : status = 404 <;> simp [missing]
  cases adapts with
  | elasticsearch known =>
    cases call with
    | raw method path body parameters => exact raw
    | pipelineExists id =>
      obtain ⟨request, impossible⟩ := written
      cases impossible
    | _ => exact congrArg Except.error reported
  | opensearch known =>
    cases call with
    | raw method path body parameters => exact raw
    | pipelineExists id => exact probe id
    | _ => exact congrArg Except.error reported

end

section

variable {τ : Type} [Seconds τ] {backend : Backend Answer} {known : List Text} {call : Call}
  {error : Error} {c : Conversation Answer τ}

/-- Whatever is asked of a client library that raises an error of a known kind with a status, it
comes to what the call makes of an answer with that status and what the error tells. -/
theorem Adapts.asked_of_status (adapts : Adapts backend known)
    (meets : backend.Meets c call (.raised error)) (among : error.Among known)
    {status : Int} {payload : Json} (carries : error.Carries status) (tells : error.Tells payload) :
    ((Talk.ask backend call : Talk Answer τ call.Reply).run.run c).1 =
      call.refused status payload := by
  have read : error.status? = some status := Error.status?_eq_some_iff.2 carries
  rw [meets.asked, adapts.decode_of_status meets.written among read, Error.payload_eq_iff.2 tells]

/-- Without a status it says that the engine was not reached. -/
theorem Adapts.asked_of_no_status (adapts : Adapts backend known)
    (meets : backend.Meets c call (.raised error)) (among : error.Among known)
    (unnumbered : ∀ status, ¬error.Carries status) :
    ((Talk.ask backend call : Talk Answer τ call.Reply).run.run c).1 =
      .error (.unreachable error.kind error.text) := by
  have absent : error.status? = none := Error.status?_eq_none_iff.2 unnumbered
  rw [meets.asked, adapts.decode_of_no_answer (.inr absent),
    Error.failureAmong_of_no_status among absent]

/-- An error of another kind is handed on as it came, whatever was asked. -/
theorem Adapts.asked_of_unknown (adapts : Adapts backend known)
    (meets : backend.Meets c call (.raised error)) (unknown : ¬error.Among known) :
    ((Talk.ask backend call : Talk Answer τ call.Reply).run.run c).1 =
      .error (.passed error.kind error.text) := by
  rw [meets.asked, adapts.decode_of_no_answer (.inl unknown), Error.failureAmong_of_unknown unknown]

/-- One of the three it is. -/
theorem Adapts.asked_cases (adapts : Adapts backend known)
    (meets : backend.Meets c call (.raised error)) :
    let outcome := ((Talk.ask backend call : Talk Answer τ call.Reply).run.run c).1
    (∃ status, error.Among known ∧ error.Carries status ∧
        outcome = call.refused status error.payload) ∨
      (error.Among known ∧ outcome = .error (.unreachable error.kind error.text)) ∨
      (¬error.Among known ∧ outcome = .error (.passed error.kind error.text)) := by
  have tells : error.Tells error.payload := Error.payload_eq_iff.1 rfl
  by_cases among : error.Among known
  · by_cases carries : ∃ status, error.Carries status
    · obtain ⟨status, carries⟩ := carries
      exact .inl ⟨status, among, carries, adapts.asked_of_status meets among carries tells⟩
    · have unnumbered := not_exists.1 carries
      exact .inr (.inl ⟨among, adapts.asked_of_no_status meets among unnumbered⟩)
  · exact .inr (.inr ⟨among, adapts.asked_of_unknown meets among⟩)

end

/-- What a call makes of an answer of the engine is no trouble of the library. -/
theorem refused_ne_passed (call : Call) (status : Int) (payload : Json) (kind text : Text) :
    call.refused status payload ≠ .error (.passed kind text) := by
  cases call with
  | pipelineExists id =>
    intro passed
    by_cases missing : status = 404
    · cases (if_pos missing).symm.trans passed
    · cases (if_neg missing).symm.trans passed
  | _ => nofun

/-- The question for a pipeline is answered with no on exactly one status. -/
theorem refused_pipelineExists_iff (id : Name) (status : Int) (payload : Json) :
    (Call.pipelineExists id).refused status payload = .ok false ↔ status = 404 := by
  constructor
  · intro refused
    by_cases missing : status = 404
    · exact missing
    · cases (if_neg missing).symm.trans refused
  · exact fun missing => if_pos missing

/-- Errors that a client library raises are translated completely. Whatever is asked through either
library, an error is not handed on if its kind, or one that this is made from, is known. If it
carries a status, a raw request is answered with that status and what the error tells, the question
for a pipeline that is not found with no, and every other call ends in a report of that status and
of what the error tells. Without a status every call says that the engine was not reached. With an
error the question for a pipeline is answered with no in that one case only. An error none of whose
kinds is known is handed on as it came. -/
theorem errors_are_translated {τ : Type} [Seconds τ] {backend : Backend Answer} {known : List Text}
    (adapts : Adapts backend known) (error : Error) (c : Conversation Answer τ) :
    (∀ call, backend.Meets c call (.raised error) →
      let outcome := ((Talk.ask backend call : Talk Answer τ call.Reply).run.run c).1
      (error.Among known →
        (∀ kind text, outcome ≠ .error (.passed kind text)) ∧
        (∃ payload, error.Tells payload) ∧
        (∀ status payload, error.Carries status → error.Tells payload →
          outcome = call.refused status payload) ∧
        ((∀ status, ¬error.Carries status) →
          outcome = .error (.unreachable error.kind error.text))) ∧
      (¬error.Among known → outcome = .error (.passed error.kind error.text))) ∧
    ∀ id, backend.Meets c (.pipelineExists id) (.raised error) →
      (((Talk.ask backend (.pipelineExists id) : Talk Answer τ Bool).run.run c).1 = .ok false ↔
        error.Among known ∧ error.Carries 404) := by
  have tells : error.Tells error.payload := Error.payload_eq_iff.1 rfl
  refine ⟨fun call meets => ⟨fun among => ⟨fun kind text passed => ?_, ⟨_, tells⟩, ?_, ?_⟩, ?_⟩,
    fun id meets => ⟨fun denied => ?_, ?_⟩⟩
  · obtain ⟨status, -, -, answered⟩ | ⟨-, silent⟩ | ⟨unknown, -⟩ := adapts.asked_cases meets
    · exact refused_ne_passed call status _ kind text (answered.symm.trans passed)
    · cases silent.symm.trans passed
    · exact unknown among
  · exact fun status payload => adapts.asked_of_status meets among
  · exact adapts.asked_of_no_status meets among
  · exact adapts.asked_of_unknown meets
  · obtain ⟨status, among, carries, answered⟩ | ⟨-, silent⟩ | ⟨-, foreign⟩ :=
      adapts.asked_cases meets
    · obtain rfl := (refused_pipelineExists_iff id status _).1 (answered.symm.trans denied)
      exact ⟨among, carries⟩
    · cases silent.symm.trans denied
    · cases foreign.symm.trans denied
  · rintro ⟨among, carries⟩
    have answered := adapts.asked_of_status meets among carries tells
    exact answered.trans ((refused_pipelineExists_iff id 404 _).2 rfl)

/-! ### An error that carries what it has in its second places -/

/-- Such an error: where its description has a status and where its body is, nothing of use stands.
Its own kind is not looked for, but one that this is made from is. -/
def scattered : Error where
  kind := "NotFoundError"
  text := "not found"
  bases := ["TransportError", "OpenSearchException"]
  metaStatus := some (.str "N/A")
  statusCode := some (.int 404)
  body := some .null
  info := some (.obj [("error", .str "missing")])

/-- A conversation in which it comes next. -/
def scattering : Conversation Answer Float := .start [⟨.raised scattered, 0⟩] 0

/-- Such an error is a report to a call for data, an answer to a raw request and a no to the
question for a pipeline; and to someone who knows another kind of errors it is no answer at all. -/
theorem scattered_error_is_translated :
    let told := Json.obj [("error", .str "missing")]
    let full := Opensearch.backend Opensearch.errorKinds
    let other := Elasticsearch.backend ["ApiError"]
    ((Talk.ask full (.deleteIndex (.str "i"))).run.run scattering).1 =
        .error (.reported (.int 404) told) ∧
      ((Talk.ask full (.raw (.str "GET") (.str "/") .null .null)).run.run scattering).1 =
        .ok ⟨.int 404, told⟩ ∧
      ((Talk.ask full (.pipelineExists (.str "p"))).run.run scattering).1 = .ok false ∧
      ((Talk.ask other (.deleteIndex (.str "i"))).run.run scattering).1 =
        .error (.passed "NotFoundError" "not found") := by
  intro told full other
  have carries : scattered.Carries 404 := .itself nofun nofun rfl
  have tells : scattered.Tells told := .info (.inr rfl) rfl nofun
  have among : scattered.Among Opensearch.errorKinds :=
    .of_kind (List.mem_cons_of_mem _ List.mem_cons_self) List.mem_cons_self
  have unknown : ¬scattered.Among ["ApiError"] := mt Error.isAmong_iff.2 (by decide)
  obtain ⟨asked, probed⟩ := errors_are_translated (.opensearch Opensearch.errorKinds) scattered
    scattering
  obtain ⟨foreign, -⟩ := errors_are_translated (.elasticsearch ["ApiError"]) scattered scattering
  have deleting : full.Meets scattering (.deleteIndex (.str "i")) (.raised scattered) :=
    Backend.meets_start ⟨_, rfl⟩
  have reading : full.Meets scattering (.raw (.str "GET") (.str "/") .null .null)
      (.raised scattered) := Backend.meets_start ⟨_, rfl⟩
  refine ⟨?_, ?_, ?_, ?_⟩
  · obtain ⟨-, -, answered, -⟩ := (asked _ deleting).1 among
    exact answered 404 told carries tells
  · obtain ⟨-, -, answered, -⟩ := (asked _ reading).1 among
    exact answered 404 told carries tells
  · exact (probed _ (Backend.meets_start ⟨_, rfl⟩)).2 ⟨among, carries⟩
  · exact (foreign _ (Backend.meets_start ⟨_, rfl⟩)).2 unknown

end Client

end EngineGateway
