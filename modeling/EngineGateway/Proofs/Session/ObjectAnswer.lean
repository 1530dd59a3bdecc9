import EngineGateway.Proofs.Backend.Data
import EngineGateway.Proofs.Backend.Honest
import EngineGateway.Proofs.Rest.Segments
import EngineGateway.Proofs.Session.Searching
import EngineGateway.Session.Operation

/-!
# Answers that hold no object

Some operations read the fields of an object from the engine's answer (`Session.Expects`). What they
make of an answer is what they make of its data, and of data that is no object only finding out the
version says that the answer is of no use. Over HTTP an answer of success without an object is
reported before any operation sees it. The client libraries hand on what they got: one hands on the
value, which then has no fields, and the other takes for an object whatever can be taken for one.
`Misread` lists what comes of that.
-/

namespace EngineGateway

open Session Talk

variable {α τ β γ : Type}

/-- A failure that says that the engine was not reached or that its answer is of no use. -/
def Failure.IsConnectionError : Failure → Prop
  | .unreachable .. | .notAnObject .. | .malformedInfo _ | .malformedSearch _ => True
  | _ => False

/-- An outcome that says so. -/
def BlamesEngine (outcome : Except Failure β) : Prop :=
  ∃ failure, outcome = .error failure ∧ failure.IsConnectionError

/-- What is made of data by reading the fields of an object. -/
def ofFields (read : Fields → Except Failure β) : Json → Except Failure β
  | .obj fields => read fields
  | _ => .error .noMember

/-! ### The operations that read an object -/

/-- In a conversation an operation comes to ask for an object: the conversation in which it asks,
its call, and what it makes of the data. -/
inductive Session.Expects [Seconds τ] (session : Session α τ) (c : Conversation α τ) :
    (operation : Operation τ) → Conversation α τ → Call →
      (Json → Except Failure operation.Result) → Prop where
  | detectVersion (unknown : c.memory.version = none) :
    Expects session c .detectVersion c .info Version.ofInfo
  | createIndex {name : Name} {keep : Bool} {settings body : Json}
      (read : Index.settingsBody settings = .ok body) :
    Expects session c (.createIndex name keep settings) c (.createIndex name body)
      (ofFields fun fields => acknowledge name fun resource =>
        { resource, acknowledged := acknowledged fields, created := some true })
  | deleteIndex {name : Name} :
    Expects session c (.deleteIndex name) c (.deleteIndex name)
      (ofFields fun fields => acknowledge name fun resource =>
        { resource, acknowledged := acknowledged fields })
  | refresh {name : Name} :
    Expects session c (.refresh name) c (.refresh name)
      (ofFields fun fields => acknowledge name fun resource =>
        { resource, acknowledged := !(failedShards fields).truthy })
  | index {document : Document} {able : Capabilities} {d : Conversation α τ}
      (known : session.capabilities.run.run c = (.ok able, d))
      (untyped : able.documentTypeRequired = false)
      (admitted : document.namedPipeline.isSome = true → able.ingestSupported = true) :
    Expects session c (.index document) d (plainWrite document)
      (ofFields fun fields => .ok {
        resource := document.index ++ "/" ++ document.id
        created := some (saysCreated fields)
        result := writeResult fields })
  | search {query : SearchQuery} {able : Capabilities} {d : Conversation α τ}
      (known : session.capabilities.run.run c = (.ok able, d)) :
    Expects session c (.search query) d (.search (.str query.index) (.obj (query.body able)))
      (ofFields (Search.resultFrom query able.mappingStyle))
  | putPipeline {pipeline : Pipeline} {able : Capabilities} {d : Conversation α τ}
      (known : session.capabilities.run.run c = (.ok able, d))
      (supported : able.ingestSupported = true) :
    Expects session c (.putPipeline pipeline) d
      (.putPipeline (.str pipeline.id) (.obj pipeline.body))
      (ofFields fun fields => .ok { resource := pipeline.id, acknowledged := acknowledged fields })

section

variable [Seconds τ] {session : Session α τ} {c d : Conversation α τ} {operation : Operation τ}
  {call : Call} {judge : Json → Except Failure operation.Result} {answer : α}

omit [Seconds τ] in
/-- Reading the fields of data and making something of them. -/
theorem Session.fieldsOf_outcome (read : Fields → Except Failure β) (data : Json)
    (c : Conversation α τ) :
    ((fieldsOf data >>= fun fields => Talk.outcome (read fields) : Talk α τ β).run.run c).1 =
      ofFields read data := by
  cases data with
  | obj fields => exact run_outcome (read fields) c
  | _ => rfl

omit [Seconds τ] in
/-- A call, and what is made of its data. -/
theorem Session.told_outcome {next : Json → Talk α τ β} {make : Json → Except Failure β}
    {asking : Talk α τ Json} {data : Except Failure Json} (asked : (asking.run.run d).1 = data)
    (made : ∀ value c, ((next value).run.run c).1 = make value) :
    ((asking >>= next).run.run d).1 = data >>= make := by
  rw [outcome_bind made, asked]

omit [Seconds τ] in
/-- A call whose report is handled, and what is made of its data where nothing was reported. -/
theorem Session.handled_outcome {next : Option Json → Talk α τ β} {make : Json → Except Failure β}
    {handle : Status → Json → Talk α τ (Option Json)} {asking : Talk α τ Json}
    {data : Except Failure Json} (asked : (asking.run.run d).1 = data)
    (unreported : ∀ status payload, data ≠ .error (.reported status payload))
    (made : ∀ value c, ((next (some value)).run.run c).1 = make value) :
    ((onReport (some <$> asking) handle >>= next).run.run d).1 = data >>= make := by
  have wrapped := run_map some asking d
  rw [run_bind, run_onReport_of_unreported, wrapped, asked]
  · cases data with
    | ok value => exact made value _
    | error failure => rfl
  · intro status payload
    rw [wrapped, asked]
    cases data with
    | ok value => nofun
    | error failure =>
      intro same
      exact unreported status payload (congrArg Except.error (Except.error.inj same))

/-- What finding out the version makes of a reply that is no error of the engine. -/
theorem Session.detectVersion_outcome (unknown : c.memory.version = none)
    {data : Except Failure Json}
    (asked : ((Talk.ask session.backend .info : Talk α τ Json).run.run c).1 = data)
    (unreported : ∀ status payload, data ≠ .error (.reported status payload)) :
    (session.detectVersion.run.run c).1 = data >>= Version.ofInfo := by
  rw [run_detectVersion_of_unknown session unknown]
  cases ran : (Talk.ask session.backend .info : Talk α τ Json).run.run c with
  | mk reply after =>
    rw [ran] at asked
    subst asked
    cases reply with
    | ok payload =>
      cases told : Version.ofInfo payload <;> simp only [told] <;> exact told.symm
    | error failure =>
      cases failure with
      | reported status payload => exact absurd rfl (unreported status payload)
      | _ => rfl

/-- What a search makes of a reply. -/
theorem Session.search_outcome {query : SearchQuery} {able : Capabilities}
    (known : session.capabilities.run.run c = (.ok able, d)) {data : Except Failure Json}
    (asked : ((Talk.ask session.backend (.search (.str query.index) (.obj (query.body able))) :
      Talk α τ Json).run.run d).1 = data) :
    ((session.search query).run.run c).1 =
      data >>= ofFields (Search.resultFrom query able.mappingStyle) := by
  unfold Session.search
  rw [run_bind, known]
  change ((session.askHits (.str query.index) (query.body able) >>= _).run.run d).1 = _
  have located : ((session.askHits (.str query.index) (query.body able)).run.run d).1 =
      data >>= ofFields Search.hitsBlock := by
    unfold askHits
    exact told_outcome asked fun value d => fieldsOf_outcome Search.hitsBlock value d
  rw [outcome_bind, located]
  case rest =>
    intro hits d
    rw [outcome_bind, run_outcome]
    intro page d
    rw [outcome_bind, run_countHits]
    exact fun total d => run_outcome _ d
  cases data with
  | error failure => rfl
  | ok value => cases value <;> rfl

/-- What an operation makes of an answer is what it makes of the data, unless the answer is an error
of the engine. -/
theorem Session.Expects.outcome (expects : session.Expects c operation d call judge)
    (meets : session.backend.Meets d call answer)
    (unreported : ∀ status payload,
      session.backend.data call answer ≠ .error (.reported status payload)) :
    ((operation.run session).run.run c).1 = session.backend.data call answer >>= judge := by
  have asked := meets.asked
  cases expects with
  | detectVersion unknown => exact detectVersion_outcome unknown asked unreported
  | createIndex read =>
    change ((session.createIndex _ _ _).run.run c).1 = _
    unfold Session.createIndex
    rw [read, run_bind, run_outcome_ok]
    refine handled_outcome asked unreported fun value d => ?_
    rw [run_bind, run_say]
    exact fieldsOf_outcome _ value _
  | deleteIndex =>
    change ((session.deleteIndex _).run.run c).1 = _
    unfold Session.deleteIndex
    exact handled_outcome asked unreported fun value d => fieldsOf_outcome _ value d
  | refresh =>
    change ((session.refresh _).run.run c).1 = _
    unfold Session.refresh
    exact told_outcome asked fun value d => fieldsOf_outcome _ value d
  | @index document able d known untyped admitted =>
    have allowed : ¬(document.namedPipeline.isSome && !able.ingestSupported) = true := by
      cases named : document.namedPipeline.isSome <;> simp_all
    have written : session.write able document = Talk.ask session.backend (plainWrite document) :=
      if_neg (by simp [untyped])
    change ((session.index document).run.run c).1 = _
    unfold Session.index
    rw [run_bind, known]
    simp only [allowed, written]
    refine told_outcome asked fun value d => ?_
    cases value <;> rfl
  | search known => exact search_outcome known asked
  | @putPipeline pipeline able d known supported =>
    change ((session.putPipeline pipeline).run.run c).1 = _
    unfold Session.putPipeline isIngestSupported
    rw [bind_assoc, run_bind, known]
    simp only [pure_bind, supported, Bool.not_true, Bool.false_eq_true, if_false]
    refine told_outcome asked fun value d => ?_
    cases value <;> rfl

end

/-! ### What the backends make of an answer without an object -/

/-- The answers of success to a call that hold no object. -/
inductive NoObject : {α : Type} → Backend α → Call → α → Prop where
  | http {engine : Rest.Address} {call : Call} {status : Status} {octets : List UInt8}
      (usable : Rest.addressFault? engine call = none) (success : status.isSuccess = true)
      (other : ∀ fields, Rest.payloadOf octets ≠ .ok (.obj fields)) :
    NoObject (Rest.backend engine) call (.answered status octets)
  | elasticsearch {known : List Text} {call : Call} {answer : Client.Answer} {held : Json}
      (holds : Client.Holds answer held) (other : held.fields? = none) :
    NoObject (Client.Elasticsearch.backend known) call answer
  | opensearch {known : List Text} {call : Call} {answer : Client.Answer} {held : Json}
      (holds : Client.Holds answer held) (other : held.fields? = none) :
    NoObject (Client.Opensearch.backend known) call answer

/-- What an operation comes to that does not say that such an answer is of no use. -/
inductive Misread (operation : Operation τ) (judge : Json → Except Failure operation.Result) :
    {α : Type} → Backend α → α → Except Failure operation.Result → Prop where
  /-- Over HTTP a body of too many levels is not read at all. -/
  | unread {engine : Rest.Address} {status : Status} {octets : List UInt8}
      (deep : Rest.payloadOf octets = .error (.unreadable .tooDeep)) :
    Misread operation judge (Rest.backend engine) (.answered status octets)
      (.error (.unreadable .tooDeep))
  /-- A value is handed on and asked for a field that its kind does not have. -/
  | memberless {known : List Text} {answer : Client.Answer}
      (reads : operation ≠ .detectVersion) :
    Misread operation judge (Client.Elasticsearch.backend known) answer (.error .noMember)
  /-- A value cannot be taken for an object. -/
  | unfit {known : List Text} {held : Json} {failure : Failure}
      (refused : held.asFields = .error failure) :
    Misread operation judge (Client.Opensearch.backend known) (.value held) (.error failure)
  /-- A response object is no object. -/
  | wrapped {known : List Text} {status : Status} {held : Json} :
    Misread operation judge (Client.Opensearch.backend known) (.response status held)
      (.error .wrongKind)
  /-- A value is taken for an object from which the operation makes something. -/
  | taken {known : List Text} {held : Json} {fields : Fields}
      {outcome : Except Failure operation.Result} (took : held.asFields = .ok fields)
      (made : judge (.obj fields) = outcome) (content : ¬BlamesEngine outcome) :
    Misread operation judge (Client.Opensearch.backend known) (.value held) outcome

section

variable {call : Call}

/-- An answer of success without an object is reported there, with the method and the path. -/
theorem Rest.expectObject_of_other {engine : Rest.Address} {status : Status} {payload : Json}
    {request : Request} (written : (Rest.backend engine).encode call = .ok request)
    (success : status.isSuccess = true) (other : ∀ fields, payload ≠ .obj fields) :
    ∃ method path, Rest.expectObject call ⟨status, payload⟩ =
      .error (.notAnObject method path payload) := by
  obtain ⟨plan, planned, -⟩ := Rest.bind_eq_ok.1 written
  have accepted : RawResponse.ok ⟨status, payload⟩ = true := success
  refine ⟨plan.method.plain, plan.path.plain, ?_⟩
  unfold Rest.expectObject
  rw [accepted, planned]
  cases payload with
  | obj fields => exact absurd rfl (other fields)
  | _ => rfl

end

section

variable [Seconds τ] {session : Session α τ} {c d : Conversation α τ} {operation : Operation τ}
  {call : Call} {judge : Json → Except Failure operation.Result} {answer : α}

/-- An operation that reads an object asks for data. -/
theorem Session.Expects.want (expects : session.Expects c operation d call judge) :
    call.want = .data := by
  cases expects <;> rfl

/-- Of data that is no object nothing is made: it has no fields, and it names no version. -/
theorem Session.Expects.judge_of_other (expects : session.Expects c operation d call judge)
    {held : Json} (other : held.fields? = none) :
    judge held = .error .noMember ∧ operation ≠ .detectVersion ∨
      judge held = .error (.malformedInfo (.noVersion held)) := by
  cases expects with
  | detectVersion unknown =>
    refine .inr ?_
    unfold Version.ofInfo Version.infoParts? Version.infoBlock?
    rw [other]
    rfl
  | _ =>
    refine .inl ⟨?_, fun same => by cases same⟩
    cases held with
    | obj fields => simp [Json.fields?] at other
    | _ => rfl

omit [Seconds τ] in
/-- No misreading says that the answer is of no use. -/
theorem Misread.not_blamesEngine {backend : Backend α} {outcome : Except Failure operation.Result}
    (misread : Misread operation judge backend answer outcome) : ¬BlamesEngine outcome := by
  rintro ⟨failure, rfl, blames⟩
  generalize same : (Except.error failure : Except Failure operation.Result) = outcome at misread
  cases misread with
  | unread deep =>
    obtain rfl := Except.error.inj same
    exact blames
  | memberless reads =>
    obtain rfl := Except.error.inj same
    exact blames
  | @unfit known held fault refused =>
    obtain rfl := Except.error.inj same
    rcases Client.Opensearch.asFields_unfit held failure refused with rfl | rfl <;> exact blames
  | wrapped =>
    obtain rfl := Except.error.inj same
    exact blames
  | taken took made content => exact content ⟨failure, same.symm, blames⟩

/-- An outcome is what is made of some data, unless that is an error that the engine reported. -/
def MadeOf (judge : Json → Except Failure β) (data : Except Failure Json)
    (outcome : Except Failure β) : Prop :=
  (∀ status payload, data ≠ .error (.reported status payload)) → outcome = data >>= judge

omit [Seconds τ] in
/-- Over HTTP the answer is said to be of no use, if only its body can be read. -/
theorem Misread.over_http {engine : Rest.Address} {status : Status} {octets : List UInt8}
    {request : Request} {outcome : Except Failure operation.Result} (want : call.want = .data)
    (written : (Rest.backend engine).encode call = .ok request)
    (usable : Rest.addressFault? engine call = none) (success : status.isSuccess = true)
    (other : ∀ fields, Rest.payloadOf octets ≠ .ok (.obj fields))
    (made : MadeOf judge ((Rest.backend engine).data call (.answered status octets)) outcome) :
    BlamesEngine outcome ∨
      Misread operation judge (Rest.backend engine) (.answered status octets) outcome := by
  rw [Rest.data_answered want usable] at made
  cases read : Rest.payloadOf octets with
  | error failure =>
    obtain rfl := Rest.payloadOf_tooDeep octets failure read
    rw [read] at made
    rw [made nofun]
    exact .inr (.unread read)
  | ok payload =>
    have object (fields : Fields) : payload ≠ .obj fields :=
      fun same => other fields (same ▸ read)
    obtain ⟨method, path, reported⟩ := Rest.expectObject_of_other written success object
    rw [read] at made
    change MadeOf judge (Rest.expectObject call ⟨status, payload⟩) outcome at made
    rw [reported] at made
    exact .inl ⟨_, made nofun, trivial⟩

omit [Seconds τ] in
/-- One client library hands on the value, of which nothing is made. -/
theorem Misread.over_elasticsearch {known : List Text} {answer : Client.Answer} {held : Json}
    {outcome : Except Failure operation.Result} (want : call.want = .data)
    (holds : Client.Holds answer held)
    (judged : judge held = .error .noMember ∧ operation ≠ .detectVersion ∨
      judge held = .error (.malformedInfo (.noVersion held)))
    (made : MadeOf judge ((Client.Elasticsearch.backend known).data call answer) outcome) :
    BlamesEngine outcome ∨
      Misread operation judge (Client.Elasticsearch.backend known) answer outcome := by
  rw [Client.Elasticsearch.data_of_holds want holds] at made
  have judges : outcome = judge held := made nofun
  rcases judged with ⟨memberless, reads⟩ | useless
  · rw [judges, memberless]
    exact .inr (.memberless reads)
  · exact .inl ⟨_, judges.trans useless, trivial⟩

omit [Seconds τ] in
/-- The other client library takes the value for an object, if it can be taken for one. -/
theorem Misread.over_opensearch {known : List Text} {answer : Client.Answer} {held : Json}
    {outcome : Except Failure operation.Result} (want : call.want = .data)
    (holds : Client.Holds answer held)
    (made : MadeOf judge ((Client.Opensearch.backend known).data call answer) outcome) :
    BlamesEngine outcome ∨
      Misread operation judge (Client.Opensearch.backend known) answer outcome := by
  rw [Client.Opensearch.data_eq known answer want] at made
  cases holds with
  | value held =>
    change MadeOf judge (Json.obj <$> held.asFields) outcome at made
    cases took : held.asFields with
    | error failure =>
      rw [took] at made
      have unfit := Client.Opensearch.asFields_unfit held failure took
      have failed : outcome = .error failure := by
        refine made fun status payload same => ?_
        obtain rfl := Except.error.inj same
        rcases unfit with impossible | impossible <;> cases impossible
      rw [failed]
      exact .inr (.unfit took)
    | ok fields =>
      rw [took] at made
      have judges : outcome = judge (.obj fields) := made nofun
      by_cases blames : BlamesEngine outcome
      · exact .inl blames
      · exact .inr (.taken took judges.symm blames)
  | response success held =>
    rw [made nofun]
    exact .inr .wrapped

/-- What an operation comes to that meets an answer of success without an object: that the answer is
of no use, or a misreading. -/
theorem Session.Expects.blames_or_misreads (expects : session.Expects c operation d call judge)
    (meets : session.backend.Meets d call answer)
    (empty : NoObject session.backend call answer) :
    BlamesEngine ((operation.run session).run.run c).1 ∨
      Misread operation judge session.backend answer ((operation.run session).run.run c).1 := by
  have made : MadeOf judge (session.backend.data call answer)
      ((operation.run session).run.run c).1 := expects.outcome meets
  have want := expects.want
  have judged (held : Json) (other : held.fields? = none) := expects.judge_of_other other
  obtain ⟨request, written⟩ := meets.written
  -- the backend is about to be told apart, and nothing else may speak of the session
  generalize ((operation.run session).run.run c).1 = outcome at made ⊢
  clear expects meets
  generalize session.backend = backend at made empty written ⊢
  cases empty with
  | http usable success other => exact Misread.over_http want written usable success other made
  | elasticsearch holds other => exact Misread.over_elasticsearch want holds (judged _ other) made
  | opensearch holds other => exact Misread.over_opensearch want holds made

/-- An answer of success without an object is said to be of no use, over each of the three backends
and by each operation that reads an object, but for the misreadings: an operation does not say so
exactly if it comes to one of these. -/
theorem non_object_goes_unblamed_iff_misread (expects : session.Expects c operation d call judge)
    (meets : session.backend.Meets d call answer)
    (empty : NoObject session.backend call answer) :
    ¬BlamesEngine ((operation.run session).run.run c).1 ↔
      Misread operation judge session.backend answer ((operation.run session).run.run c).1 := by
  constructor
  · intro unblamed
    exact (expects.blames_or_misreads meets empty).resolve_left unblamed
  · exact Misread.not_blamesEngine

end

/-- A conversation with an engine that answers with an empty list. -/
def listAhead : Conversation Client.Answer Float :=
  .start [⟨.value (.arr []), 0⟩] 0

/-- One library takes an empty list for the acknowledgement of a new index; through the other it has
no field that tells of a refresh. -/
theorem empty_list_is_misread :
    let created := ((Operation.createIndex (.str "i") false .null).run throughOpensearch).run.run
      listAhead
    let refreshed := ((Operation.refresh (.str "i")).run throughClient).run.run listAhead
    created.1 = .ok { resource := "i", created := some true } ∧
      (∃ judge, Misread (.createIndex (.str "i") false .null) judge throughOpensearch.backend
        (.value (.arr [])) created.1) ∧
      refreshed.1 = .error .noMember ∧ ¬BlamesEngine refreshed.1 := by
  intro created refreshed
  have unblamed : ¬BlamesEngine created.1 := by
    rintro ⟨failure, impossible, -⟩
    cases impossible
  have expects : throughOpensearch.Expects listAhead (.createIndex (.str "i") false .null) listAhead
      (.createIndex (.str "i") .null) _ := .createIndex rfl
  have meets : throughOpensearch.backend.Meets listAhead (.createIndex (.str "i") .null)
      (.value (.arr [])) := ⟨⟨_, rfl⟩, rfl, _, _, rfl, rfl⟩
  have misread := (non_object_goes_unblamed_iff_misread expects meets
    (.opensearch (.value _) rfl)).1 unblamed
  refine ⟨rfl, ⟨_, misread⟩, rfl, ?_⟩
  exact (non_object_goes_unblamed_iff_misread .refresh
    ⟨⟨_, rfl⟩, rfl, _, _, rfl, rfl⟩ (.elasticsearch (.value _) rfl)).2 (.memberless nofun)

end EngineGateway
