import EngineGateway.Proofs.Conversation.Abreast
import EngineGateway.Proofs.Session.Asking

/-!
# Sessions over events

A session over a backend that renders events comes to what the session over the events themselves
comes to: in every operation that all backends can carry out (`Operation.Common`), and so in every
course of them. What the two do is the same but for the calls, so each operation is followed step by
step.
-/

namespace EngineGateway

open Session Talk

variable {α τ : Type}

/-- An operation that every backend can carry out: it does not ask for a pipeline, and an index that
it creates has no settings. -/
def Operation.Common : Operation τ → Prop
  | .isExistingPipeline _ => False
  | .createIndex _ _ settings =>
    ∀ body, Index.settingsBody settings = .ok body → body.truthy = false
  | _ => True

/-- The session that hears events as they are. -/
def Session.overEvents (session : Session α τ) : Session Event τ where
  backend := plain
  pacing := session.pacing
  legacyDocumentType := session.legacyDocumentType
  ownsBackend := session.ownsBackend

/-- What an engine is sent to store a pipeline does not repeat its id. -/
theorem Pipeline.common_put (pipeline : Pipeline) :
    (Call.putPipeline (.str pipeline.id) (.obj pipeline.body)).Common := by
  refine ⟨pipeline.body, rfl, ?_⟩
  unfold Pipeline.body
  cases pipeline.description <;> exact ⟨rfl, rfl⟩

namespace Session

variable [Seconds τ] {rendering : Rendering α} {events : List (Timed Event τ)}
  {script : List (Timed α τ)} {session : Session α τ}

/-- What every talk that asks the backend's calls is compared by. -/
theorem follows_ask (own : session.backend = rendering.backend) (call : Call)
    (common : call.Common) :
    Follows rendering events script call.want.Matches (ask session.backend call)
      (ask session.overEvents.backend call) := by
  rw [own]
  exact Follows.ask common

omit [Seconds τ] in
theorem follows_fieldsOf (answer : Json) :
    Follows rendering events script Eq (fieldsOf answer) (fieldsOf answer) := by
  cases answer <;> first | exact Follows.pure rfl | exact Follows.throw (.same _)

omit [Seconds τ] in
/-- An outcome that both sides come to without a conversation. -/
theorem follows_outcome {β : Type} (result : Except Failure β) :
    Follows rendering events script Eq (Talk.outcome result) (Talk.outcome result) :=
  Follows.outcome (Alike.refl result)

/-- One look at the health of an index. -/
theorem follows_indexHealth (own : session.backend = rendering.backend) (name : Name)
    (hold : Option (Span τ)) :
    Follows rendering events script Eq (session.indexHealth name hold)
      (session.overEvents.indexHealth name hold) := by
  have read : Follows rendering events script Eq
      (hold.mapM fun span => Talk.outcome (α := α) span.holdText)
      (hold.mapM fun span => Talk.outcome span.holdText) := by
    cases hold with
    | none => exact Follows.pure rfl
    | some span => exact (follows_outcome _).after fun _ => Follows.pure rfl
  refine read.after fun holdText => ?_
  refine Follows.after (Follows.onReport (follows_ask own (.health ..) trivial)
    fun status payload => ?_)
    fun _ => follows_outcome _
  refine (follows_outcome _).after fun unavailable => ?_
  cases unavailable
  · exact Follows.throw (.same _)
  · exact Follows.pure rfl

/-- A poll, if what comes after it is followed. -/
theorem follows_poll (own : session.backend = rendering.backend) (name : Name) (limit : Span τ)
    (deadline interval : τ) {next : Talk α τ IndexDescriptor}
    {otherNext : Talk Event τ IndexDescriptor}
    (goesOn : Follows rendering events script Eq next otherNext) :
    Follows rendering events script Eq (session.poll name limit deadline interval next)
      (session.overEvents.poll name limit deadline interval otherNext) := by
  unfold poll
  refine Follows.clock.after fun now => (follows_indexHealth own name _).after fun index => ?_
  refine Follows.ite (fun _ => (Follows.say _ _).after fun _ => Follows.pure rfl) fun _ => ?_
  refine Follows.clock.after fun later => ?_
  cases verdict deadline interval later with
  | expired => exact Follows.throw (.same _)
  | rest time =>
    exact (Follows.say _ _).after fun _ => (Follows.sleep time).after fun _ => goesOn

/-- A row of polls. At its end both sides have nothing more to hear. -/
theorem follows_pollUntil (own : session.backend = rendering.backend) (name : Name)
    (limit : Span τ) (deadline : τ) (answers : Nat) (interval : τ) :
    Follows rendering events script Eq (session.pollUntil name limit deadline answers interval)
      (session.overEvents.pollUntil name limit deadline answers interval) := by
  induction answers generalizing interval with
  | zero =>
    refine follows_poll own name limit deadline interval (Follows.throw ?_)
    rw [own]
    exact rendering.silent
  | succ answers inductionHypothesis =>
    exact follows_poll own name limit deadline interval (inductionHypothesis _)

/-- Waiting for the health of an index. Equally many answers are to come on both sides, so that both
look equally often at most. -/
theorem follows_waitForHealthyIndex (own : session.backend = rendering.backend) (name : Name)
    (timeout : Option (Span τ)) :
    Follows rendering events script Eq (session.waitForHealthyIndex name timeout)
      (session.overEvents.waitForHealthyIndex name timeout) := by
  refine Follows.clock.after fun started => (follows_outcome _).after fun time => ?_
  have polled (answers : Nat) : Follows rendering events script Eq
      (session.pollUntil name (timeout.getD (.measured session.pacing.limit))
        (Seconds.add started time) answers session.pacing.first)
      (session.overEvents.pollUntil name (timeout.getD (.measured session.pacing.limit))
        (Seconds.add started time) answers session.pacing.first) := follows_pollUntil own ..
  refine Follows.look (fun c => (polled c.pending.length).grows) fun c d abreast => ?_
  rw [abreast.length_pending]
  exact polled d.pending.length

/-- The creation of an index without settings. -/
theorem follows_createIndex (own : session.backend = rendering.backend) (name : Name) (keep : Bool)
    {settings : Json}
    (unset : ∀ body, Index.settingsBody settings = .ok body → body.truthy = false) :
    Follows rendering events script Eq (session.createIndex name keep settings)
      (session.overEvents.createIndex name keep settings) := by
  unfold createIndex
  refine Follows.outcome_bind fun body read => ?_
  have answered : Follows rendering events script Eq
      (some <$> ask session.backend (.createIndex name body))
      (some <$> ask session.overEvents.backend (.createIndex name body)) :=
    Follows.after (follows_ask own (.createIndex name body) (unset body read)) fun _ =>
      Follows.pure rfl
  refine Follows.after (Follows.onReport answered fun status payload => ?_) fun answer => ?_
  · exact Follows.ite (fun _ => Follows.throw (.same _)) fun _ =>
      Follows.ite (fun _ => Follows.throw (.same _)) fun _ => Follows.pure rfl
  · cases answer with
    | none => exact (Follows.say _ _).after fun _ => follows_outcome _
    | some answer =>
      exact (Follows.say _ _).after fun _ => (follows_fieldsOf answer).after fun _ =>
        follows_outcome _

/-- The deletion of an index. -/
theorem follows_deleteIndex (own : session.backend = rendering.backend) (name : Name) :
    Follows rendering events script Eq (session.deleteIndex name)
      (session.overEvents.deleteIndex name) := by
  have answered : Follows rendering events script Eq
      (some <$> ask session.backend (.deleteIndex name))
      (some <$> ask session.overEvents.backend (.deleteIndex name)) :=
    Follows.after (follows_ask own (.deleteIndex name) trivial) fun _ => Follows.pure rfl
  unfold deleteIndex
  refine Follows.after (Follows.onReport answered fun status payload => ?_) fun answer => ?_
  · exact Follows.ite (fun _ => Follows.pure rfl) fun _ => Follows.throw (.same _)
  · cases answer with
    | none => exact (Follows.say _ _).after fun _ => follows_outcome _
    | some answer => exact (follows_fieldsOf answer).after fun _ => follows_outcome _

/-- Finding out the version. -/
theorem follows_detectVersion (own : session.backend = rendering.backend) :
    Follows rendering events script Eq session.detectVersion
      session.overEvents.detectVersion := by
  have asked : Follows rendering events script Eq session.askVersion
      session.overEvents.askVersion :=
    Follows.after (Follows.onReport (follows_ask own .info trivial) fun _ _ =>
      Follows.throw (.same _)) fun _ => follows_outcome _
  have learned : Follows rendering events script Eq session.learnVersion
      session.overEvents.learnVersion :=
    asked.after fun version => (Follows.say _ _).after fun _ =>
      (Follows.remember fun memory => { memory with version := some version }).after fun _ =>
        Follows.pure rfl
  refine Follows.look (fun c => ?_) fun c d abreast => ?_
  · cases c.memory.version with
    | none => exact learned.grows
    | some version => exact fun _ _ => Keeps.pure version
  · rw [abreast.memory]
    cases d.memory.version with
    | none => exact learned
    | some version => exact Follows.pure rfl

/-- Finding out what the engine can do. -/
theorem follows_capabilities (own : session.backend = rendering.backend) :
    Follows rendering events script Eq session.capabilities session.overEvents.capabilities := by
  have learned : Follows rendering events script Eq session.learnCapabilities
      session.overEvents.learnCapabilities :=
    (follows_detectVersion own).after fun _ => (follows_outcome _).after fun able =>
      (Follows.remember fun memory => { memory with capabilities := some able }).after fun _ =>
        Follows.pure rfl
  refine Follows.look (fun c => ?_) fun c d abreast => ?_
  · cases c.memory.capabilities with
    | none => exact learned.grows
    | some able => exact fun _ _ => Keeps.pure able
  · rw [abreast.memory]
    cases d.memory.capabilities with
    | none => exact learned
    | some able => exact Follows.pure rfl

/-- A refusal for want of pipelines. -/
theorem follows_refuseIngest {β : Type} (own : session.backend = rendering.backend) :
    Follows rendering events script Eq (session.refuseIngest : Talk α τ β)
      session.overEvents.refuseIngest :=
  (follows_detectVersion own).after fun _ => Follows.throw (.same _)

/-- Writing a document with a type. The replies to the raw request differ in their status at most,
and only where it tells of success. -/
theorem follows_writeTyped (own : session.backend = rendering.backend) (document : Document) :
    Follows rendering events script Eq (session.writeTyped document)
      (session.overEvents.writeTyped document) := by
  refine Follows.outcome_bind fun path _ => ?_
  refine (follows_ask own (typedWrite path document) trivial).bind
    (fun v => ⟨v, Want.matches_self _ v⟩) fun response otherResponse related => ?_
  obtain ⟨samePayload, sameOk, sameStatus⟩ := related
  simp only [← sameOk, ← samePayload]
  refine Follows.ite (fun failed => ?_) fun _ => ?_
  · rw [← sameStatus (by simpa using failed)]
    exact Follows.throw (.same _)
  · cases response.payload <;> exact Follows.pure rfl

/-- Handing a document to an engine. -/
theorem follows_write (own : session.backend = rendering.backend) (able : Capabilities)
    (document : Document) :
    Follows rendering events script Eq (session.write able document)
      (session.overEvents.write able document) :=
  Follows.ite (fun _ => follows_writeTyped own document) fun _ =>
    follows_ask own (plainWrite document) trivial

/-- Writing a document. -/
theorem follows_index (own : session.backend = rendering.backend) (document : Document) :
    Follows rendering events script Eq (session.index document)
      (session.overEvents.index document) := by
  refine (follows_capabilities own).after fun able => Follows.ite
    (fun _ => (follows_refuseIngest own).after fun _ => ?_) fun _ => ?_
  all_goals
    exact (follows_write own able document).after fun _ => (Follows.say _ _).after fun _ =>
      (follows_fieldsOf _).after fun _ => Follows.pure rfl

/-- Sending a search. -/
theorem follows_askHits (own : session.backend = rendering.backend) (index : Name)
    (body : Fields) :
    Follows rendering events script Eq (session.askHits index body)
      (session.overEvents.askHits index body) :=
  Follows.after (follows_ask own (.search index (.obj body)) trivial) fun _ =>
    (follows_fieldsOf _).after fun _ => follows_outcome _

omit [Seconds τ] in
/-- Counting the hits. -/
theorem follows_countHits (hits : Fields) :
    Follows rendering events script Eq (countHits hits) (countHits hits) := by
  unfold countHits
  cases Search.lowerBound? hits with
  | some total => exact (Follows.say _ _).after fun _ => follows_outcome _
  | none => exact Follows.after (Follows.pure rfl) fun _ => follows_outcome _

/-- Searching an index. -/
theorem follows_search (own : session.backend = rendering.backend) (query : SearchQuery) :
    Follows rendering events script Eq (session.search query)
      (session.overEvents.search query) :=
  (follows_capabilities own).after fun _ => (follows_askHits own _ _).after fun hits =>
    (follows_outcome _).after fun _ => (follows_countHits hits).after fun _ => follows_outcome _

/-- Reading the values of one field. -/
theorem follows_storedFields (own : session.backend = rendering.backend)
    (request : FieldRequest) :
    Follows rendering events script Eq (session.storedFields request)
      (session.overEvents.storedFields request) :=
  (follows_outcome _).after fun _ => Follows.ite (fun _ => Follows.throw (.same _)) fun _ =>
    (Follows.say _ _).after fun _ => Follows.ite (fun _ => Follows.pure rfl) fun _ =>
      (follows_capabilities own).after fun _ => (follows_askHits own _ _).after fun _ =>
        (follows_outcome _).after fun _ => follows_outcome _

/-- Storing a pipeline. -/
theorem follows_putPipeline (own : session.backend = rendering.backend) (pipeline : Pipeline) :
    Follows rendering events script Eq (session.putPipeline pipeline)
      (session.overEvents.putPipeline pipeline) := by
  have supported : Follows rendering events script Eq session.isIngestSupported
      session.overEvents.isIngestSupported :=
    (follows_capabilities own).after fun _ => Follows.pure rfl
  refine supported.after fun _ => Follows.ite
    (fun _ => (follows_refuseIngest own).after fun _ => ?_) fun _ => ?_
  all_goals
    exact Follows.after (follows_ask own (.putPipeline ..) pipeline.common_put) fun answer =>
      (Follows.say _ _).after fun _ => (follows_fieldsOf answer).after fun _ => Follows.pure rfl

end Session

/-- Every operation that all backends can carry out comes over a backend to what it comes to over
the events. -/
theorem Operation.follows_run [Seconds τ] {rendering : Rendering α} {events : List (Timed Event τ)}
    {script : List (Timed α τ)} {session : Session α τ} {operation : Operation τ}
    (own : session.backend = rendering.backend) (common : operation.Common) :
    Follows rendering events script Eq (operation.run session)
      (operation.run session.overEvents) := by
  cases operation with
  | detectVersion => exact follows_detectVersion own
  | detectedVersion =>
    exact Follows.look (fun _ _ _ => Keeps.pure _) fun _ _ abreast =>
      Follows.pure (congrArg Memory.version abreast.memory)
  | capabilities => exact follows_capabilities own
  | isIngestSupported => exact (follows_capabilities own).after fun _ => Follows.pure rfl
  | createIndex name keep settings => exact follows_createIndex own name keep common
  | isExistingIndex name =>
    exact Follows.after (follows_ask own (.indexExists name) trivial) fun _ =>
      (Follows.say _ _).after fun _ => Follows.pure rfl
  | deleteIndex name => exact follows_deleteIndex own name
  | indexHealth name hold => exact follows_indexHealth own name hold
  | waitForHealthyIndex name timeout => exact follows_waitForHealthyIndex own name timeout
  | refresh name =>
    exact Follows.after (follows_ask own (.refresh name) trivial) fun _ =>
      (follows_fieldsOf _).after fun _ => follows_outcome _
  | index document => exact follows_index own document
  | search query => exact follows_search own query
  | storedFields request => exact follows_storedFields own request
  | putPipeline pipeline => exact follows_putPipeline own pipeline
  | isExistingPipeline id => exact common.elim
  | close => exact Follows.ite (fun _ => Follows.close _ _) fun _ => Follows.pure rfl

/-- Sessions over a backend and over the events stay abreast in every course of operations that all
backends can carry out. -/
theorem Session.abreast_after [Seconds τ] {rendering : Rendering α}
    {events : List (Timed Event τ)} {script : List (Timed α τ)} {session : Session α τ}
    (own : session.backend = rendering.backend) {operations : List (Operation τ)}
    (common : ∀ operation ∈ operations, operation.Common) {c : Conversation α τ}
    {d : Conversation Event τ} (abreast : Abreast events script c d)
    (faithful : rendering.Faithful events script (session.after operations c).turns) :
    Abreast events script (session.after operations c)
      (session.overEvents.after operations d) := by
  induction operations generalizing c d with
  | nil => exact abreast
  | cons operation rest inductionHypothesis =>
    have step : Follows rendering events script Eq (operation.run session)
        (operation.run session.overEvents) :=
      operation.follows_run own (common operation List.mem_cons_self)
    have begins := (session.grown_after rest ((operation.run session).run.run c).2).1
    exact inductionHypothesis (fun other member => common other (List.mem_cons_of_mem _ member))
      (step.abreast c d abreast (faithful.of_prefix begins)).2 faithful

end EngineGateway
