import EngineGateway.Proofs.Conversation.Level
import EngineGateway.Proofs.Session.Asking

/-!
# Operations that do not look back

What an operation comes to does not depend on what was asked and said before it, nor on what is
remembered, but for the version of the engine. An operation that needs no knowledge of the engine is
oblivious as a whole. The others find something out about the engine first, and what they do then is
oblivious to everything but the version, and restful.
-/

namespace EngineGateway

open Session Talk

variable {α τ : Type}

namespace Session

variable {session : Session α τ} {restful : Prop} {knowing : Memory → Prop}

theorem oblivious_fieldsOf (answer : Json) :
    Oblivious session.backend restful knowing (fieldsOf answer : Talk α τ Fields) := by
  cases answer with
  | obj fields => exact .pure fields
  | _ => exact .throw .noMember

/-- Counting the hits. -/
theorem oblivious_countHits (hits : Fields) :
    Oblivious session.backend restful knowing (countHits hits : Talk α τ Int) := by
  unfold countHits
  cases Search.lowerBound? hits with
  | some total => exact (Oblivious.say _ _).bind fun _ => .outcome _
  | none => exact (Oblivious.pure ()).bind fun _ => .outcome _

variable [Seconds τ]

/-- One look at the health of an index. -/
theorem oblivious_indexHealth (name : Name) (hold : Option (Span τ)) :
    Oblivious session.backend restful knowing (session.indexHealth name hold) := by
  have read : Oblivious session.backend restful knowing
      (hold.mapM fun span => (Talk.outcome span.holdText : Talk α τ String)) := by
    cases hold with
    | none => exact .pure none
    | some span => exact (Oblivious.outcome _).bind fun _ => .pure _
  have asked (text : Option String) : Oblivious session.backend restful knowing
      (ask session.backend (.health name (.ofText? (text.map Text.ofString))) : Talk α τ Json) :=
    .ask Call.noConfusion
  refine read.bind fun text => ((asked text).onReport fun status payload => ?_).bind
    fun _ => .outcome _
  refine (Oblivious.outcome _).bind fun unavailable => ?_
  cases unavailable
  · exact .throw _
  · exact .pure _

/-- A poll, if what comes after it is oblivious. -/
theorem oblivious_poll (name : Name) (limit : Span τ) (deadline interval : τ)
    {next : Talk α τ IndexDescriptor} (goesOn : Oblivious session.backend False knowing next) :
    Oblivious session.backend False knowing
      (session.poll name limit deadline interval next) := by
  unfold poll
  refine Oblivious.clock.bind fun now => (oblivious_indexHealth name _).bind fun index => ?_
  refine .ite (fun _ => (Oblivious.say _ _).bind fun _ => .pure _) fun _ => ?_
  refine Oblivious.clock.bind fun later => ?_
  cases verdict deadline interval later with
  | expired => exact .throw _
  | rest time =>
    exact (Oblivious.say _ _).bind fun _ => (Oblivious.sleep time).bind fun _ => goesOn

/-- A row of polls. -/
theorem oblivious_pollUntil (name : Name) (limit : Span τ) (deadline : τ) (answers : Nat)
    (interval : τ) : Oblivious session.backend False knowing
      (session.pollUntil name limit deadline answers interval) := by
  induction answers generalizing interval with
  | zero => exact oblivious_poll name limit deadline interval (.throw _)
  | succ answers inductionHypothesis =>
    exact oblivious_poll name limit deadline interval (inductionHypothesis _)

/-- Waiting for the health of an index. Equally many answers are to come, so that equally many looks
are taken at most. -/
theorem oblivious_waitForHealthyIndex (name : Name) (timeout : Option (Span τ)) :
    Oblivious session.backend False knowing (session.waitForHealthyIndex name timeout) := by
  refine Oblivious.clock.bind fun started => (Oblivious.outcome _).bind fun time => ?_
  refine .look (fun c d level => ?_) fun c => oblivious_pollUntil name _ _ _ _
  rw [level.pending]

/-- The creation of an index. -/
theorem oblivious_createIndex (name : Name) (keep : Bool) (settings : Json) :
    Oblivious session.backend restful knowing (session.createIndex name keep settings) := by
  have answered (body : Json) : Oblivious session.backend restful knowing
      (some <$> ask session.backend (.createIndex name body) : Talk α τ (Option Json)) :=
    (Oblivious.ask Call.noConfusion).bind fun _ => .pure _
  refine (Oblivious.outcome _).bind fun body =>
    ((answered body).onReport fun status payload => ?_).bind fun answer => ?_
  · exact .ite (fun _ => .throw _) fun _ => .ite (fun _ => .throw _) fun _ => .pure _
  · cases answer with
    | none => exact (Oblivious.say _ _).bind fun _ => .outcome _
    | some answer =>
      exact (Oblivious.say _ _).bind fun _ => (oblivious_fieldsOf answer).bind fun _ => .outcome _

/-- The deletion of an index. -/
theorem oblivious_deleteIndex (name : Name) :
    Oblivious session.backend restful knowing (session.deleteIndex name) := by
  have answered : Oblivious session.backend restful knowing
      (some <$> ask session.backend (.deleteIndex name) : Talk α τ (Option Json)) :=
    (Oblivious.ask Call.noConfusion).bind fun _ => .pure _
  refine (answered.onReport fun status payload => ?_).bind fun answer => ?_
  · exact .ite (fun _ => .pure _) fun _ => .throw _
  · cases answer with
    | none => exact (Oblivious.say _ _).bind fun _ => .outcome _
    | some answer => exact (oblivious_fieldsOf answer).bind fun _ => .outcome _

/-- A request for values that does not get as far as asking. -/
theorem oblivious_storedFields {request : FieldRequest} (stays : request.goesOut = false) :
    Oblivious session.backend restful knowing (session.storedFields request) := by
  unfold storedFields
  cases judged : Search.isBelowZero request.limit with
  | error failure => exact .throw failure
  | ok below =>
    cases below with
    | true => exact .throw _
    | false =>
      have empty : (request.limit.whole? == some 0) = true := by
        simpa [FieldRequest.goesOut, judged] using stays
      simp only [empty]
      exact (Oblivious.say _ _).bind fun _ => .pure []

end Session

/-- An operation that needs no knowledge of the engine is oblivious, unless it looks at what is
remembered. -/
theorem Operation.oblivious_run [Seconds τ] {session : Session α τ} {operation : Operation τ}
    (independent : operation.needsVersion = false) (proper : operation ≠ .detectedVersion) :
    Oblivious session.backend False (fun _ => True) (operation.run session) := by
  cases operation with
  | detectedVersion => exact absurd rfl proper
  | createIndex name keep settings => exact oblivious_createIndex name keep settings
  | isExistingIndex name =>
    exact (Oblivious.ask Call.noConfusion).bind fun found =>
      (Oblivious.say _ _).bind fun _ => .pure found
  | deleteIndex name => exact oblivious_deleteIndex name
  | indexHealth name hold => exact oblivious_indexHealth name hold
  | waitForHealthyIndex name timeout => exact oblivious_waitForHealthyIndex name timeout
  | refresh name =>
    exact (Oblivious.ask Call.noConfusion).bind fun answer =>
      (oblivious_fieldsOf answer).bind fun _ => .outcome _
  | storedFields request => exact oblivious_storedFields independent
  | close => exact .ite (fun _ => .close _) fun _ => .pure _
  | _ => simp [needsVersion] at independent

/-- A talk finds something out about the engine first, apart from what it says, and then does not
look back but to the version. -/
def FindsFirst {β δ : Type} (session : Session α τ) (version : Version) (find : Talk α τ δ)
    (talk : Talk α τ β) : Prop :=
  ∃ rest : δ → Talk α τ β,
    (∀ found, Oblivious session.backend True (·.version = some version) (rest found)) ∧
    ∀ c, ∃ log, talk.run.run c = (find >>= rest).run.run { c with log := log }

/-- A talk that begins with finding something out. -/
theorem FindsFirst.of_eq {β δ : Type} {session : Session α τ} {version : Version}
    {find : Talk α τ δ} {talk : Talk α τ β} {rest : δ → Talk α τ β} (begins : talk = find >>= rest)
    (oblivious : ∀ found, Oblivious session.backend True (·.version = some version) (rest found)) :
    FindsFirst session version find talk :=
  ⟨rest, oblivious, fun c => ⟨c.log, by rw [begins]⟩⟩

namespace Session

variable [Seconds τ] {session : Session α τ} {restful : Prop} {version : Version}

/-- A refusal for want of pipelines looks at the version once more. -/
theorem oblivious_refuseIngest {β : Type} :
    Oblivious session.backend restful (·.version = some version)
      (session.refuseIngest : Talk α τ β) := by
  have looked : Oblivious session.backend restful (·.version = some version)
      session.detectVersion := .of_unchanged fun c d _ known known' =>
    ⟨.ok version, run_detectVersion_of_known session known,
      run_detectVersion_of_known session known'⟩
  exact looked.bind fun _ => .throw _

/-- Writing a document with a type. -/
theorem oblivious_writeTyped {knowing : Memory → Prop} (document : Document) :
    Oblivious session.backend restful knowing (session.writeTyped document) := by
  refine (Oblivious.outcome _).bind fun path =>
    Oblivious.bind (.ask Call.noConfusion) fun response => .ite (fun _ => .throw _) fun _ => ?_
  cases response.payload <;> exact .pure _

/-- Handing a document to an engine. -/
theorem oblivious_write {knowing : Memory → Prop} (able : Capabilities) (document : Document) :
    Oblivious session.backend restful knowing (session.write able document) :=
  .ite (fun _ => oblivious_writeTyped document) fun _ => .ask Call.noConfusion

/-- Sending a search. -/
theorem oblivious_askHits {knowing : Memory → Prop} (index : Name) (body : Fields) :
    Oblivious session.backend restful knowing (session.askHits index body) :=
  Oblivious.bind (.ask Call.noConfusion) fun answer =>
    (oblivious_fieldsOf answer).bind fun _ => .outcome _

/-- Writing a document needs to know what the engine can do. -/
theorem findsFirst_index (document : Document) :
    FindsFirst session version session.capabilities (session.index document) := by
  refine .of_eq rfl fun able => .ite (fun _ => oblivious_refuseIngest.bind fun _ => ?_) fun _ => ?_
  all_goals
    exact (oblivious_write able document).bind fun answer => (Oblivious.say _ _).bind fun _ =>
      (oblivious_fieldsOf answer).bind fun _ => .pure _

/-- So does a search. -/
theorem findsFirst_search (query : SearchQuery) :
    FindsFirst session version session.capabilities (session.search query) :=
  .of_eq rfl fun _ => (oblivious_askHits _ _).bind fun hits => (Oblivious.outcome _).bind fun _ =>
    (oblivious_countHits hits).bind fun _ => .outcome _

/-- So does a request for values that gets as far as asking; it only says something before. -/
theorem findsFirst_storedFields {request : FieldRequest} (goesOut : request.goesOut = true) :
    FindsFirst session version session.capabilities (session.storedFields request) := by
  have judged : Search.isBelowZero request.limit = .ok false := by
    unfold FieldRequest.goesOut at goesOut
    split at goesOut <;> simp_all
  have wanted : ¬(request.limit.whole? == some 0) = true := by
    simpa [FieldRequest.goesOut, judged] using goesOut
  let body := Search.body request.filter request.limit [request.field]
  refine ⟨fun able => askHits session request.index (body able) >>=
      fun hits => Talk.outcome (Search.storedValues request.field able.mappingStyle hits) >>=
      fun values => Talk.outcome (Search.atMost request.limit values), fun able => ?_,
    fun c => ?_⟩
  · exact (oblivious_askHits _ _).bind fun _ => (Oblivious.outcome _).bind fun _ => .outcome _
  · unfold storedFields
    rw [judged]
    simp only [wanted]
    exact ⟨_, rfl⟩

/-- So does storing a pipeline. -/
theorem findsFirst_putPipeline (pipeline : Pipeline) :
    FindsFirst session version session.capabilities (session.putPipeline pipeline) := by
  refine .of_eq (by rw [putPipeline, isIngestSupported, bind_assoc]) fun able => ?_
  rw [pure_bind]
  refine .ite (fun _ => oblivious_refuseIngest.bind fun _ => ?_) fun _ => ?_
  all_goals
    exact Oblivious.bind (.ask Call.noConfusion) fun answer => (Oblivious.say _ _).bind fun _ =>
      (oblivious_fieldsOf answer).bind fun _ => .pure _

/-- So does asking for a pipeline. -/
theorem findsFirst_isExistingPipeline (id : Name) :
    FindsFirst session version session.capabilities (session.isExistingPipeline id) := by
  refine .of_eq (by rw [isExistingPipeline, isIngestSupported, bind_assoc]) fun able => ?_
  rw [pure_bind]
  refine .ite (fun _ => (Oblivious.say _ _).bind fun _ => .pure _) fun _ => ?_
  refine .ite (fun _ => .ask Call.noConfusion) fun _ => ?_
  exact (Oblivious.say _ _).bind fun _ => (Oblivious.outcome _).bind fun path =>
    Oblivious.bind (.ask Call.noConfusion) fun _ => .outcome _

end Session

/-- An operation that has to know what the engine is finds out its version first, or what follows
from it. -/
theorem Operation.findsFirst_run [Seconds τ] {session : Session α τ} {operation : Operation τ}
    (needed : operation.needsVersion = true) (version : Version) :
    FindsFirst session version session.detectVersion (operation.run session) ∨
      FindsFirst session version session.capabilities (operation.run session) := by
  cases operation with
  | detectVersion => exact Or.inl (.of_eq (bind_pure _).symm fun _ => .pure _)
  | capabilities => exact Or.inr (.of_eq (bind_pure _).symm fun _ => .pure _)
  | isIngestSupported => exact Or.inr (.of_eq rfl fun _ => .pure _)
  | index document => exact Or.inr (findsFirst_index document)
  | search query => exact Or.inr (findsFirst_search query)
  | storedFields request => exact Or.inr (findsFirst_storedFields needed)
  | putPipeline pipeline => exact Or.inr (findsFirst_putPipeline pipeline)
  | isExistingPipeline id => exact Or.inr (findsFirst_isExistingPipeline id)
  | _ => simp [needsVersion] at needed

end EngineGateway
