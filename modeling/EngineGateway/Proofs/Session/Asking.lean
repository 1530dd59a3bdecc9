import EngineGateway.Proofs.Conversation.Leading
import EngineGateway.Session.Operation

/-!
# What operations ask

Some operations have calls of their own, which need no knowledge of the engine. The others have to
know first what the engine can do, and only then have calls whose form depends on it. Both kinds are
described here once: `OwnCall` and `BoundCall` list the calls, and two theorems bring a property of
an operation down to the same property of its calls. All operations but waiting are one call at
most, so that what holds behind such an operation may be another property than what holds before it.

What a session does to learn about the engine is not a call like the others, because it changes what
the session remembers. A `Passage` says what it leads to.
-/

namespace EngineGateway

open Session Talk

variable {α τ : Type}

/-- Whether a request for values gets as far as asking: the number of values is not below zero, and
it is not zero. -/
def Session.FieldRequest.goesOut (request : FieldRequest) : Bool :=
  match Search.isBelowZero request.limit with
  | .ok below => !below && request.limit.whole? != some 0
  | .error _ => false

namespace Operation

/-- Whether an operation has to know what the engine is. -/
def needsVersion : Operation τ → Bool
  | .detectVersion | .capabilities | .isIngestSupported | .index _ | .search _ | .putPipeline _
  | .isExistingPipeline _ => true
  | .storedFields request => request.goesOut
  | .detectedVersion | .createIndex .. | .isExistingIndex _ | .deleteIndex _ | .indexHealth ..
  | .waitForHealthyIndex .. | .refresh _ | .close => false

/-- The calls of an operation that need no knowledge of the engine. -/
def OwnCall : Operation τ → Call → Prop
  | .createIndex name _ settings, call =>
    ∃ body, Index.settingsBody settings = .ok body ∧ call = .createIndex name body
  | .isExistingIndex name, call => call = .indexExists name
  | .deleteIndex name, call => call = .deleteIndex name
  | .indexHealth name _, call | .waitForHealthyIndex name _, call =>
    ∃ hold, call = .health name hold
  | .refresh name, call => call = .refresh name
  | _, _ => False

/-- The calls of an operation at an engine that can do what `able` says. -/
def BoundCall (session : Session α τ) (able : Capabilities) : Operation τ → Call → Prop
  | .index document, call =>
    (document.namedPipeline.isSome = true → able.ingestSupported = true) ∧
      if able.documentTypeRequired = true then
        ∃ path, Rest.typedPath (.str document.index) (.str session.legacyDocumentType)
          (.str document.id) = .ok path ∧ call = typedWrite path document
      else call = plainWrite document
  | .search query, call =>
    call = .search (.str query.index) (.obj
      (Search.body (.ofFields? query.filter) (.ofNat query.limit) (query.fields.map .str) able))
  | .storedFields request, call =>
    call = .search request.index (.obj
      (Search.body request.filter request.limit [request.field] able))
  | .putPipeline pipeline, call =>
    able.ingestSupported = true ∧ call = .putPipeline (.str pipeline.id) (.obj pipeline.body)
  | .isExistingPipeline id, call =>
    able.ingestSupported = true ∧
      if session.backend.typedProbe = true then call = .pipelineExists id
      else ∃ path, Rest.pipelinePath id = .ok path ∧ call = pipelineProbe path
  | _, _ => False

end Operation

/-- Whether an operation may look more than once. -/
def Operation.polls : Operation τ → Bool
  | .waitForHealthyIndex .. => true
  | _ => false

section

variable {session : Session α τ} {before kept : Conversation α τ → Prop}

/-- The fields of an answer are read without a conversation. -/
theorem Session.keeps_fieldsOf (answer : Json) : Keeps kept (fieldsOf answer) := by
  cases answer <;> first | exact Keeps.pure _ | exact Keeps.throw _

variable [Seconds τ]

/-- One look at the health of an index is one call. -/
theorem Session.one_indexHealth {name : Name} (stride : Stride before kept) (hold : Option (Span τ))
    (asked : ∀ hold, Leads before (ask session.backend (.health name hold)) fun _ => kept) :
    Leads before (session.indexHealth name hold) fun _ => kept := by
  have read : Keeps before (hold.mapM fun span => Talk.outcome (α := α) span.holdText) := by
    cases hold with
    | none => exact Keeps.pure _
    | some span => exact (Keeps.outcome _).bind fun _ => Keeps.pure _
  refine Leads.preceded read (fun text => ?_) stride.enough
  refine Leads.followed (Leads.onReport (asked _) fun status payload => ?_) fun _ => Keeps.outcome _
  refine (Keeps.outcome _).bind fun unavailable => ?_
  cases unavailable
  · exact Keeps.throw _
  · exact Keeps.pure _

/-- A poll keeps what its look and what follows it keep. -/
theorem Session.keeps_poll {name : Name} (undisturbed : Undisturbed kept) (limit : Span τ)
    (deadline interval : τ) (asked : ∀ hold, Keeps kept (ask session.backend (.health name hold)))
    {next : Talk α τ IndexDescriptor} (goesOn : Keeps kept next) :
    Keeps kept (session.poll name limit deadline interval next) := by
  unfold poll
  refine Keeps.clock.bind fun now => Keeps.bind ?_ fun index => ?_
  · exact one_indexHealth undisturbed.stride _ asked
  split
  · exact (Keeps.say undisturbed _ _).bind fun _ => Keeps.pure _
  refine Keeps.clock.bind fun later => ?_
  split
  · exact Keeps.throw _
  · exact (Keeps.say undisturbed _ _).bind fun _ => (Keeps.sleep undisturbed _).bind fun _ => goesOn

/-- So does every row of polls. -/
theorem Session.keeps_pollUntil {name : Name} (undisturbed : Undisturbed kept) (limit : Span τ)
    (deadline : τ) (asked : ∀ hold, Keeps kept (ask session.backend (.health name hold)))
    (answers : Nat) (interval : τ) :
    Keeps kept (session.pollUntil name limit deadline answers interval) := by
  induction answers generalizing interval with
  | zero => exact keeps_poll undisturbed limit deadline interval asked (Keeps.throw _)
  | succ answers inductionHypothesis =>
    exact keeps_poll undisturbed limit deadline interval asked (inductionHypothesis _)

/-- Where settings stand for a body, the creation of an index with them leads where its call
does. -/
theorem Session.leads_createIndex {name : Name} {settings body : Json}
    (read : Index.settingsBody settings = .ok body) (undisturbed : Undisturbed kept) (keep : Bool)
    (asked : Leads before (ask session.backend (.createIndex name body)) fun _ => kept) :
    Leads before (session.createIndex name keep settings) fun _ => kept := by
  have answered : Leads before (some <$> ask session.backend (.createIndex name body))
      fun _ => kept := asked.followed fun _ => Keeps.pure _
  have told : (Talk.outcome (.ok body) : Talk α τ Json) = pure body := rfl
  unfold createIndex
  rw [read, told, pure_bind]
  refine Leads.followed (Leads.onReport answered fun status payload => ?_) fun answer => ?_
  · split
    · exact Keeps.throw _
    · split
      · exact Keeps.throw _
      · exact Keeps.pure _
  · split
    · exact (Keeps.say undisturbed _ _).bind fun _ => Keeps.outcome _
    · exact (Keeps.say undisturbed _ _).bind fun _ => (keeps_fieldsOf _).bind fun _ =>
        Keeps.outcome _

/-- The creation of an index is one call, with the settings that the given ones stand for. -/
theorem Session.one_createIndex {name : Name} {settings : Json} (stride : Stride before kept)
    (keep : Bool) (asked : ∀ body, Index.settingsBody settings = .ok body →
      Leads before (ask session.backend (.createIndex name body)) fun _ => kept) :
    Leads before (session.createIndex name keep settings) fun _ => kept := by
  cases read : Index.settingsBody settings with
  | ok body => exact leads_createIndex read stride.late keep (asked body read)
  | error refusal =>
    unfold createIndex
    rw [read]
    exact fun c holds => stride.enough c holds

/-- The deletion of an index is one call. -/
theorem Session.one_deleteIndex {name : Name} (stride : Stride before kept)
    (asked : Leads before (ask session.backend (.deleteIndex name)) fun _ => kept) :
    Leads before (session.deleteIndex name) fun _ => kept := by
  have answered : Leads before (some <$> ask session.backend (.deleteIndex name)) fun _ => kept :=
    asked.followed fun _ => Keeps.pure _
  unfold deleteIndex
  refine Leads.followed (Leads.onReport answered fun status payload => ?_) fun answer => ?_
  · split
    · exact Keeps.pure _
    · exact Keeps.throw _
  · split
    · exact (Keeps.say stride.late _ _).bind fun _ => Keeps.outcome _
    · exact (keeps_fieldsOf _).bind fun _ => Keeps.outcome _

/-- An operation that needs no knowledge of the engine and does not poll leads to what its own calls
lead to. -/
theorem Operation.one_of_needs_nothing {operation : Operation τ}
    (independent : operation.needsVersion = false) (single : operation.polls = false)
    (stride : Stride before kept)
    (asked : ∀ call, operation.OwnCall call →
      Leads before (ask session.backend call) fun _ => kept)
    (closed : operation = .close → Leads before (Talk.close session.backend) fun _ => kept) :
    Leads before (operation.run session) fun _ => kept := by
  have nothing {β : Type} (value : β) : Leads before (pure value : Talk α τ β) fun _ => kept :=
    fun c holds => stride.enough c holds
  cases operation with
  | detectedVersion => exact Leads.preceded Keeps.get (fun _ => nothing _) stride.enough
  | createIndex name keep settings =>
    exact one_createIndex stride keep fun body read => asked _ ⟨body, read, rfl⟩
  | isExistingIndex name =>
    exact (asked _ rfl).followed fun _ => (Keeps.say stride.late _ _).bind fun _ => Keeps.pure _
  | deleteIndex name => exact one_deleteIndex stride (asked _ rfl)
  | indexHealth name hold => exact one_indexHealth stride hold fun _ => asked _ ⟨_, rfl⟩
  | waitForHealthyIndex name timeout => simp [polls] at single
  | refresh name =>
    exact (asked _ rfl).followed fun _ => (keeps_fieldsOf _).bind fun _ => Keeps.outcome _
  | storedFields request =>
    have quiet : request.goesOut = false := independent
    refine Leads.outcome_bind (fun below judged => ?_) stride.enough
    cases below with
    | true => exact fun c holds => stride.enough c holds
    | false =>
      have zero : (request.limit.whole? == some 0) = true := by
        simpa [FieldRequest.goesOut, judged] using quiet
      simp only [Bool.false_eq_true, if_false, zero, if_true]
      exact Leads.preceded (Keeps.say stride.early _ _) (fun _ => nothing _) stride.enough
  | close =>
    change Leads before (closeOwned session) fun _ => kept
    unfold closeOwned
    split
    · exact closed rfl
    · exact nothing ()
  | _ => exact absurd independent (by simp [needsVersion])

/-- An operation that needs no knowledge of the engine keeps what its own calls keep. -/
theorem Operation.keeps_of_needs_nothing {operation : Operation τ}
    (independent : operation.needsVersion = false) (undisturbed : Undisturbed kept)
    (asked : ∀ call, operation.OwnCall call → Keeps kept (ask session.backend call))
    (closed : operation = .close → Keeps kept (Talk.close session.backend)) :
    Keeps kept (operation.run session) := by
  cases polling : operation.polls with
  | false => exact one_of_needs_nothing independent polling undisturbed.stride asked closed
  | true =>
    cases operation with
    | waitForHealthyIndex name timeout =>
      exact Keeps.clock.bind fun _ => (Keeps.outcome _).bind fun _ => Keeps.get.bind fun _ =>
        keeps_pollUntil undisturbed _ _ (fun _ => asked _ ⟨_, rfl⟩) _ _
    | _ => simp [polls] at polling

end

/-- What learning about the engine leads to: from `before` to `kept`, and, when it succeeds, to what
is `held` of what the engine can do. -/
structure Passage [Seconds τ] (session : Session α τ) (before kept : Conversation α τ → Prop)
    (held : Capabilities → Conversation α τ → Prop) : Prop where
  undisturbed : Undisturbed before
  detects : Leads before session.detectVersion fun _ => kept
  learns : Leads before session.capabilities fun outcome c =>
    kept c ∧ ∀ able, outcome = .ok able → held able c
  released : ∀ able c, held able c → kept c
  steady : ∀ able, Undisturbed (held able)
  settled : Undisturbed kept
  again : ∀ able, Keeps (held able) session.detectVersion

section

variable [Seconds τ] {session : Session α τ} {before kept : Conversation α τ → Prop}
  {held : Capabilities → Conversation α τ → Prop}

/-- From what is held of the engine it is one call to what is kept. -/
theorem Passage.stride (passage : Passage session before kept held) (able : Capabilities) :
    Stride (held able) kept := ⟨passage.steady able, passage.settled, passage.released able⟩

/-- What follows once it is known what the engine can do. -/
theorem Passage.capabilities_bind {β : Type} (passage : Passage session before kept held)
    {next : Capabilities → Talk α τ β}
    (rest : ∀ able, Leads (held able) (next able) fun _ => kept) :
    Leads before (session.capabilities >>= next) fun _ => kept := by
  refine passage.learns.bind (fun able => ?_) fun failure c reached => reached.1
  exact (rest able).weaken (fun c reached => reached.2 able rfl) fun _ _ holds => holds

/-- A refusal may look at the version once more, and nothing follows it. -/
theorem Passage.refuseIngest_bind {β γ : Type} (passage : Passage session before kept held)
    (able : Capabilities) (next : β → Talk α τ γ) :
    Leads (held able) (session.refuseIngest >>= next) fun _ => kept := by
  unfold refuseIngest
  rw [bind_assoc]
  exact Leads.preceded (passage.again able) (fun _ => passage.released able) (passage.released able)

omit [Seconds τ] in
/-- Counting the hits asks nothing. -/
theorem Session.keeps_countHits (undisturbed : Undisturbed kept) (hits : Fields) :
    Keeps kept (countHits hits : Talk α τ Int) := by
  unfold countHits
  cases Search.lowerBound? hits with
  | some total => exact (Keeps.say undisturbed _ _).bind fun _ => Keeps.outcome _
  | none => exact (Keeps.pure ()).bind fun _ => Keeps.outcome _

/-- Sending a search is one call. -/
theorem Session.one_askHits {index : Name} {body : Fields}
    (asked : Leads before (ask session.backend (.search index (.obj body))) fun _ => kept) :
    Leads before (session.askHits index body) fun _ => kept :=
  asked.followed fun _ => (keeps_fieldsOf _).bind fun _ => Keeps.outcome _

/-- Writing a document with a type is one call, if there is a path for it. -/
theorem Session.one_writeTyped {document : Document} (stride : Stride before kept)
    (asked : ∀ path, Rest.typedPath (.str document.index) (.str session.legacyDocumentType)
      (.str document.id) = .ok path →
        Leads before (ask session.backend (typedWrite path document)) fun _ => kept) :
    Leads before (session.writeTyped document) fun _ => kept := by
  refine Leads.outcome_bind (fun path written => ?_) stride.enough
  refine (asked path written).followed fun response => ?_
  refine Keeps.ite (fun _ => Keeps.throw _) fun _ => ?_
  split <;> exact Keeps.pure _

/-- Writing a document is one call, whose form depends on what the engine can do. -/
theorem Passage.leads_index (passage : Passage session before kept held) {document : Document}
    (asked : ∀ able call, (Operation.index document).BoundCall session able call →
      Leads (held able) (ask session.backend call) fun _ => kept) :
    Leads before (session.index document) fun _ => kept := by
  refine passage.capabilities_bind fun able => ?_
  refine Leads.ite (fun _ => passage.refuseIngest_bind able _) fun admitted => ?_
  have admissible : document.namedPipeline.isSome = true → able.ingestSupported = true := by
    simpa using admitted
  have written : Leads (held able) (session.write able document) fun _ => kept := by
    refine Leads.ite (fun typed => ?_) fun untyped => ?_
    · refine one_writeTyped (passage.stride able) fun path built => asked able _ ⟨admissible, ?_⟩
      rw [if_pos typed]
      exact ⟨path, built, rfl⟩
    · refine asked able _ ⟨admissible, ?_⟩
      rw [if_neg untyped]
  exact written.followed fun _ => (Keeps.say passage.settled _ _).bind fun _ =>
    (keeps_fieldsOf _).bind fun _ => Keeps.pure _

/-- A search is one call. -/
theorem Passage.leads_search (passage : Passage session before kept held) {query : SearchQuery}
    (asked : ∀ able call, (Operation.search query).BoundCall session able call →
      Leads (held able) (ask session.backend call) fun _ => kept) :
    Leads before (session.search query) fun _ => kept :=
  passage.capabilities_bind fun able => (one_askHits (asked able _ rfl)).followed fun _ =>
    (Keeps.outcome _).bind fun _ => (keeps_countHits passage.settled _).bind fun _ =>
      Keeps.outcome _

/-- A request for values that gets as far as asking is one call. -/
theorem Passage.leads_storedFields (passage : Passage session before kept held)
    {request : FieldRequest} (goesOut : request.goesOut = true)
    (asked : ∀ able call, (Operation.storedFields request).BoundCall session able call →
      Leads (held able) (ask session.backend call) fun _ => kept) :
    Leads before (session.storedFields request) fun _ => kept := by
  have searched (able : Capabilities) : Leads (held able) _ fun _ => kept :=
    (one_askHits (asked able _ rfl)).followed fun hits =>
      (Keeps.outcome (Search.storedValues request.field able.mappingStyle hits)).bind fun values =>
        Keeps.outcome (Search.atMost request.limit values)
  have judged : Search.isBelowZero request.limit = .ok false := by
    unfold FieldRequest.goesOut at goesOut
    split at goesOut <;> simp_all
  have wanted : ¬(request.limit.whole? == some 0) = true := by
    simpa [FieldRequest.goesOut, judged] using goesOut
  unfold storedFields
  rw [judged]
  simp only [wanted]
  -- Nothing but the log changes before the session has to know what the engine can do.
  exact fun c holds => passage.capabilities_bind searched _
    (passage.undisturbed c _ c.sleeps c.now holds)

/-- Storing a pipeline is one call. -/
theorem Passage.leads_putPipeline (passage : Passage session before kept held)
    {pipeline : Pipeline}
    (asked : ∀ able call, (Operation.putPipeline pipeline).BoundCall session able call →
      Leads (held able) (ask session.backend call) fun _ => kept) :
    Leads before (session.putPipeline pipeline) fun _ => kept := by
  unfold putPipeline isIngestSupported
  rw [bind_assoc]
  refine passage.capabilities_bind fun able => ?_
  rw [pure_bind]
  refine Leads.ite (fun _ => passage.refuseIngest_bind able _) fun admitted => ?_
  have supported : able.ingestSupported = true := by simpa using admitted
  exact (asked able _ ⟨supported, rfl⟩).followed fun _ =>
    (Keeps.say passage.settled _ _).bind fun _ => (keeps_fieldsOf _).bind fun _ => Keeps.pure _

/-- Asking for a pipeline is one call, typed if the backend has a way to. -/
theorem Passage.leads_isExistingPipeline (passage : Passage session before kept held) {id : Name}
    (asked : ∀ able call, (Operation.isExistingPipeline id).BoundCall session able call →
      Leads (held able) (ask session.backend call) fun _ => kept) :
    Leads before (session.isExistingPipeline id) fun _ => kept := by
  unfold isExistingPipeline isIngestSupported
  rw [bind_assoc]
  refine passage.capabilities_bind fun able => ?_
  have stride := passage.stride able
  rw [pure_bind]
  refine Leads.ite (fun _ => ?_) fun admitted => ?_
  · exact Leads.preceded (Keeps.say stride.early _ _) (fun _ => stride.enough) stride.enough
  have supported : able.ingestSupported = true := by simpa using admitted
  refine Leads.ite (fun typed => ?_) fun untyped => ?_
  · refine asked able (.pipelineExists id) ⟨supported, ?_⟩
    rw [if_pos typed]
  · refine Leads.preceded (Keeps.say stride.early _ _) (fun _ => ?_) stride.enough
    refine Leads.outcome_bind (fun path built => ?_) stride.enough
    refine (asked able (pipelineProbe path) ⟨supported, ?_⟩).followed fun _ => Keeps.outcome _
    rw [if_neg untyped]
    exact ⟨path, built, rfl⟩

/-- An operation that has to know what the engine is leads from `before` to `kept` if its calls lead
there from what is held once that is known. -/
theorem Passage.leads_run (passage : Passage session before kept held) {operation : Operation τ}
    (needed : operation.needsVersion = true)
    (asked : ∀ able call, operation.BoundCall session able call →
      Leads (held able) (ask session.backend call) fun _ => kept) :
    Leads before (operation.run session) fun _ => kept := by
  cases operation with
  | detectVersion => exact passage.detects
  | capabilities => exact passage.learns.weaken (fun _ holds => holds) fun _ _ reached => reached.1
  | isIngestSupported =>
    exact passage.capabilities_bind fun able => passage.released able
  | index document => exact passage.leads_index asked
  | search query => exact passage.leads_search asked
  | storedFields request => exact passage.leads_storedFields needed asked
  | putPipeline pipeline => exact passage.leads_putPipeline asked
  | isExistingPipeline id => exact passage.leads_isExistingPipeline asked
  | _ => simp [Operation.needsVersion] at needed

end

/-- A property of what was asked, of what was sent and of when the connection was closed, and of
nothing else. -/
def Historic (kept : Conversation α τ → Prop) : Prop :=
  ∀ c d, c.turns = d.turns → c.sent = d.sent → c.closings = d.closings → kept c → kept d

section

variable [Seconds τ] {session : Session α τ} {kept : Conversation α τ → Prop}

omit [Seconds τ] in
/-- Nothing that is said is asked or sent. -/
theorem Historic.undisturbed (historic : Historic kept) : Undisturbed kept :=
  fun c _ _ _ holds => historic c _ rfl rfl rfl holds

/-- Finding out the version asks one question at most. -/
theorem Historic.keeps_detectVersion (historic : Historic kept)
    (asked : Keeps kept (ask session.backend .info)) : Keeps kept session.detectVersion := by
  intro c holds
  cases known : c.memory.version with
  | some version =>
    rw [run_detectVersion_of_known session known]
    exact holds
  | none =>
    have after := asked c holds
    rw [run_detectVersion_of_unknown session known]
    cases ran : (ask session.backend .info).run.run c with
    | mk reply answered =>
      rw [ran] at after
      cases reply with
      | error failure => exact after
      | ok payload =>
        cases told : Version.ofInfo payload <;> simp only [told]
        · exact after
        · exact historic answered _ rfl rfl rfl after

/-- So does finding out what the engine can do. -/
theorem Historic.keeps_capabilities (historic : Historic kept)
    (asked : Keeps kept (ask session.backend .info)) : Keeps kept session.capabilities := by
  intro c holds
  cases known : c.memory.capabilities with
  | some able =>
    rw [run_capabilities_of_known session known]
    exact holds
  | none =>
    have after := historic.keeps_detectVersion asked c holds
    rw [run_capabilities_of_unknown session known]
    cases ran : session.detectVersion.run.run c with
    | mk reply answered =>
      rw [ran] at after
      cases reply with
      | error failure => exact after
      | ok version =>
        cases derived : capabilitiesOf version <;> simp only [derived]
        · exact after
        · exact historic answered _ rfl rfl rfl after

/-- Such a property is kept all the way to knowing what the engine can do, if the question who it is
keeps it. -/
theorem Historic.passage (historic : Historic kept)
    (asked : Keeps kept (ask session.backend .info)) :
    Passage session kept kept fun _ => kept where
  undisturbed := historic.undisturbed
  detects := historic.keeps_detectVersion asked
  learns := (historic.keeps_capabilities asked).weaken (fun _ holds => holds)
    fun _ _ holds => ⟨holds, fun _ _ => holds⟩
  released _ _ holds := holds
  steady _ := historic.undisturbed
  settled := historic.undisturbed
  again _ := historic.keeps_detectVersion asked

/-- Such a property is kept by every operation if asking keeps it, and if closing does where the
operation is to close. -/
theorem Historic.keeps_run (historic : Historic kept)
    (asked : ∀ call, Keeps kept (ask session.backend call)) (operation : Operation τ)
    (closed : operation = .close → Keeps kept (Talk.close session.backend)) :
    Keeps kept (operation.run session) := by
  cases needed : operation.needsVersion with
  | false =>
    exact Operation.keeps_of_needs_nothing needed historic.undisturbed (fun call _ => asked call)
      closed
  | true =>
    exact (historic.passage (asked .info)).leads_run needed fun _ call _ => asked call

/-- What every operation keeps is kept by every course of operations. -/
theorem Session.after_of_keeps
    (steps : ∀ operation : Operation τ, Keeps kept (operation.run session))
    (operations : List (Operation τ)) {c : Conversation α τ} (holds : kept c) :
    kept (session.after operations c) := by
  induction operations generalizing c with
  | nil => exact holds
  | cons operation rest inductionHypothesis => exact inductionHypothesis (steps operation c holds)

omit [Seconds τ] in
/-- Growth is a matter of what was asked and sent. -/
theorem Grown.historic (turns : List Turn) (sent : List Request) :
    Historic (Grown turns sent : Conversation α τ → Prop) := by
  rintro c d sameTurns sameSent - ⟨asked, requests⟩
  exact ⟨sameTurns ▸ asked, sameSent ▸ requests⟩

/-- A course of operations goes on from what was there. -/
theorem Session.grown_after (session : Session α τ) (operations : List (Operation τ))
    (c : Conversation α τ) : Grown c.turns c.sent (session.after operations c) :=
  Session.after_of_keeps (fun operation => (Grown.historic c.turns c.sent).keeps_run
      (fun call => grows_ask session.backend call _ _) operation
      fun _ => grows_close session.backend _ _)
    operations ⟨List.prefix_refl c.turns, List.prefix_refl c.sent⟩

end

end EngineGateway
