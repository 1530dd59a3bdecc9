import EngineGateway.Proofs.Rest.Escaping
import EngineGateway.Proofs.Session.Delivery

/-!
# The raw requests of a session

Two operations make raw requests: the writing of a document with a type and the question whether a
pipeline exists, where the backend has no call of its own for it. Which requests these are is said
here for every operation (`Session.rawRequests`), and shown to be what a client is handed, whatever
the backend and its answers. The names in their paths can be told apart again.
-/

namespace EngineGateway

open Session Talk

variable {α τ : Type}

/-- Whether a call is a raw request. -/
def Call.isRaw : Call → Bool
  | .raw .. => true
  | _ => false

/-- The raw requests among some turns. -/
def rawCalls (turns : List Turn) : List Call := (turns.map Turn.call).filter Call.isRaw

/-- The raw request that writes a document with a type, if there is a path for it. -/
def Session.typedWrites (session : Session α τ) (document : Document) : List Call :=
  ((Rest.typedPath (.str document.index) (.str session.legacyDocumentType)
    (.str document.id)).toOption.map (typedWrite · document)).toList

/-- The raw request for a pipeline, if there is a path for it. -/
def pipelineProbes (id : Name) : List Call :=
  ((Rest.pipelinePath id).toOption.map pipelineProbe).toList

/-- The raw requests of an operation at an engine that can do what `able` says: one at most. -/
def Session.rawRequests (session : Session α τ) (able : Capabilities) : Operation τ → List Call
  | .index document =>
    if document.namedPipeline.isSome && !able.ingestSupported then []
    else if able.documentTypeRequired then session.typedWrites document
    else []
  | .isExistingPipeline id =>
    if able.ingestSupported && !session.backend.typedProbe then pipelineProbes id else []
  | _ => []

/-- Since some turns a client was handed exactly some raw requests. -/
def RawSince (turns : List Turn) (requests : List Call) (c : Conversation α τ) : Prop :=
  ∃ fresh, c.turns = turns ++ fresh ∧ rawCalls fresh = requests

namespace RawSince

variable [Seconds τ] {session : Session α τ} {turns : List Turn} {requests : List Call}

omit [Seconds τ] in
/-- What was handed over is a matter of what was asked. -/
theorem historic : Historic (RawSince turns requests : Conversation α τ → Prop) := by
  rintro c d same - - ⟨fresh, later, handed⟩
  exact ⟨fresh, same ▸ later, handed⟩

omit [Seconds τ] in
/-- Nothing was handed over since now. -/
theorem now (c : Conversation α τ) : RawSince c.turns [] c := ⟨[], (List.append_nil _).symm, rfl⟩

/-- A call hands over a raw request if it is one, whatever comes of it. -/
theorem ask (backend : Backend α) (call : Call) :
    Leads (RawSince turns requests) (Talk.ask backend call : Talk α τ call.Reply)
      fun _ => RawSince turns (requests ++ [call].filter Call.isRaw) := by
  rintro c ⟨fresh, later, rfl⟩
  obtain ⟨pending, now, asked⟩ := after_ask backend call c
  rw [asked]
  refine ⟨fresh ++ [⟨call, _⟩], by rw [later, List.append_assoc], ?_⟩
  rw [rawCalls, List.map_append, List.filter_append]
  rfl

/-- Any other call hands over none. -/
theorem keeps_ask {call : Call} (typed : call.isRaw = false) (backend : Backend α) :
    Keeps (RawSince turns requests) (Talk.ask backend call : Talk α τ call.Reply) := by
  intro c handed
  have asked := ask backend call c handed
  rwa [List.filter_singleton, typed, cond_false, List.append_nil] at asked

/-- Learning what the engine can do hands over none. -/
theorem passage (session : Session α τ) (turns : List Turn) (requests : List Call) :
    Passage session (RawSince turns requests) (RawSince turns requests)
      fun _ => RawSince turns requests :=
  historic.passage (keeps_ask rfl session.backend)

end RawSince

/-- Whether an operation is neither of the two that make raw requests. -/
def Operation.asksTyped : Operation τ → Bool
  | .index _ | .isExistingPipeline _ => false
  | _ => true

/-- No call that needs no knowledge of the engine is a raw request. -/
theorem Operation.OwnCall.isRaw_eq {operation : Operation τ} {call : Call}
    (own : operation.OwnCall call) : call.isRaw = false := by
  cases operation <;> simp only [OwnCall] at own <;> grind [Call.isRaw]

/-- Of the others only those of the two operations are. -/
theorem Operation.BoundCall.isRaw_eq {session : Session α τ} {able : Capabilities}
    {operation : Operation τ} (typed : operation.asksTyped = true) {call : Call}
    (bound : operation.BoundCall session able call) : call.isRaw = false := by
  cases operation <;> simp only [BoundCall, asksTyped] at bound typed <;> grind [Call.isRaw]

namespace RawSince

variable [Seconds τ] {session : Session α τ} {turns : List Turn} {requests : List Call}

/-- Operations other than the two hand over no raw requests. -/
theorem run_of_typed {operation : Operation τ} (typed : operation.asksTyped = true) :
    Keeps (RawSince turns requests) (operation.run session) := by
  cases needed : operation.needsVersion with
  | false =>
    exact Operation.keeps_of_needs_nothing needed historic.undisturbed
      (fun call own => keeps_ask own.isRaw_eq session.backend) fun _ _ handed => handed
  | true =>
    exact (passage session turns requests).leads_run needed fun able call bound =>
      keeps_ask (bound.isRaw_eq typed) session.backend

/-- Writing a document with a type hands over one raw request, if there is a path for it. -/
theorem writeTyped (document : Document) :
    Leads (RawSince turns []) (session.writeTyped document)
      fun _ => RawSince turns (session.typedWrites document) := by
  unfold Session.writeTyped Session.typedWrites
  cases built : Rest.typedPath (.str document.index) (.str session.legacyDocumentType)
    (.str document.id) with
  | error failure => exact fun c handed => handed
  | ok path =>
    have asked : Leads (RawSince turns [])
        (Talk.ask session.backend (typedWrite path document) : Talk α τ RawResponse)
        fun _ => RawSince turns [typedWrite path document] :=
      ask session.backend (typedWrite path document)
    change Leads _ (Talk.ask session.backend (typedWrite path document) >>= _) _
    refine asked.followed fun response => ?_
    refine Keeps.ite (fun _ => Keeps.throw _) fun _ => ?_
    split <;> exact Keeps.pure _

/-- Writing a document with a type or without hands over this one where the type is required. -/
theorem write (able : Capabilities) (document : Document) :
    Leads (RawSince turns []) (session.write able document) fun _ =>
      RawSince turns (if able.documentTypeRequired then session.typedWrites document else []) := by
  by_cases typed : able.documentTypeRequired = true
  · have same : session.write able document = session.writeTyped document := if_pos typed
    rw [same, if_pos typed]
    exact writeTyped document
  · have same : session.write able document = Talk.ask session.backend (plainWrite document) :=
      if_neg typed
    rw [same, if_neg typed]
    exact keeps_ask rfl session.backend

/-- Once it is known what the engine can do, writing a document hands over the raw requests that
`rawRequests` lists. -/
theorem index (document : Document) {able : Capabilities} {c d : Conversation α τ}
    (known : session.capabilities.run.run c = (.ok able, d)) (handed : RawSince turns [] d) :
    RawSince turns (session.rawRequests able (.index document))
      ((session.index document).run.run c).2 := by
  unfold Session.index
  rw [run_bind, known]
  by_cases refused : (document.namedPipeline.isSome && !able.ingestSupported) = true
  · simp only [Session.rawRequests, refused, if_true]
    exact (passage session turns []).refuseIngest_bind able _ d handed
  · simp only [Session.rawRequests, refused]
    refine Leads.followed (write able document) (fun answer => ?_) d handed
    exact (Keeps.say historic.undisturbed _ _).bind fun _ => (keeps_fieldsOf answer).bind fun _ =>
      Keeps.pure _

/-- A raw request is the only question for a pipeline, if there is a path for it. -/
theorem probe (id : Name) :
    Leads (RawSince turns []) (do
        let path ← Talk.outcome (Rest.pipelinePath id)
        let response : RawResponse ← Talk.ask session.backend (pipelineProbe path)
        Talk.outcome (probeOutcome id response) : Talk α τ Bool)
      fun _ => RawSince turns (pipelineProbes id) := by
  unfold pipelineProbes
  cases built : Rest.pipelinePath id with
  | error failure => exact fun c handed => handed
  | ok path =>
    have asked : Leads (RawSince turns [])
        (Talk.ask session.backend (pipelineProbe path) : Talk α τ RawResponse)
        fun _ => RawSince turns [pipelineProbe path] :=
      ask session.backend (pipelineProbe path)
    exact asked.followed fun response => Keeps.outcome _

/-- The question whether a pipeline exists hands over the raw requests that are listed for it, too.
-/
theorem isExistingPipeline (id : Name) {able : Capabilities} {c d : Conversation α τ}
    (known : session.capabilities.run.run c = (.ok able, d)) (handed : RawSince turns [] d) :
    RawSince turns (session.rawRequests able (.isExistingPipeline id))
      ((session.isExistingPipeline id).run.run c).2 := by
  unfold Session.isExistingPipeline isIngestSupported
  rw [bind_assoc, run_bind, known]
  simp only [pure_bind, Session.rawRequests]
  cases supported : able.ingestSupported with
  | false => exact Keeps.say historic.undisturbed _ _ d handed
  | true =>
    cases typed : session.backend.typedProbe with
    | true =>
      have asked : Keeps (RawSince turns [])
          (Talk.ask session.backend (.pipelineExists id) : Talk α τ Bool) :=
        keeps_ask rfl session.backend
      exact asked d handed
    | false =>
      have said : Keeps (RawSince turns []) (Talk.say .debug ("No typed pipeline probe on " ++
          session.backend.name.name ++ " backend, using a raw request") : Talk α τ Unit) :=
        Keeps.say historic.undisturbed _ _
      exact probe id _ (said d handed)

end RawSince

/-- The raw requests that an operation hands over in a conversation, which depend on what the
session knows or finds out about the engine. If it finds out nothing, there are none. -/
def Session.rawRequestsIn [Seconds τ] (session : Session α τ) (c : Conversation α τ)
    (operation : Operation τ) : List Call :=
  match (session.capabilities.run.run c).1 with
  | .ok able => session.rawRequests able operation
  | .error _ => []

/-- A session that finds out nothing about the engine does not go on. -/
theorem Session.run_of_ignorant [Seconds τ] {session : Session α τ} {c d : Conversation α τ}
    {failure : Failure} (unknown : session.capabilities.run.run c = (.error failure, d)) :
    (∀ document, ((session.index document).run.run c).2 = d) ∧
      ∀ id, ((session.isExistingPipeline id).run.run c).2 = d := by
  constructor
  · intro document
    rw [Session.index, run_bind, unknown]
  · intro id
    rw [Session.isExistingPipeline, isIngestSupported, bind_assoc, run_bind, unknown]

/-- Every operation hands over exactly the raw requests that `rawRequestsIn` lists. -/
theorem RawSince.run [Seconds τ] (session : Session α τ) (operation : Operation τ)
    (c : Conversation α τ) : RawSince c.turns (session.rawRequestsIn c operation)
      ((operation.run session).run.run c).2 := by
  have learned := (passage session c.turns []).learns c (RawSince.now c)
  unfold Session.rawRequestsIn
  cases outcome : session.capabilities.run.run c with
  | mk reply d =>
    rw [outcome] at learned
    obtain ⟨handed, -⟩ := learned
    cases reply with
    | ok able =>
      cases operation with
      | index document => exact RawSince.index document outcome handed
      | isExistingPipeline id => exact RawSince.isExistingPipeline id outcome handed
      | _ => exact run_of_typed rfl c (RawSince.now c)
    | error failure =>
      obtain ⟨written, asked⟩ := Session.run_of_ignorant outcome
      cases operation with
      | index document =>
        change RawSince _ _ ((session.index document).run.run c).2
        rwa [written]
      | isExistingPipeline id =>
        change RawSince _ _ ((session.isExistingPipeline id).run.run c).2
        rwa [asked]
      | _ => exact run_of_typed rfl c (RawSince.now c)

/-- A document has a path with a type exactly if its index, the type and its id are strings. -/
theorem Rest.exists_typedPath_iff (index type id : Text) :
    (∃ path, typedPath (.str index) (.str type) (.str id) = .ok path) ↔
      index.isString = true ∧ type.isString = true ∧ id.isString = true := by
  obtain ⟨strings, built⟩ | ⟨halves, failed⟩ := typedPath_cases index type id
  · simp only [Bool.and_eq_true] at strings
    exact iff_of_true built ⟨strings.1.1, strings.1.2, strings.2⟩
  · refine iff_of_false (by simp [failed]) ?_
    rintro ⟨first, second, third⟩
    simp [first, second, third] at halves

/-- A pipeline has a path exactly if its id is a string. -/
theorem Rest.exists_pipelinePath_iff (id : Text) :
    (∃ path, pipelinePath (.str id) = .ok path) ↔ id.isString = true := by
  unfold pipelinePath
  obtain ⟨string, written, spelled⟩ | ⟨half, failed⟩ := segment_cases id
  · exact iff_of_true ⟨_, by rw [spelled]; rfl⟩ string
  · refine iff_of_false ?_ (by simp [half])
    rintro ⟨path, built⟩
    rw [failed] at built
    cases built

/-- In every conversation and for every operation, a client is handed exactly the raw requests that
`rawRequestsIn` lists: for a document with a type one to its path, for the question whether a
pipeline exists one to the path of the pipeline. Both paths are there exactly if the names in them
are strings. They are cut at their slashes into exactly their segments, which hold nothing but
unreserved characters and escaped octets and from which the names read back, so that no two
documents and no two pipelines share a path. The path of a pipeline is the one that is used over
HTTP to store it. -/
theorem raw_paths_are_uniquely_decodable [Seconds τ] (session : Session α τ)
    (operation : Operation τ) (c : Conversation α τ) :
    (∃ fresh, ((operation.run session).run.run c).2.turns = c.turns ++ fresh ∧
        rawCalls fresh = session.rawRequestsIn c operation) ∧
      (∀ index type id : Text,
        ((∃ path, Rest.typedPath (.str index) (.str type) (.str id) = .ok path) ↔
          index.isString = true ∧ type.isString = true ∧ id.isString = true) ∧
        ∀ path, Rest.typedPath (.str index) (.str type) (.str id) = .ok path →
          Rest.SplitsForDocument path index type id ∧
            ∀ index' type' id', Rest.typedPath (.str index') (.str type') (.str id') = .ok path →
              index' = index ∧ type' = type ∧ id' = id) ∧
      ∀ id : Text,
        ((∃ path, Rest.pipelinePath (.str id) = .ok path) ↔ id.isString = true) ∧
        ∀ path, Rest.pipelinePath (.str id) = .ok path →
          Rest.SplitsForPipeline path id ∧
            (∀ id', Rest.pipelinePath (.str id') = .ok path → id' = id) ∧
              ∀ body, ∃ plan, Rest.plan (.putPipeline (.str id) body) = .ok plan ∧
                plan.path = .str path := by
  refine ⟨RawSince.run session operation c, fun index type id => ?_, fun id => ?_⟩
  · refine ⟨Rest.exists_typedPath_iff index type id, fun path built => ?_⟩
    have splits := Rest.splitsForDocument_of_typedPath built
    exact ⟨splits, fun index' type' id' again =>
      (Rest.splitsForDocument_of_typedPath again).unique splits⟩
  · refine ⟨Rest.exists_pipelinePath_iff id, fun path built => ?_⟩
    have splits := Rest.splitsForPipeline_of_pipelinePath built
    refine ⟨splits, fun id' again => (Rest.splitsForPipeline_of_pipelinePath again).unique splits,
      fun body => ?_⟩
    simp only [Rest.plan, built]
    exact ⟨_, rfl, rfl⟩

/-- What an engine can do that wants documents with a type. -/
def wantingType : Capabilities where
  ingestSupported := true
  mappingStyle := .legacy
  documentTypeRequired := true

/-- A conversation with such an engine. -/
def expectingType : Conversation Client.Answer Float where
  pending := [⟨.response (.int 201) (.obj []), 0⟩]
  now := 0
  memory := { capabilities := some wantingType }

/-- A document in whose names nearly everything has to be escaped. -/
def awkwardlyNamed : Document where
  id := "50% ü?"
  index := "a/b"
  source := []

/-- It is written by one raw request, from whose path its names read back. -/
theorem awkward_names_read_back :
    let path := "/a%2Fb/doc/50%25%20%C3%BC%3F"
    (∃ fresh, ((throughClient.index awkwardlyNamed).run.run expectingType).2.turns = [] ++ fresh ∧
        rawCalls fresh = [typedWrite path awkwardlyNamed]) ∧
      Rest.SplitsForDocument path "a/b" "doc" "50% ü?" := by
  intro path
  obtain ⟨handed, documents, -⟩ := raw_paths_are_uniquely_decodable throughClient
    (.index awkwardlyNamed) expectingType
  have built : Rest.typedPath (.str "a/b") (.str "doc") (.str "50% ü?") = .ok path := rfl
  exact ⟨handed, ((documents "a/b" "doc" "50% ü?").2 path built).1⟩

end EngineGateway
