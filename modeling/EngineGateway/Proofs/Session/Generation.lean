import EngineGateway.Proofs.Rest.Segments
import EngineGateway.Proofs.Session.Knowledge

/-!
# Calls suit the generation of the engine

Once the version of the engine is known, every call has the form that engines of this version take:
searches count hits and ask for fields in their way, documents are written with a type or without,
and pipelines are left alone where there are none. A version of the fork counts as the version that
it forked from. What an operation does follows from four capabilities, and each of these is one
comparison with a threshold.
-/

namespace EngineGateway

open Session Talk Capabilities

variable {α τ : Type}

/-- The version as which a version is compared: for the fork, one that is beyond all thresholds. -/
def Version.counted (v : Version) : Version :=
  if v.distribution = forkDistribution then trackingSince else v

/-- Whether a version counts as at least another. -/
def Version.reaches (v least : Version) : Except Version.Fault Bool := v.counted.isAtLeast least

/-- A search as engines of a version take it. It asks for all hits to be counted exactly if they
would not be otherwise, and for fields or for parts of the documents, whichever they have. -/
structure SearchSuits (v : Version) (body : Fields) : Prop where
  tracking : ∃ tracks, v.reaches trackingSince = .ok tracks ∧
    body.get? "track_total_hits" = if tracks then some (.bool true) else none
  fields : ∃ typeless, v.reaches typelessSince = .ok typeless ∧
    body.has "_source" = typeless ∧ body.has "fields" = !typeless

/-- A document written without a type in its address, as engines of a version take it. -/
structure PlainWriteSuits (v : Version) (pipeline : Name) : Prop where
  untyped : v.reaches untypedDocumentsSince = .ok true
  ingest : pipeline.truthy = true → v.reaches ingestSince = .ok true

/-- A document written with a type in its address, as engines of a version take it: the address is
made of the index, the type and the id. -/
structure TypedWriteSuits (v : Version) (type : Text) (path parameters : Json) : Prop where
  typed : v.reaches untypedDocumentsSince = .ok false
  address : ∃ (written : String) (index id : Text), path = .str written ∧
    Rest.namesBelow? ['/'] written.toList = some [index, type, id]
  ingest : parameters.isNull = false → v.reaches ingestSince = .ok true

/-- A call has the form that engines of a version take. -/
def Suits (session : Session α τ) (v : Version) : Call → Prop
  | .info => False
  | .createIndex .. | .indexExists _ | .deleteIndex _ | .health .. | .refresh _ => True
  | .writeDocument _ _ _ pipeline => PlainWriteSuits v pipeline
  | .search _ body => ∃ fields, body = .obj fields ∧ SearchSuits v fields
  | .putPipeline .. | .pipelineExists _ => v.reaches ingestSince = .ok true
  | .raw method path _ parameters =>
    method = .str "PUT" ∧ TypedWriteSuits v session.legacyDocumentType path parameters ∨
      method = .str "GET" ∧ v.reaches ingestSince = .ok true

/-- What an engine of a version can do, as comparisons. -/
structure Derived (v : Version) (able : Capabilities) : Prop where
  ingest : v.reaches ingestSince = .ok able.ingestSupported
  typeless : v.reaches typelessSince = .ok (able.mappingStyle == .typeless)
  tracking : v.reaches trackingSince = .ok able.tracksTotalHits
  untyped : v.reaches untypedDocumentsSince = .ok (!able.documentTypeRequired)

/-- Each capability is one comparison with a threshold. -/
theorem derived_of_ofVersion {v : Version} {able : Capabilities}
    (follows : Capabilities.ofVersion v = .ok able) : Derived v able := by
  by_cases fork : v.distribution = forkDistribution
  · obtain rfl := Except.ok.inj ((ofVersion_of_fork fork).symm.trans follows)
    have counted : v.counted = trackingSince := if_pos fork
    constructor <;> rw [Version.reaches, counted] <;> rfl
  · have counted : v.counted = v := if_neg fork
    simp only [ofVersion, if_neg fork, Rest.bind_eq_ok] at follows
    obtain ⟨ingest, first, typeless, second, tracking, third, untyped, fourth, same⟩ := follows
    obtain rfl := Except.ok.inj same
    constructor <;> simp only [Version.reaches, counted]
    · exact first
    · cases typeless <;> exact second
    · exact third
    · rw [fourth, Bool.not_not]

/-- The body of a search follows from the capabilities. -/
theorem SearchSuits.of_derived {v : Version} {able : Capabilities} (derived : Derived v able)
    (filter limit : Json) (fields : List Name) :
    SearchSuits v (Search.body filter limit fields able) := by
  obtain ⟨ingest, style, tracks, typed⟩ := able
  refine ⟨⟨_, derived.tracking, ?_⟩, ⟨_, derived.typeless, ?_⟩⟩
  · cases tracks <;> cases style <;> rfl
  · cases tracks <;> cases style <;> exact ⟨rfl, rfl⟩

/-- A document that names a pipeline is written through it, however it is written. -/
theorem truthy_pipeline (document : Document) :
    (Json.ofText? document.pipeline).truthy = document.namedPipeline.isSome := by
  unfold Document.namedPipeline
  cases document.pipeline with
  | none => rfl
  | some name =>
    cases empty : name.isEmpty <;> simp [Json.ofText?, Json.truthy, Option.filter, empty]

/-- The calls of an operation's own suit every version. -/
theorem Operation.OwnCall.suits {operation : Operation τ} {call : Call}
    (own : operation.OwnCall call) (session : Session α τ) (v : Version) :
    Suits session v call := by
  cases operation <;> simp only [OwnCall] at own
  case createIndex =>
    obtain ⟨body, _, rfl⟩ := own
    trivial
  case indexHealth | waitForHealthyIndex =>
    obtain ⟨hold, rfl⟩ := own
    trivial
  all_goals
    obtain rfl := own
    trivial

/-- The call that writes a document suits the version from which the capabilities are derived. -/
theorem suits_index {session : Session α τ} {v : Version} {able : Capabilities}
    (derived : Derived v able) {document : Document} {call : Call}
    (bound : (Operation.index (τ := τ) document).BoundCall session able call) :
    Suits session v call := by
  obtain ⟨admitted, form⟩ := bound
  have ingest (named : document.namedPipeline.isSome = true) :
      v.reaches ingestSince = .ok true := by rw [derived.ingest, admitted named]
  split at form
  case isTrue typed =>
    obtain ⟨path, built, rfl⟩ := form
    refine .inl ⟨rfl, ?_, ⟨path, document.index, document.id, rfl, ?_⟩, fun given => ingest ?_⟩
    · rw [derived.untyped, typed]
      rfl
    · exact (Rest.madeOf_of_typedPath built).namesBelow? (by simp)
    · cases named : document.namedPipeline with
      | none => simp [named, Json.ofFields?, Json.isNull] at given
      | some name => rfl
  case isFalse untyped =>
    subst form
    refine ⟨?_, fun named => ingest (truthy_pipeline document ▸ named)⟩
    rw [derived.untyped, Bool.eq_false_iff.2 untyped]
    rfl

/-- The calls that depend on what the engine can do suit the version from which that is derived. -/
theorem Operation.BoundCall.suits {session : Session α τ} {v : Version} {able : Capabilities}
    (derived : Derived v able) {operation : Operation τ} {call : Call}
    (bound : operation.BoundCall session able call) : Suits session v call := by
  have ingest (supported : able.ingestSupported = true) : v.reaches ingestSince = .ok true := by
    rw [derived.ingest, supported]
  cases operation <;> simp only [BoundCall] at bound
  case index document => exact suits_index derived bound
  case search query =>
    obtain rfl := bound
    exact ⟨_, rfl, .of_derived derived _ _ _⟩
  case storedFields request =>
    obtain rfl := bound
    exact ⟨_, rfl, .of_derived derived _ _ _⟩
  case putPipeline pipeline =>
    obtain ⟨supported, rfl⟩ := bound
    exact ingest supported
  case isExistingPipeline id =>
    obtain ⟨supported, form⟩ := bound
    split at form
    · obtain rfl := form
      exact ingest supported
    · obtain ⟨path, _, rfl⟩ := form
      exact .inr ⟨rfl, ingest supported⟩

/-- A call that arose when the version was known suits it. -/
theorem Arises.suits {session : Session α τ} {v : Version} {call : Call}
    (arises : Arises session (some v) call) : Suits session v call := by
  cases arises with
  | own operation made => exact made.suits session v
  | bound operation follows made => exact made.suits (derived_of_ofVersion follows)

/-- Every request that was sent closes the connection or makes a call of one of the turns. -/
def Accounted (session : Session α τ) (c : Conversation α τ) : Prop :=
  ∀ request ∈ c.sent, session.backend.closing = some request ∨
    ∃ turn ∈ c.turns, session.backend.encode turn.call = .ok request

section

variable [Seconds τ] (session : Session α τ)

omit [Seconds τ] in
/-- The account is a matter of what was asked and sent. -/
theorem Accounted.historic : Historic (Accounted session) := by
  intro c d turns sent _ accounted request member
  exact turns ▸ accounted request (sent ▸ member)

/-- Asking adds a turn with the request that it sends. -/
theorem Accounted.ask (call : Call) :
    Keeps (Accounted session) (Talk.ask session.backend call) := by
  intro c accounted
  obtain ⟨pending, now, asked⟩ := after_ask session.backend call c
  rw [asked]
  intro request member
  rcases List.mem_append.1 member with earlier | added
  · rcases accounted request earlier with closing | ⟨turn, present, written⟩
    · exact .inl closing
    · exact .inr ⟨turn, List.mem_append_left _ present, written⟩
  · exact .inr ⟨_, List.mem_append_right _ List.mem_cons_self,
      Backend.encode_of_mem_requestsOf added⟩

omit [Seconds τ] in
/-- Closing adds the request that closes the connection, if there is one. -/
theorem Accounted.close : Keeps (Accounted session) (Talk.close session.backend) := by
  intro c accounted request member
  rcases List.mem_append.1 member with earlier | added
  · exact accounted request earlier
  · exact .inl (Option.mem_toList.1 added)

/-- Every course of operations accounts for what it sends. -/
theorem Accounted.after (operations : List (Operation τ)) {c : Conversation α τ}
    (accounted : Accounted session c) : Accounted session (session.after operations c) :=
  Session.after_of_keeps (fun operation => (Accounted.historic session).keeps_run
    (Accounted.ask session) operation fun _ => Accounted.close session) operations accounted

/-- Calls suit the generation of the engine. In every course of operations of every session, over
every backend and with every answers, a call that is made once the version is known has the form
that engines of this version take, and nothing is sent but such calls' requests and the one that
closes the connection. -/
theorem calls_suit_the_version (answers : List (Timed α τ)) (now : τ)
    (operations : List (Operation τ)) :
    let c := session.after operations (.start answers now)
    (∀ before turn after version, c.turns = before ++ turn :: after →
      learned before = some version → Suits session version turn.call) ∧
    ∀ request ∈ c.sent, session.backend.closing = some request ∨
      ∃ turn ∈ c.turns, session.backend.encode turn.call = .ok request := by
  intro c
  constructor
  · intro before turn after version split told
    have knows := (Knows.start session answers now).after operations
    have arises := knows.arose before turn after split
    rw [told] at arises
    exact arises.suits
  · exact Accounted.after session operations (by simp [Accounted, Conversation.start])

end

end EngineGateway
