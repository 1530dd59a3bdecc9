import EngineGateway.Proofs.Client.Rendering
import EngineGateway.Proofs.Rest.Rendering
import EngineGateway.Proofs.Session.Following

/-!
# Interchangeable backends

A course of operations comes to the same through every backend, if the answers that each backend
gets convey the same events. Each of the three runs is compared with the run over the events
themselves, and so they are compared with each other. The run over HTTP has a condition of its own:
there a call may fail before it reaches the engine, because it cannot be written, because its
address is of no use or because the connection was closed. The client libraries carry every call.
-/

namespace EngineGateway

open Session Talk

variable {α β τ : Type}

/-- A course of operations, of which the last one is looked at, whatever the backend. -/
structure Course (τ : Type) where
  pacing : Pacing τ
  legacyDocumentType : Text
  ownsBackend : Bool
  began : τ
  earlier : List (Operation τ)
  last : Operation τ

namespace Course

/-- The session in which a course takes place. -/
def session (course : Course τ) (backend : Backend α) : Session α τ where
  backend := backend
  pacing := course.pacing
  legacyDocumentType := course.legacyDocumentType
  ownsBackend := course.ownsBackend

/-- What the last operation of a course comes to, and the conversation behind it. -/
def run [Seconds τ] (course : Course τ) (backend : Backend α) (script : List (Timed α τ)) :
    Except Failure course.last.Result × Conversation α τ :=
  (course.last.run (course.session backend)).run.run
    ((course.session backend).after course.earlier (.start script course.began))

/-- A course that every backend can carry out. -/
def Common (course : Course τ) : Prop :=
  course.last.Common ∧ ∀ operation ∈ course.earlier, operation.Common

end Course

/-- Two ends of a course that a caller cannot tell apart: outcomes alike, and the same clock,
sleeps, log and memory. -/
structure Indistinct {γ : Type} (one : Except Failure γ × Conversation α τ)
    (other : Except Failure γ × Conversation β τ) : Prop where
  outcome : Alike Eq one.1 other.1
  now : one.2.now = other.2.now
  sleeps : one.2.sleeps = other.2.sleeps
  log : one.2.log = other.2.log
  memory : one.2.memory = other.2.memory

/-- Two ends that cannot be told apart from a third one cannot be told apart. -/
theorem Indistinct.of_common {γ δ : Type} {one : Except Failure γ × Conversation α τ}
    {other : Except Failure γ × Conversation β τ} {third : Except Failure γ × Conversation δ τ}
    (first : Indistinct one third) (second : Indistinct other third) : Indistinct one other where
  outcome := first.outcome.trans second.outcome.symm
  now := first.now.trans second.now.symm
  sleeps := first.sleeps.trans second.sleeps.symm
  log := first.log.trans second.log.symm
  memory := first.memory.trans second.memory.symm

/-- A course over a backend ends like the same course over the events. -/
theorem Course.indistinct_plain [Seconds τ] {course : Course τ} (common : course.Common)
    {rendering : Rendering α} {events : List (Timed Event τ)} {script : List (Timed α τ)}
    (faithful : rendering.Faithful events script (course.run rendering.backend script).2.turns) :
    Indistinct (course.run rendering.backend script) (course.run plain events) := by
  have own : (course.session rendering.backend).backend = rendering.backend := rfl
  have last : Follows rendering events script Eq
      (course.last.run (course.session rendering.backend))
      (course.last.run (course.session plain)) := Operation.follows_run own common.1
  have begins := last.grows.begins
    ((course.session rendering.backend).after course.earlier (.start script course.began))
  have middle := Session.abreast_after own common.2 (.start faithful.complete course.began)
    (faithful.of_prefix begins)
  obtain ⟨alike, behind⟩ := last.abreast _ _ middle faithful
  exact ⟨alike, behind.now, behind.sleeps, behind.log, behind.memory⟩

/-- The backends are interchangeable, if the kinds of errors that are looked for in the libraries
are known. For every course of operations that all of them can carry out and all events, if the
answers that the two client libraries get convey the events, then the course ends alike through both
of them; and through HTTP it ends so as well, if the answers there convey the events and the calls
could be carried. -/
theorem backends_are_interchangeable [Seconds τ] {course : Course τ} (common : course.Common)
    {known alsoKnown : List Text}
    (included : ∀ kind ∈ Client.Elasticsearch.errorKinds, kind ∈ known)
    (alsoIncluded : ∀ kind ∈ Client.Opensearch.errorKinds, kind ∈ alsoKnown)
    {events : List (Timed Event τ)} {elastic opened : List (Timed Client.Answer τ)}
    (elasticTold : (Client.Elasticsearch.rendering known included).Told events elastic
      (course.run (Client.Elasticsearch.backend known) elastic).2.turns)
    (openedTold : (Client.Opensearch.rendering alsoKnown alsoIncluded).Told events opened
      (course.run (Client.Opensearch.backend alsoKnown) opened).2.turns) :
    Indistinct (course.run (Client.Elasticsearch.backend known) elastic)
        (course.run (Client.Opensearch.backend alsoKnown) opened) ∧
      ∀ (engine : Rest.Address) (direct : List (Timed Rest.Answer τ)),
        (Rest.rendering engine).Told events direct
          (course.run (Rest.backend engine) direct).2.turns →
        (∀ turn ∈ (course.run (Rest.backend engine) direct).2.turns, Rest.Carries engine turn) →
        Indistinct (course.run (Rest.backend engine) direct)
            (course.run (Client.Elasticsearch.backend known) elastic) ∧
          Indistinct (course.run (Rest.backend engine) direct)
            (course.run (Client.Opensearch.backend alsoKnown) opened) := by
  have throughElastic := Course.indistinct_plain common ⟨elasticTold, fun _ _ => trivial⟩
  have throughOpened := Course.indistinct_plain common ⟨openedTold, fun _ _ => trivial⟩
  refine ⟨throughElastic.of_common throughOpened, ?_⟩
  intro engine direct told carried
  have throughHttp := Course.indistinct_plain common ⟨told, carried⟩
  exact ⟨throughHttp.of_common throughElastic, throughHttp.of_common throughOpened⟩

/-- The Elasticsearch library with all kinds of errors known. -/
def elasticsearch : Rendering Client.Answer :=
  Client.Elasticsearch.rendering Client.Elasticsearch.errorKinds fun _ member => member

/-- The OpenSearch library with all kinds of errors known. -/
def opensearch : Rendering Client.Answer :=
  Client.Opensearch.rendering Client.Opensearch.errorKinds fun _ member => member

/-- A course in which a session finds out the version of the engine, refreshes an index and deletes
it. -/
def Course.clearing : Course Float where
  pacing := ⟨30, 1, 5⟩
  legacyDocumentType := "_doc"
  ownsBackend := true
  began := 0
  earlier := [.detectVersion, .refresh (.str "i")]
  last := .deleteIndex (.str "i")

/-- What happens in it when the index is gone before it is deleted. -/
def vanishing : List (Timed Event Float) :=
  [⟨.answered 200 [("version", .obj [("number", .str "8.11.0")])], 1⟩, ⟨.answered 200 [], 2⟩,
    ⟨.answered 404 [], 3⟩]

/-- How that comes over HTTP. -/
def vanishingOverHttp : List (Timed Rest.Answer Float) :=
  [⟨.answered (.int 200) (Text.Octets.encode eightText), 1⟩, ⟨Rest.bodiless 200, 2⟩,
    ⟨Rest.bodiless 404, 3⟩]

/-- How it comes through the Elasticsearch library. -/
def vanishingThroughElasticsearch : List (Timed Client.Answer Float) :=
  [⟨.response (.int 200) namesEight, 1⟩, ⟨.response (.int 200) (.obj []), 2⟩,
    ⟨.raised Client.Elasticsearch.missing, 3⟩]

/-- How it comes through the OpenSearch library. -/
def vanishingThroughOpensearch : List (Timed Client.Answer Float) :=
  [⟨.value namesEight, 1⟩, ⟨.value (.obj []), 2⟩, ⟨.raised Client.Opensearch.missing, 3⟩]

/-- The calls of the course then, and the replies to them. -/
def vanishingTurns : List Turn :=
  [⟨.info, .ok namesEight⟩, ⟨.refresh (.str "i"), .ok (.obj [])⟩,
    ⟨.deleteIndex (.str "i"), .error (.reported (.int 404) (.obj []))⟩]

/-- Over HTTP these are the turns. What the engine says of itself is read before the rest is run. -/
theorem turns_vanishingOverHttp :
    (Course.clearing.run (Rest.backend Rest.simplest) vanishingOverHttp).2.turns =
      vanishingTurns := by
  let session := Course.clearing.session (Rest.backend Rest.simplest)
  have own : session.backend = Rest.backend Rest.simplest := rfl
  have detected : ∃ after,
      session.detectVersion.run.run (.start vanishingOverHttp 0) =
        (.ok { major := 8, minor := 11 }, after) ∧
      after.pending = vanishingOverHttp.tail ∧ after.closings = [] ∧
      after.turns = [⟨.info, .ok namesEight⟩] := by
    rw [run_detectVersion_of_unknown session rfl, own, run_ask_of_answer rfl rfl rfl,
      Rest.decode_eightText]
    exact ⟨_, rfl, rfl, rfl, rfl⟩
  obtain ⟨⟨pending, now, sent, sleeps, log, closings, memory, turns⟩, ran, rfl, rfl, rfl⟩ :=
    detected
  change ((session.deleteIndex (.str "i")).run.run ((session.refresh (.str "i")).run.run
    (session.detectVersion.run.run (.start vanishingOverHttp 0)).2).2).2.turns = _
  rw [ran]
  rfl

/-- With a version found out, an index refreshed and one that is gone deleted, a course ends alike
through all three. -/
theorem interchangeable_clearing :
    Rest.base "http://engine" = .ok Rest.simplest ∧
      (Course.clearing.run elasticsearch.backend vanishingThroughElasticsearch).1 =
        .ok { resource := "i", acknowledged := false } ∧
      (Course.clearing.run elasticsearch.backend vanishingThroughElasticsearch).2.memory.version =
        some { major := 8, minor := 11 } ∧
      Indistinct (Course.clearing.run elasticsearch.backend vanishingThroughElasticsearch)
        (Course.clearing.run opensearch.backend vanishingThroughOpensearch) ∧
      Indistinct (Course.clearing.run (Rest.backend Rest.simplest) vanishingOverHttp)
        (Course.clearing.run elasticsearch.backend vanishingThroughElasticsearch) ∧
      Indistinct (Course.clearing.run (Rest.backend Rest.simplest) vanishingOverHttp)
        (Course.clearing.run opensearch.backend vanishingThroughOpensearch) := by
  have common : Course.clearing.Common :=
    ⟨trivial, List.forall_mem_cons.2 ⟨trivial, List.forall_mem_singleton.2 trivial⟩⟩
  have throughElastic :
      (Course.clearing.run elasticsearch.backend vanishingThroughElasticsearch).2.turns =
        vanishingTurns := rfl
  have throughOpened :
      (Course.clearing.run opensearch.backend vanishingThroughOpensearch).2.turns =
        vanishingTurns := rfl
  have elastic : elasticsearch.Told vanishing vanishingThroughElasticsearch vanishingTurns := by
    refine .cons rfl ?_ (.cons rfl ?_ (.cons rfl ?_ .nil))
    · rintro _ ⟨⟩
      exact .accepted nofun rfl
    · rintro _ ⟨⟩
      exact .accepted nofun rfl
    · rintro _ ⟨⟩
      exact .refused rfl nofun Client.Elasticsearch.refused_missing
  have opened : opensearch.Told vanishing vanishingThroughOpensearch vanishingTurns := by
    refine .cons rfl ?_ (.cons rfl ?_ (.cons rfl ?_ .nil))
    · rintro _ ⟨⟩
      exact .accepted nofun rfl
    · rintro _ ⟨⟩
      exact .accepted nofun rfl
    · rintro _ ⟨⟩
      exact .refused rfl nofun Client.Opensearch.refused_missing
  have direct : (Rest.rendering Rest.simplest).Told vanishing vanishingOverHttp vanishingTurns :=
    .cons rfl (fun _ _ => .answered Rest.payloadOf_eightText) <|
      .cons rfl (fun _ _ => .answered rfl) <| .cons rfl (fun _ _ => .answered rfl) .nil
  have carried : ∀ turn ∈ vanishingTurns, Rest.Carries Rest.simplest turn :=
    List.forall_mem_cons.2 ⟨⟨⟨_, rfl⟩, rfl, nofun⟩, List.forall_mem_cons.2
      ⟨⟨⟨_, rfl⟩, rfl, nofun⟩, List.forall_mem_singleton.2 ⟨⟨_, rfl⟩, rfl, nofun⟩⟩⟩
  obtain ⟨throughClients, throughHttp⟩ := backends_are_interchangeable common
    (fun _ member => member) (fun _ member => member) (throughElastic ▸ elastic)
    (throughOpened ▸ opened)
  exact ⟨rfl, rfl, rfl, throughClients, throughHttp Rest.simplest vanishingOverHttp
    (turns_vanishingOverHttp ▸ direct) (turns_vanishingOverHttp ▸ carried)⟩

/-- A course at whose end a session asks whether an index exists. -/
def Course.asking (earlier : List (Operation Float)) (name : Text) : Course Float where
  pacing := ⟨30, 1, 5⟩
  legacyDocumentType := "_doc"
  ownsBackend := true
  began := 0
  earlier := earlier
  last := .isExistingIndex (.str name)

/-- What happens when the index exists. -/
def presentIndex : List (Timed Event Float) := [⟨.answered 200 [], 0⟩]

/-- How that comes over HTTP. -/
def presentOverHttp : List (Timed Rest.Answer Float) := [⟨.answered (.int 200) [], 0⟩]

/-- How it comes through the client libraries. -/
def presentThroughClient : List (Timed Client.Answer Float) := [⟨.value (.bool true), 0⟩]

/-- Through a client library the question for an index hears it. -/
theorem conveys_present {accepted : Int → Fields → Client.Answer}
    {refused : Int → Fields → Client.Error → Prop} {kinds : List Text} {turns : List Turn}
    {index : Name} {reply : Except Failure Bool} (asked : turns = [⟨.indexExists index, reply⟩]) :
    ∀ turn ∈ turns.head?, Client.Conveys accepted refused kinds turn.call (.answered 200 [])
      (.value (.bool true)) := by
  subst asked
  rintro _ ⟨⟩
  exact .found rfl rfl

/-- A course that all backends can carry out ends otherwise over HTTP than through both libraries,
though the answers convey the same events to all three. -/
def Course.EndsApart (course : Course Float) (engine : Rest.Address) : Prop :=
  course.Common ∧ ∃ events direct through,
    (Rest.rendering engine).Told events direct (course.run (Rest.backend engine) direct).2.turns ∧
    elasticsearch.Told events through (course.run elasticsearch.backend through).2.turns ∧
    opensearch.Told events through (course.run opensearch.backend through).2.turns ∧
    ¬Alike Eq (course.run (Rest.backend engine) direct).1
      (course.run elasticsearch.backend through).1 ∧
    ¬Alike Eq (course.run (Rest.backend engine) direct).1 (course.run opensearch.backend through).1

/-- That is so if the question whether an index exists reaches the engine through the libraries and
fails over HTTP. -/
theorem Course.endsApart_asking {engine : Rest.Address} {earlier : List (Operation Float)}
    {name : Text} (common : ∀ operation ∈ earlier, operation.Common) {failure : Failure}
    (fails : ((asking earlier name).run (Rest.backend engine) presentOverHttp).1 = .error failure)
    (elastic : ((asking earlier name).run elasticsearch.backend presentThroughClient).2.turns =
      [⟨.indexExists (.str name), .ok true⟩])
    (elasticGives : ((asking earlier name).run elasticsearch.backend presentThroughClient).1 =
      .ok true)
    (opened : ((asking earlier name).run opensearch.backend presentThroughClient).2.turns =
      [⟨.indexExists (.str name), .ok true⟩])
    (openedGives : ((asking earlier name).run opensearch.backend presentThroughClient).1 =
      .ok true) : (asking earlier name).EndsApart engine := by
  refine ⟨⟨trivial, common⟩, presentIndex, presentOverHttp, presentThroughClient,
    ?_, ?_, ?_, ?_, ?_⟩
  · exact .cons rfl (fun _ _ => .answered rfl) .nil
  · exact .cons rfl (conveys_present elastic) .nil
  · exact .cons rfl (conveys_present opened) .nil
  · rw [fails, elasticGives]
    exact fun alike => nomatch alike
  · rw [fails, openedGives]
    exact fun alike => nomatch alike

/-- Over HTTP courses end otherwise where nothing is carried: after the connection was closed, where
a name cannot be written, and where the engine's address does not say by which rules it is to be
read. -/
theorem courses_end_apart_where_nothing_is_carried :
    ∃ engine elsewhere, Rest.base "http://engine" = .ok engine ∧
      Rest.base "//engine" = .ok elsewhere ∧
      (Course.asking [.close] "i").EndsApart engine ∧
      (Course.asking [] ⟨[.half 0xD800]⟩).EndsApart engine ∧
      (Course.asking [] "i").EndsApart elsewhere := by
  let place (scheme : List Char) : Rest.Address :=
    { scheme, user := [], host := "engine".toList, port := none, path := [], query := none
      fragment := none }
  refine ⟨place "http".toList, place [], rfl, rfl, ?_, ?_, ?_⟩
  · refine Course.endsApart_asking (fun operation member => ?_) rfl rfl rfl rfl rfl
    obtain rfl := List.mem_singleton.1 member
    trivial
  · exact Course.endsApart_asking (by simp) rfl rfl rfl rfl rfl
  · exact Course.endsApart_asking (by simp) rfl rfl rfl rfl rfl

end EngineGateway
