import EngineGateway.Proofs.Client.Rendering
import EngineGateway.Proofs.Rest.Reaching
import EngineGateway.Proofs.Session.Asking
import EngineGateway.Proofs.Session.Searching
import EngineGateway.Session.Documents

/-!
# What is delivered of a document

A document is written in one of four ways: by a request with or without a type in its path, and by a
call of one of the two client libraries or a raw request through it. What a client is handed is read
back here as a write (`Write`), from the arguments of a call or from the method, path, parameters
and body of a request. Every way delivers one write, of the index, the id and the source of the
document. An empty name of a pipeline means none, and is none in every request; but the calls of the
client libraries hand it on.
-/

namespace EngineGateway

open Session Talk

variable {α τ : Type}

/-- A write as an engine is to carry it out. -/
structure Write where
  index : Text
  id : Text
  source : Fields
  pipeline : Option Text

/-- The write that a document asks for. -/
def Document.meant (document : Document) : Write :=
  ⟨document.index, document.id, document.source, document.namedPipeline⟩

/-- The write with the pipeline that a document names, be the name empty or not. -/
def Document.asNamed (document : Document) : Write :=
  ⟨document.index, document.id, document.source, document.pipeline⟩

/-- The two differ in an empty name alone. -/
theorem Document.asNamed_eq_meant_iff (document : Document) :
    document.asNamed = document.meant ↔ document.pipeline ≠ some ⟨[]⟩ := by
  obtain ⟨id, index, source, pipeline⟩ := document
  cases pipeline with
  | none => simp [asNamed, meant, namedPipeline]
  | some name =>
    obtain ⟨points⟩ := name
    cases points <;> simp [asNamed, meant, namedPipeline, Text.isEmpty, Option.filter]

namespace Write

/-- The pipeline that a value stands for; `null` stands for none. -/
def pipelineOf? : Json → Option (Option Text)
  | .null => some none
  | .str name => some (some name)
  | _ => none

/-- The pipeline among the parameters of a request. -/
def pipelineAmong? : Json → Option (Option Text)
  | .null => some none
  | .obj parameters => pipelineOf? (Fields.getD parameters "pipeline" .null)
  | _ => none

/-- The write that a request asks for: its method is `PUT`, the first and the last of the three
names in its path are the index and the id, and its body is the source. -/
def ofRequest? (method path body parameters : Json) : Option Write :=
  match method, path, body with
  | .str method, .str path, .obj source =>
    match path.chars?.bind (Rest.namesBelow? ['/']) with
    | some [index, _, id] =>
      if method = "PUT" then (pipelineAmong? parameters).map (⟨index, id, source, ·⟩) else none
    | _ => none
  | _, _, _ => none

/-- The write that the arguments of a library's call ask for; the library has its own name for the
source. -/
def ofArguments? (sourceKey : Text) (arguments : Fields) : Option Write :=
  match arguments.get? "index", arguments.get? "id", arguments.get? sourceKey with
  | some (.str index), some (.str id), some (.obj source) =>
    (pipelineOf? (arguments.getD "pipeline" .null)).map (⟨index, id, source, ·⟩)
  | _, _, _ => none

/-- The write that a library is asked for, by a call of its own or by a raw request. -/
def ofCall? (rawCall : String) (sourceKey : Text) : Request → Option Write
  | .call name positional arguments =>
    if name = "index" then ofArguments? sourceKey arguments
    else if name = rawCall then
      match positional with
      | [method, path] =>
        ofRequest? method path (arguments.getD "body" .null) (arguments.getD "params" .null)
      | _ => none
    else none
  | .http .. => none

end Write

/-- The write that the HTTP client is handed for a call, if it is handed one. -/
def Rest.written? (call : Call) : Option Write :=
  (plan call).toOption.bind fun plan =>
    Write.ofRequest? plan.method plan.path plan.body plan.parameters

/-- The write that the Elasticsearch library is handed for a call. -/
def Client.Elasticsearch.written? (call : Call) : Option Write :=
  (encode call).toOption.bind (Write.ofCall? "perform_request" "document")

/-- The write that the OpenSearch library is handed for a call. -/
def Client.Opensearch.written? (call : Call) : Option Write :=
  (encode call).toOption.bind (Write.ofCall? "transport.perform_request" "body")

/-- The backends, each with the writes that its client is handed for a call, and with whether the
client is a library that has a call of its own for a write. -/
inductive Delivers : {α : Type} → Backend α → (Call → Option Write) → Bool → Prop where
  | http (engine : Rest.Address) : Delivers (Rest.backend engine) Rest.written? false
  | elasticsearch (known : List Text) :
    Delivers (Client.Elasticsearch.backend known) Client.Elasticsearch.written? true
  | opensearch (known : List Text) :
    Delivers (Client.Opensearch.backend known) Client.Opensearch.written? true

/-- The writes that a client was handed in the course of some turns. -/
def writesIn (written? : Call → Option Write) (turns : List Turn) : List Write :=
  turns.filterMap fun turn => written? turn.call

/-! ### Names that can stand in a path -/

/-- A text that is a string is the text of one. -/
theorem Text.exists_ofString {text : Text} (string : text.isString = true) :
    ∃ s : String, text = .ofString s := by
  obtain ⟨cs, read⟩ := Option.isSome_iff_exists.1 string
  exact ⟨String.ofList cs, eq_ofString_of_string? (Option.map_eq_some_iff.2 ⟨cs, read, rfl⟩)⟩

/-- A string is one. -/
theorem Text.isString_ofString (s : String) : (Text.ofString s).isString = true := by
  simp [isString, ofString]

namespace Rest

/-- A text makes a segment if it is a string. -/
theorem segmentWith_cases (safe : List Char) (text : Text) :
    (text.isString = true ∧ ∃ written, segmentWith safe text = .ok written) ∨
      (text.isString = false ∧ segmentWith safe text = .error .unencodable) := by
  cases string : text.isString with
  | true =>
    obtain ⟨s, rfl⟩ := Text.exists_ofString string
    exact Or.inl ⟨rfl, segmentWith_ofString safe s⟩
  | false =>
    refine Or.inr ⟨rfl, ?_⟩
    cases encoded : Text.Percent.encode? safe text with
    | none => simp only [segmentWith, encoded]
    | some written =>
      obtain ⟨s, rfl, -⟩ := Text.Percent.encode?_eq_some encoded
      exact absurd (Text.isString_ofString s) (by simp [string])

/-- So does a name that is a text. -/
theorem segment_cases (text : Text) :
    (text.isString = true ∧ ∃ written, segment (.str text) = .ok written) ∨
      (text.isString = false ∧ segment (.str text) = .error .unencodable) :=
  segmentWith_cases [] text

/-- And the name of an index. -/
theorem indexSegment_cases (text : Text) :
    (text.isString = true ∧ ∃ written, indexSegment (.str text) = .ok written) ∨
      (text.isString = false ∧ indexSegment (.str text) = .error .unencodable) :=
  segmentWith_cases ['*', ','] text

/-- A document has a path with a type if its index, the type and its id are strings. -/
theorem typedPath_cases (index type id : Text) :
    ((index.isString && type.isString && id.isString) = true ∧
        ∃ path, typedPath (.str index) (.str type) (.str id) = .ok path) ∨
      ((index.isString && type.isString && id.isString) = false ∧
        typedPath (.str index) (.str type) (.str id) = .error .unencodable) := by
  unfold typedPath
  obtain ⟨first, i, spelled⟩ | ⟨first, failed⟩ := segment_cases index
  · obtain ⟨second, t, typed⟩ | ⟨second, failed⟩ := segment_cases type
    · obtain ⟨third, d, named⟩ | ⟨third, failed⟩ := segment_cases id
      · exact Or.inl ⟨by simp [first, second, third], _, by rw [spelled, typed, named]; rfl⟩
      · exact Or.inr ⟨by simp [third], by rw [spelled, typed, failed]; rfl⟩
    · exact Or.inr ⟨by simp [second], by rw [spelled, failed]; rfl⟩
  · exact Or.inr ⟨by simp [first], by rw [failed]; rfl⟩

/-- A document has a path without a type if its index and its id are strings. -/
theorem plan_writeDocument_cases (index id : Text) (source : Json) (pipeline : Name) :
    ((index.isString && id.isString) = true ∧ ∃ path : String,
        plan (.writeDocument (.str index) (.str id) source pipeline) =
          .ok ⟨.str "PUT", .str path, source, parameterIf pipeline.truthy "pipeline" pipeline⟩) ∨
      ((index.isString && id.isString) = false ∧
        plan (.writeDocument (.str index) (.str id) source pipeline) = .error .unencodable) := by
  simp only [plan]
  obtain ⟨first, i, spelled⟩ | ⟨first, failed⟩ := indexSegment_cases index
  · obtain ⟨second, d, named⟩ | ⟨second, failed⟩ := segment_cases id
    · exact Or.inl ⟨by simp [first, second], "/" ++ i ++ "/_doc/" ++ d, by
        rw [spelled, named]
        rfl⟩
    · exact Or.inr ⟨by simp [second], by rw [spelled, failed]; rfl⟩
  · exact Or.inr ⟨by simp [first], by rw [failed]; rfl⟩

end Rest

/-! ### What each call delivers -/

/-- A request to a path that is made of three names asks for the write of the outer two. -/
theorem Write.ofRequest?_of_madeOf {path : String} {index type id : Text}
    (made : Rest.MadeOf path [index, type, id]) (source : Fields) {parameters : Json}
    {pipeline : Option Text} (given : pipelineAmong? parameters = some pipeline) :
    ofRequest? (.str "PUT") (.str path) (.obj source) parameters =
      some ⟨index, id, source, pipeline⟩ := by
  have spelled : (Text.ofString path).chars?.bind (Rest.namesBelow? ['/']) =
      some [index, type, id] := by
    rw [Text.ofString, Text.chars?_ofChars, Option.bind_some]
    exact made.namesBelow? (List.cons_ne_nil _ _)
  simp only [ofRequest?, spelled, given, if_true, Option.map_some]

/-- A raw write tells its pipeline, if it has one. -/
theorem Write.pipelineAmong?_of_named (pipeline : Option Text) :
    pipelineAmong? (.ofFields? (pipeline.map fun name => [("pipeline", .str name)])) =
      some pipeline := by
  cases pipeline <;> rfl

/-- So does a write over HTTP, and an empty name is not told. -/
theorem Write.pipelineAmong?_of_truthy (document : Document) :
    pipelineAmong? (Rest.parameterIf (Json.truthy (.ofText? document.pipeline)) "pipeline"
      (.ofText? document.pipeline)) = some document.namedPipeline := by
  obtain ⟨id, index, source, pipeline⟩ := document
  cases pipeline with
  | none => rfl
  | some name =>
    cases empty : name.isEmpty with
    | true => simp [Json.ofText?, Json.truthy, empty, Rest.parameterIf, pipelineAmong?,
        Document.namedPipeline, Option.filter]
    | false =>
      simp only [Json.ofText?, Option.map_some, Option.getD_some, Json.truthy, empty,
        Rest.parameterIf, Bool.not_false, if_true, Document.namedPipeline, Option.filter]
      rfl

section

variable {backend : Backend α} {written? : Call → Option Write} {byLibrary : Bool}

/-- Finding out who the engine is writes nothing. -/
theorem Delivers.written?_info (delivers : Delivers backend written? byLibrary) :
    written? .info = none := by
  cases delivers <;> rfl

/-- The raw request for a document delivers the write that the document asks for. -/
theorem Delivers.written?_typedWrite (delivers : Delivers backend written? byLibrary)
    {document : Document} {type : Text} {path : String}
    (built : Rest.typedPath (.str document.index) (.str type) (.str document.id) = .ok path) :
    written? (typedWrite path document) = some document.meant := by
  have made := Rest.madeOf_of_typedPath built
  have given := Write.pipelineAmong?_of_named document.namedPipeline
  have read := Write.ofRequest?_of_madeOf made document.source given
  cases delivers <;> exact read

/-- A library's own call delivers the write with the pipeline that the document names. -/
theorem Delivers.written?_plainWrite_of_library (delivers : Delivers backend written? true)
    (document : Document) : written? (plainWrite document) = some document.asNamed := by
  obtain ⟨id, index, source, pipeline⟩ := document
  cases delivers <;> cases pipeline <;> rfl

/-- The request without a type delivers the write that the document asks for, if it has a path. -/
theorem Delivers.written?_plainWrite_of_http (delivers : Delivers backend written? false)
    (document : Document) :
    written? (plainWrite document) =
      if document.index.isString && document.id.isString then some document.meant else none := by
  cases delivers with
  | http engine =>
    unfold Rest.written? plainWrite
    obtain ⟨strings, path, planned⟩ | ⟨halves, failed⟩ := Rest.plan_writeDocument_cases
      document.index document.id (.obj document.source) (.ofText? document.pipeline)
    · obtain ⟨_, same, made⟩ := Rest.Addresses.madeOf (.writeDocument _ _ _ _) planned
      obtain rfl := Text.ofString_inj.1 (Json.str.inj same)
      rw [if_pos strings, planned]
      exact Write.ofRequest?_of_madeOf made document.source
        (Write.pipelineAmong?_of_truthy document)
    · rw [halves, failed]
      rfl

end

/-! ### What writing a document delivers -/

/-- Since some turns a client was handed exactly some writes. -/
def Handed (written? : Call → Option Write) (turns : List Turn) (writes : List Write)
    (c : Conversation α τ) : Prop :=
  ∃ fresh, c.turns = turns ++ fresh ∧ writesIn written? fresh = writes

section

variable [Seconds τ] {session : Session α τ} {written? : Call → Option Write} {byLibrary : Bool}
  {turns : List Turn} {writes : List Write}

omit [Seconds τ] in
/-- What is handed over is a matter of what was asked. -/
theorem Handed.historic : Historic (Handed written? turns writes : Conversation α τ → Prop) := by
  rintro c d same - - ⟨fresh, later, handed⟩
  exact ⟨fresh, same ▸ later, handed⟩

/-- A call hands over the write that it delivers, whatever comes of it. -/
theorem Handed.ask (backend : Backend α) (call : Call) :
    Leads (Handed written? turns writes) (Talk.ask backend call : Talk α τ call.Reply)
      fun _ => Handed written? turns (writes ++ (written? call).toList) := by
  rintro c ⟨fresh, later, rfl⟩
  obtain ⟨pending, now, asked⟩ := after_ask backend call c
  rw [asked]
  refine ⟨fresh ++ [⟨call, _⟩], by rw [later, List.append_assoc], ?_⟩
  unfold writesIn
  rw [List.filterMap_append]
  cases delivered : written? call <;> simp [delivered]

/-- Learning what the engine can do hands over nothing. -/
theorem Handed.capabilities (delivers : Delivers session.backend written? byLibrary) :
    Keeps (Handed written? turns writes) session.capabilities := by
  refine Handed.historic.keeps_capabilities fun c handed => ?_
  have asked := Handed.ask session.backend .info c handed
  rwa [delivers.written?_info, Option.toList_none, List.append_nil] at asked

/-- The writes that a client is handed for a document: one, unless a request to a path has to be
made and the names in it are no strings. A library's own call names a pipeline even if the name is
empty. -/
def Session.deliveries (session : Session α τ) (byLibrary : Bool) (able : Capabilities)
    (document : Document) : List Write :=
  if able.documentTypeRequired then
    if document.index.isString && session.legacyDocumentType.isString && document.id.isString then
      [document.meant]
    else []
  else if byLibrary then [document.asNamed]
  else if document.index.isString && document.id.isString then [document.meant]
  else []

/-- A raw request hands over the write that the document asks for, if there is a path for it. -/
theorem Handed.typed (delivers : Delivers session.backend written? byLibrary)
    (document : Document) :
    Leads (Handed written? turns []) (session.writeTyped document) fun _ => Handed written? turns
      (if document.index.isString && session.legacyDocumentType.isString && document.id.isString
        then [document.meant] else []) := by
  unfold writeTyped
  obtain ⟨strings, path, built⟩ | ⟨halves, failed⟩ := Rest.typedPath_cases document.index
    session.legacyDocumentType document.id
  · have asked : Leads (Handed written? turns [])
        (Talk.ask session.backend (typedWrite path document) : Talk α τ RawResponse)
        fun _ => Handed written? turns (written? (typedWrite path document)).toList :=
      Handed.ask session.backend (typedWrite path document)
    rw [delivers.written?_typedWrite built] at asked
    rw [if_pos strings, built]
    change Leads _ (Talk.ask session.backend (typedWrite path document) >>= _) _
    refine asked.followed fun response => ?_
    refine Keeps.ite (fun _ => Keeps.throw _) fun _ => ?_
    split <;> exact Keeps.pure _
  · rw [halves, failed]
    exact fun c handed => handed

/-- A call without a type hands over the write as the document names its pipeline, or, where a
request to a path is made of it, the write that the document asks for. -/
theorem Handed.untyped (delivers : Delivers session.backend written? byLibrary)
    (document : Document) :
    Leads (Handed written? turns [])
      (Talk.ask session.backend (plainWrite document) : Talk α τ Json)
      fun _ => Handed written? turns (if byLibrary then [document.asNamed]
        else if document.index.isString && document.id.isString then [document.meant] else []) := by
  have asked : Leads (Handed written? turns [])
      (Talk.ask session.backend (plainWrite document) : Talk α τ Json)
      fun _ => Handed written? turns (written? (plainWrite document)).toList :=
    Handed.ask session.backend (plainWrite document)
  cases byLibrary with
  | true =>
    rw [delivers.written?_plainWrite_of_library] at asked
    exact asked
  | false =>
    rw [delivers.written?_plainWrite_of_http] at asked
    cases strings : document.index.isString && document.id.isString with
    | true =>
      rw [strings] at asked
      exact asked
    | false =>
      rw [strings] at asked
      exact asked

omit [Seconds τ] in
/-- These are the one write that the document asks for, unless a library's own call names an empty
pipeline or a name in the path of a request is no string. -/
theorem Session.deliveries_eq_meant_iff (session : Session α τ) (byLibrary : Bool)
    (able : Capabilities) (document : Document) :
    session.deliveries byLibrary able document = [document.meant] ↔
      if able.documentTypeRequired then
        (document.index.isString && session.legacyDocumentType.isString &&
          document.id.isString) = true
      else if byLibrary then document.pipeline ≠ some ⟨[]⟩
      else (document.index.isString && document.id.isString) = true := by
  rw [← document.asNamed_eq_meant_iff, deliveries]
  split
  · split <;> simp_all
  · split
    · simp
    · split <;> simp_all

/-- Writing a document hands over what `deliveries` says, in one call at most. -/
theorem Handed.write (delivers : Delivers session.backend written? byLibrary) (able : Capabilities)
    (document : Document) :
    Leads (Handed written? turns []) (session.write able document)
      fun _ => Handed written? turns (session.deliveries byLibrary able document) := by
  unfold Session.deliveries
  by_cases typed : able.documentTypeRequired = true
  · have same : session.write able document = session.writeTyped document := if_pos typed
    rw [same, if_pos typed]
    exact Handed.typed delivers document
  · have same : session.write able document = Talk.ask session.backend (plainWrite document) :=
      if_neg typed
    rw [same, if_neg typed]
    exact Handed.untyped delivers document

end

/-- For every document that is not refused, on every backend and for every version that is found
out, writing it hands the client exactly the writes that `deliveries` says. Where a library has a
call of its own for it, that is the write with the pipeline that the document names; it is the write
that the document asks for exactly if the name is not empty. Every other write is the one that is
asked for, and there is one if the names in its path are strings. -/
theorem document_is_delivered_as_deliveries_say [Seconds τ] {session : Session α τ}
    {written? : Call → Option Write} {byLibrary : Bool}
    (delivers : Delivers session.backend written? byLibrary) {document : Document}
    {c d : Conversation α τ} {able : Capabilities}
    (known : session.capabilities.run.run c = (.ok able, d))
    (admitted : document.namedPipeline.isSome = true → able.ingestSupported = true) :
    (∃ fresh, ((session.index document).run.run c).2.turns = c.turns ++ fresh ∧
        writesIn written? fresh = session.deliveries byLibrary able document) ∧
      (session.deliveries byLibrary able document = [document.meant] ↔
        if able.documentTypeRequired then
          (document.index.isString && session.legacyDocumentType.isString &&
            document.id.isString) = true
        else if byLibrary then document.pipeline ≠ some ⟨[]⟩
        else (document.index.isString && document.id.isString) = true) := by
  refine ⟨?_, session.deliveries_eq_meant_iff byLibrary able document⟩
  have learned : Handed written? c.turns [] d := by
    have kept : Handed written? c.turns [] (session.capabilities.run.run c).2 :=
      Handed.capabilities delivers c ⟨[], by simp, rfl⟩
    rwa [known] at kept
  have refused : ¬(document.namedPipeline.isSome && !able.ingestSupported) = true := by
    cases named : document.namedPipeline.isSome <;> simp_all
  unfold Session.index
  rw [run_bind, known]
  simp only [refused]
  change Handed written? c.turns (session.deliveries byLibrary able document) _
  refine Leads.followed (Handed.write delivers able document) (fun answer => ?_) d learned
  exact (Keeps.say Handed.historic.undisturbed _ _).bind fun _ =>
    (keeps_fieldsOf answer).bind fun _ => Keeps.pure _

/-- A document that names an empty pipeline. -/
def namingNothing : Document where
  id := "1"
  index := "i"
  source := [("x", .int 1)]
  pipeline := some ⟨[]⟩

/-- Through a client library it is written through a pipeline of that name, and not through none. -/
theorem empty_name_is_delivered :
    let able : Capabilities := { ingestSupported := true, mappingStyle := .typeless }
    (∃ fresh, ((throughClient.index namingNothing).run.run (expecting .typeless [])).2.turns =
        [] ++ fresh ∧
        writesIn Client.Elasticsearch.written? fresh =
          throughClient.deliveries true able namingNothing) ∧
      throughClient.deliveries true able namingNothing ≠ [namingNothing.meant] := by
  intro able
  have delivers : Delivers throughClient.backend Client.Elasticsearch.written? true :=
    .elasticsearch _
  have known : throughClient.capabilities.run.run (expecting .typeless []) =
      (.ok able, expecting .typeless []) := rfl
  have admitted : namingNothing.namedPipeline.isSome = true → able.ingestSupported = true := nofun
  obtain ⟨handed, iff⟩ := document_is_delivered_as_deliveries_say delivers known admitted
  exact ⟨handed, fun same => iff.1 same rfl⟩

end EngineGateway
