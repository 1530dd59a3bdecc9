import EngineGateway.Client.Elasticsearch
import EngineGateway.Client.Opensearch
import EngineGateway.Proofs.Search.Reading
import EngineGateway.Session.Searches

/-!
# A search and its answer

A session that hears an answer to a search makes its result of that answer alone. What was said
before is only written down: it changes neither what is found out about the engine nor what the
engine answers.
-/

namespace EngineGateway

open Talk

variable {α τ β γ : Type}

/-- A talk takes no notice of what was said before it. -/
def Talk.IgnoresLog (talk : Talk α τ β) : Prop :=
  ∀ c log, ∃ said, talk.run.run { c with log := log } =
    ((talk.run.run c).1, { (talk.run.run c).2 with log := said })

/-- An outcome that needs no conversation is the outcome in every conversation. -/
theorem Talk.run_outcome (result : Except Failure β) (c : Conversation α τ) :
    ((Talk.outcome result : Talk α τ β).run.run c).1 = result := by
  cases result <;> rfl

/-- If what follows needs no conversation either, outcomes follow each other. -/
theorem Talk.outcome_bind {talk : Talk α τ β} {next : β → Talk α τ γ} {f : β → Except Failure γ}
    (rest : ∀ value d, ((next value).run.run d).1 = f value) (c : Conversation α τ) :
    ((talk >>= next).run.run c).1 = (talk.run.run c).1 >>= f := by
  rw [run_bind]
  cases talk.run.run c with
  | mk reply after =>
    cases reply with
    | ok value => exact rest value after
    | error failure => rfl

/-- Counting hits only says something and reads the count. -/
theorem Session.run_countHits (hits : Fields) (c : Conversation α τ) :
    ((countHits hits : Talk α τ Int).run.run c).1 = Search.totalHits hits := by
  unfold countHits
  split
  · rw [run_bind, run_say]
    exact run_outcome _ _
  · exact run_outcome _ c

/-- An object that is answered has a block of hits, or it does not. -/
theorem Session.run_hitsBlock {asking : Talk α τ Json} {c : Conversation α τ} {answer : Fields}
    (heard : (asking.run.run c).1 = .ok (.obj answer)) :
    ((asking >>= fun reply => fieldsOf reply >>= fun fields =>
      Talk.outcome (Search.hitsBlock fields)).run.run c).1 = Search.hitsBlock answer := by
  rw [run_bind]
  cases replied : asking.run.run c with
  | mk reply after =>
    rw [replied] at heard
    cases heard
    exact run_outcome (Search.hitsBlock answer) after

section

variable [Seconds τ]

/-- Sending a request takes no notice of what was said. -/
theorem Talk.IgnoresLog.exchange (backend : Backend α) (request : Request) :
    IgnoresLog (Talk.exchange backend request : Talk α τ α) := by
  rintro ⟨pending, now, sent, sleeps, before, closings, memory, turns⟩ log
  cases pending with
  | nil => exact ⟨log, rfl⟩
  | cons next rest => exact ⟨log, rfl⟩

/-- Neither does getting a reply. -/
theorem Talk.IgnoresLog.replyTo (backend : Backend α) (call : Call) :
    IgnoresLog (Talk.replyTo backend call : Talk α τ call.Reply) := by
  intro c log
  cases written : backend.encode call with
  | error failure =>
    rw [run_replyTo_of_unwritten written, run_replyTo_of_unwritten written]
    exact ⟨log, rfl⟩
  | ok request =>
    cases passable : backend.closesForGood && c.closed with
    | true =>
      rw [run_replyTo_of_shut written passable,
        run_replyTo_of_shut (c := { c with log := log }) written passable]
      exact ⟨log, rfl⟩
    | false =>
      obtain ⟨said, exchanged⟩ := Talk.IgnoresLog.exchange backend request c log
      rw [run_replyTo_of_open written passable,
        run_replyTo_of_open (c := { c with log := log }) written passable, exchanged]
      cases (Talk.exchange backend request : Talk α τ α).run.run c with
      | mk reply after => cases reply <;> exact ⟨said, rfl⟩

/-- Neither does asking. -/
theorem Talk.IgnoresLog.ask (backend : Backend α) (call : Call) :
    IgnoresLog (Talk.ask backend call : Talk α τ call.Reply) := by
  intro c log
  obtain ⟨said, replied⟩ := Talk.IgnoresLog.replyTo backend call c log
  refine ⟨said, ?_⟩
  rw [run_ask, run_ask, replied]

/-- Neither does finding out the version. -/
theorem Session.detectVersion_ignoresLog (session : Session α τ) :
    IgnoresLog session.detectVersion := by
  intro c log
  cases known : c.memory.version with
  | some version =>
    refine ⟨log, ?_⟩
    rw [run_detectVersion_of_known session known,
      run_detectVersion_of_known (c := { c with log := log }) session known]
  | none =>
    obtain ⟨said, asked⟩ := IgnoresLog.ask session.backend .info c log
    rw [run_detectVersion_of_unknown session known,
      run_detectVersion_of_unknown (c := { c with log := log }) session known, asked]
    cases (Talk.ask session.backend .info).run.run c with
    | mk reply after =>
      cases reply with
      | error failure => exact ⟨said, rfl⟩
      | ok payload =>
        cases told : Version.ofInfo payload with
        | error failure =>
          simp only [told]
          exact ⟨said, rfl⟩
        | ok version =>
          simp only [told]
          exact ⟨_, rfl⟩

/-- Neither does finding out what the engine can do. -/
theorem Session.capabilities_ignoresLog (session : Session α τ) :
    IgnoresLog session.capabilities := by
  intro c log
  cases known : c.memory.capabilities with
  | some able =>
    refine ⟨log, ?_⟩
    rw [run_capabilities_of_known session known,
      run_capabilities_of_known (c := { c with log := log }) session known]
  | none =>
    obtain ⟨said, detected⟩ := session.detectVersion_ignoresLog c log
    refine ⟨said, ?_⟩
    rw [run_capabilities_of_unknown session known,
      run_capabilities_of_unknown (c := { c with log := log }) session known, detected]
    cases session.detectVersion.run.run c with
    | mk reply after =>
      cases reply with
      | error failure => rfl
      | ok version =>
        cases derived : capabilitiesOf version <;> simp only [derived]

/-- In a conversation a session hears an answer to a search of an index: it knows or finds out how
the engine addresses mappings, and the engine answers the search with the fields of an object. -/
def Session.Hears (session : Session α τ) (c : Conversation α τ) (style : MappingStyle)
    (index : Name) (body : Capabilities → Fields) (answer : Fields) : Prop :=
  ∃ able d, session.capabilities.run.run c = (.ok able, d) ∧ able.mappingStyle = style ∧
    ((Talk.ask session.backend (.search index (.obj (body able)))).run.run d).1 = .ok (.obj answer)

/-- The body that a search asks with. -/
def SearchQuery.body (query : SearchQuery) : Capabilities → Fields :=
  Search.body (.ofFields? query.filter) (.ofNat query.limit) (query.fields.map .str)

/-- The body that is asked with for the values of one field. -/
def Session.FieldRequest.body (request : Session.FieldRequest) : Capabilities → Fields :=
  Search.body request.filter request.limit [request.field]

section

variable {session : Session α τ} {c : Conversation α τ} {style : MappingStyle} {index : Name}
  {body : Capabilities → Fields} {answer : Fields}

/-- What is heard does not depend on what was said before. -/
theorem Session.Hears.said (hears : session.Hears c style index body answer)
    (log : List LogEntry) : session.Hears { c with log := log } style index body answer := by
  obtain ⟨able, d, derived, styled, asked⟩ := hears
  obtain ⟨said, again⟩ := session.capabilities_ignoresLog c log
  obtain ⟨_, repeated⟩ := IgnoresLog.ask session.backend (.search index (.obj (body able))) d said
  rw [derived] at again
  refine ⟨able, { d with log := said }, again, styled, ?_⟩
  rw [repeated]
  exact asked

/-- Where an answer is heard, its block of hits is looked for. -/
theorem Session.run_askHits {d : Conversation α τ} {asked : Fields}
    (heard : ((Talk.ask session.backend (.search index (.obj asked))).run.run d).1 =
      .ok (.obj answer)) :
    ((askHits session index asked).run.run d).1 = Search.hitsBlock answer :=
  run_hitsBlock heard

/-- The outcome of a search is made of the answer that is heard. -/
theorem Session.Hears.search_outcome {query : SearchQuery}
    (hears : session.Hears c style (.str query.index) query.body answer) :
    ((search session query).run.run c).1 = Search.resultFrom query style answer := by
  obtain ⟨able, d, derived, rfl, asked⟩ := hears
  have located := run_askHits asked
  unfold search
  rw [run_bind, derived]
  change ((askHits session (.str query.index) (query.body able) >>= _).run.run d).1 = _
  rw [outcome_bind, located]
  · rfl
  · intro hits d
    rw [outcome_bind, run_outcome]
    intro page d
    rw [outcome_bind, run_countHits]
    exact fun total d => run_outcome _ d

/-- What a session says before it asks for the values of a field. -/
def Session.FieldRequest.note (request : Session.FieldRequest) : LogEntry :=
  ⟨.debug, "Reading field [" ++ request.field.plain ++ "] from [" ++ request.index.plain ++
    "] for path [" ++ request.pathHint.plain ++ "]"⟩

/-- What a request for some values of a field leads to depends on whether it asks for any. -/
theorem Session.run_storedFields {request : FieldRequest} {maximum : Nat}
    (limited : request.limit = .int maximum) (c : Conversation α τ) :
    ((storedFields session request).run.run c).1 =
      if maximum = 0 then .ok []
      else ((capabilities session >>= fun able =>
        askHits session request.index (request.body able) >>= fun hits =>
        Talk.outcome (Search.storedValues request.field able.mappingStyle hits) >>= fun values =>
        Talk.outcome (Search.atMost request.limit values)).run.run
          { c with log := c.log ++ [request.note] }).1 := by
  have asked : Search.isBelowZero request.limit = .ok false := by
    rw [limited, Search.isBelowZero, decide_eq_false (Int.not_lt.2 (Int.natCast_nonneg maximum))]
  have whole : request.limit.whole? = some (maximum : Int) := by
    rw [limited]
    rfl
  unfold storedFields
  rw [asked, run_bind, run_outcome_ok]
  change (((Talk.say .debug request.note.text : Talk α τ Unit) >>= fun _ => _).run.run c).1 = _
  rw [run_bind, run_say, whole]
  by_cases absent : maximum = 0
  · rw [if_pos absent, absent]
    rfl
  · have asks : (some (maximum : Int) == some 0) = false := by simp [absent]
    rw [if_neg absent]
    simp only [asks, Bool.false_eq_true, if_false]
    rfl

/-- The values of one field are made of the answer that is heard, as many as asked for at most. -/
theorem Session.Hears.storedFields_outcome {request : FieldRequest} {maximum : Nat}
    (limited : request.limit = .int maximum) (positive : 0 < maximum)
    (hears : session.Hears c style request.index request.body answer) :
    ((storedFields session request).run.run c).1 =
      Search.valuesFrom request.field request.limit style answer := by
  rw [run_storedFields limited, if_neg (Nat.pos_iff_ne_zero.1 positive)]
  obtain ⟨able, d, derived, rfl, asked⟩ := hears.said (c.log ++ [request.note])
  have located := run_askHits asked
  rw [run_bind, derived]
  change ((askHits session request.index (request.body able) >>= _).run.run d).1 = _
  rw [outcome_bind, located]
  · rfl
  · intro hits d
    rw [outcome_bind, run_outcome]
    exact fun values d => run_outcome _ d

end

end

/-! ### One answer through a client library -/

/-- A conversation with an engine of a generation that has one more answer. -/
def expecting (style : MappingStyle) (answer : Fields) : Conversation Client.Answer Float where
  pending := [⟨.value (.obj answer), 0⟩]
  now := 0
  memory := { capabilities := some { ingestSupported := true, mappingStyle := style } }

/-- A session through a client library. -/
def throughClient : Session Client.Answer Float :=
  .over (Client.Elasticsearch.backend Client.Elasticsearch.errorKinds) .standard true

/-- A session through the OpenSearch library. -/
def throughOpensearch : Session Client.Answer Float :=
  .over (Client.Opensearch.backend Client.Opensearch.errorKinds) .standard true

end EngineGateway
