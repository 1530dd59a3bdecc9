import EngineGateway.Cli.Run
import EngineGateway.Proofs.Backend.Honest
import EngineGateway.Proofs.Cli.Reading

/-!
# Values that a run rejects

A value on the command line may be of no use in two ways. A flag cannot be given it at all
(`Unread`), or it is taken and found unfit later (`Invocation.Rejected`): a waiting time out of
bounds, an argument that should hold an object and does not, a negative number of results, a
pipeline of the wrong shape. Only the first is told by the exit code. The second breaks the run off,
if the missing of a client library does not end it first.
-/

namespace EngineGateway

/-! ### Checks that do not pass -/

namespace Checked

variable {α β : Type}

/-- A check that does not pass. -/
def Refuses (x : Checked α) : Prop := ∀ value, x ≠ .passed value

/-- A value that passed is not refused. -/
theorem refuses_passed (value : α) : ¬(passed value).Refuses := fun refuses => refuses value rfl

/-- Complaints are a refusal. -/
theorem refuses_failed (complaints : List Complaint) : (failed complaints : Checked α).Refuses :=
  nofun

/-- Two checks side by side pass if both do. -/
theorem refuses_ap (f : Checked (α → β)) (x : Checked α) :
    (f <*> x).Refuses ↔ f.Refuses ∨ x.Refuses := by
  cases f <;> cases x <;> simp [Seq.seq, ap, refuses_passed, refuses_failed]

/-- What is made of a value that passed passes. -/
theorem refuses_map (f : α → β) (x : Checked α) : (f <$> x).Refuses ↔ x.Refuses := by
  change (passed f <*> x).Refuses ↔ x.Refuses
  simp only [refuses_ap, refuses_passed, false_or]

/-- A part is refused with its place in the whole. -/
theorem refuses_under (step : Step) (x : Checked α) : (x.under step).Refuses ↔ x.Refuses := by
  cases x <;> simp [under, refuses_passed, refuses_failed]

/-- Items pass as objects only if they are objects. -/
theorem refuses_eachFrom_dictionary {items : List Json}
    (foreign : ∀ objects : List Fields, items ≠ objects.map .obj) (start : Nat) :
    (eachFrom start Check.dictionary items).Refuses := by
  induction items generalizing start with
  | nil => exact absurd rfl (foreign [])
  | cons item rest inductionHypothesis =>
    rw [eachFrom, refuses_ap, refuses_map, refuses_under]
    cases item with
    | obj fields =>
      refine .inr (inductionHypothesis (fun objects same => ?_) (start + 1))
      exact foreign (fields :: objects) (by rw [same, List.map_cons])
    | _ => exact .inl (refuses_failed _)

end Checked

/-! ### Failures of the caller -/

/-- A failure that lies with what the caller handed in. -/
def Failure.Own (failure : Failure) : Prop := failure.isEngineFailure = false

/-- A result that is a failure of the caller. -/
def Faulted {α : Type} (result : Except Failure α) : Prop :=
  ∃ failure, result = .error failure ∧ failure.Own

section

variable {α β : Type} {result : Except Failure α}

/-- What is no value and can only fail by the caller is a failure of the caller. -/
theorem FailsOnly.faulted (only : FailsOnly Failure.Own result)
    (valueless : ∀ value, result ≠ .ok value) : Faulted result := by
  cases result with
  | ok value => exact absurd rfl (valueless value)
  | error failure => exact ⟨failure, rfl, only failure rfl⟩

/-- A sequence fails by the caller if its first step does so or gives what the rest fails for. -/
theorem Faulted.bind {next : α → Except Failure β} (only : FailsOnly Failure.Own result)
    (rest : ∀ value, result = .ok value → Faulted (next value)) : Faulted (result >>= next) := by
  cases result with
  | ok value => exact rest value rfl
  | error failure => exact ⟨failure, rfl, only failure rfl⟩

/-- What is made of no value is no value. -/
theorem Faulted.map {f : α → β} (faulted : Faulted result) : Faulted (f <$> result) := by
  obtain ⟨failure, rfl, own⟩ := faulted
  exact ⟨failure, rfl, own⟩

/-- Data that does not describe a record is the caller's. -/
theorem failsOnly_toExcept (model : String) (x : Checked α) :
    FailsOnly Failure.Own (x.toExcept model) := by
  cases x with
  | passed value => exact .ok value
  | failed complaints => exact .error rfl

/-- A refusal is a failure of the caller. -/
theorem Checked.Refuses.faulted {x : Checked α} (refuses : x.Refuses) (model : String) :
    Faulted (x.toExcept model) := by
  cases x with
  | passed value => exact absurd refuses (Checked.refuses_passed value)
  | failed complaints => exact ⟨_, rfl, rfl⟩

end

namespace Cli

/-! ### Arguments that hold objects -/

/-- An argument that is given and holds no object, be it at once or in a file. -/
structure Objectless (files : Files) (argument : Json) : Prop where
  given : argument ≠ .null
  unread : ∀ written, argument = .str written → written.isBlankText = false ∧
    ∀ text fields, argumentText files written = .ok text → Json.read text ≠ .ok (.obj fields)

/-- Reading an argument that may hold an object fails by the caller only. -/
theorem failsOnly_objectArgument (files : Files) (argument : Json) :
    FailsOnly Failure.Own (objectArgument files argument) := by
  unfold objectArgument
  split
  · exact .ok none
  refine (FailsOnly.textOr (show Failure.noMember.Own from rfl) argument).bind fun written => ?_
  unfold writtenObject
  refine .ite (.ok none) (FailsOnly.bind ?_ fun text => ?_)
  · unfold argumentText Files.read
    split
    · split
      · exact .ok _
      · exact .error rfl
    · exact .ok written
  · split
    · exact .ok _
    · exact .error rfl
    · exact .error rfl

/-- No object is read where none stands. -/
theorem Objectless.faulted {files : Files} {argument : Json}
    (objectless : Objectless files argument) : Faulted (objectArgument files argument) := by
  refine (failsOnly_objectArgument files argument).faulted fun found held => ?_
  cases argument with
  | null => exact objectless.given rfl
  | str written =>
    obtain ⟨visible, unread⟩ := objectless.unread written rfl
    change writtenObject files written = .ok found at held
    rw [writtenObject, visible, if_neg Bool.false_ne_true] at held
    cases content : argumentText files written with
    | error failure => simp [content, bind, Except.bind] at held
    | ok text =>
      simp only [content, bind, Except.bind] at held
      split at held
      · exact unread text _ content ‹_›
      · cases held
      · cases held
  | _ => cases held

/-! ### Checks of single values -/

/-- A value that is no text, where a text belongs. -/
def Unwritten (value : Json) : Prop := ∀ text, value ≠ .str text

/-- What is no text is refused as a text. -/
theorem Unwritten.refuses {value : Json} (unwritten : Unwritten value) :
    (Check.text value).Refuses := by
  cases value with
  | str text => exact absurd rfl (unwritten text)
  | _ => exact Checked.refuses_failed _

/-- What is no text is refused as the name of a backend. -/
theorem Unwritten.refuses_backend {value : Json} (unwritten : Unwritten value) :
    (Settings.backendOfJson value).Refuses := by
  cases value with
  | str text => exact absurd rfl (unwritten text)
  | _ => exact Checked.refuses_failed _

/-- Where a text is needed, what is no text is the caller's. -/
theorem Unwritten.faulted {value : Json} (unwritten : Unwritten value) {fault : Failure}
    (own : fault.Own) : Faulted (value.textOr fault) :=
  (FailsOnly.textOr own value).faulted fun text held => by
    cases value with
    | str written => exact unwritten written rfl
    | _ => cases held

/-- A number that is not above zero is refused where it has to be. -/
theorem refuses_positive {value : Json} (given : IsGiven .float value)
    (unfit : ∀ t : Float, value = .float t → ¬t > 0) : (Check.positive value).Refuses := by
  rcases given with rfl | ⟨t, rfl⟩
  · exact Checked.refuses_failed _
  · rw [Check.positive, Check.number, Checked.andThen, if_neg (unfit t rfl)]
    exact Checked.refuses_failed _

/-- A number below zero is refused where it must not be. -/
theorem refuses_nonNegative {value : Json} (given : IsGiven .float value)
    (unfit : ∀ t : Float, value = .float t → ¬t ≥ 0) : (Check.nonNegative value).Refuses := by
  rcases given with rfl | ⟨t, rfl⟩
  · exact Checked.refuses_failed _
  · rw [Check.nonNegative, Check.number, Checked.andThen, if_neg (unfit t rfl)]
    exact Checked.refuses_failed _

/-- A whole number below zero is refused as a natural number. -/
theorem refuses_natural {value : Json} (given : IsGiven .int value)
    (below : ∀ n : Int, value = .int n → n < 0) : (Check.natural value).Refuses := by
  rcases given with rfl | ⟨n, rfl⟩
  · exact Checked.refuses_failed _
  · rw [Check.natural, Check.integer, Checked.andThen, if_pos (below n rfl)]
    exact Checked.refuses_failed _

/-! ### Commands and connections that are rejected -/

/-- A command with a value that it has no use for. -/
inductive Command.Rejected (files : Files) : Command → Prop where
  /-- The settings of a new index are no object. -/
  | settings {index settings : Json} {override wait : Bool}
    (objectless : Objectless files settings) :
    Rejected files (.createIndex index settings override wait)
  /-- The index to be searched has no name. -/
  | searchIndex {index query fields size : Json} (unwritten : Unwritten index) :
    Rejected files (.search index query fields size)
  /-- The query of a search is no object. -/
  | searchQuery {index query fields size : Json} (objectless : Objectless files query) :
    Rejected files (.search index query fields size)
  /-- The fields to be shown are no text. -/
  | searchFields {index query fields size : Json} (unwritten : Unwritten fields) :
    Rejected files (.search index query fields size)
  /-- A negative number of hits is asked for. -/
  | searchSize {index query fields size : Json} (below : ∀ n : Int, size = .int n → n < 0) :
    Rejected files (.search index query fields size)
  /-- The query for the values of a field is no object. -/
  | fieldQuery {index query field size pathHint : Json} (objectless : Objectless files query) :
    Rejected files (.storedFields index query field size pathHint)
  /-- A negative number of values is asked for. -/
  | fieldSize {index query field size pathHint : Json}
    (below : ∀ n : Int, size = .int n → n < 0) :
    Rejected files (.storedFields index query field size pathHint)
  /-- The pipeline has no name. -/
  | pipelineId {id definition : Json} (unwritten : Unwritten id) :
    Rejected files (.putPipeline id definition)
  /-- The definition of a pipeline is no object. -/
  | definition {id definition : Json} (objectless : Objectless files definition) :
    Rejected files (.putPipeline id definition)
  /-- The definition of a pipeline is blank. -/
  | blank {id : Json} {written : Text} (blank : written.isBlankText = true) :
    Rejected files (.putPipeline id (.str written))
  /-- The processors of a pipeline are no list of objects. -/
  | processors {id definition : Json} {fields : Fields}
    (held : objectArgument files definition = .ok (some fields))
    (foreign : ∀ items : List Fields, fields.getD "processors" (.arr []) ≠ .arr (items.map .obj)) :
    Rejected files (.putPipeline id definition)
  /-- The description of a pipeline is no text. -/
  | description {id definition : Json} {fields : Fields}
    (held : objectArgument files definition = .ok (some fields))
    (foreign : ∀ text, fields.getD "description" .null ≠ .ofText? text) :
    Rejected files (.putPipeline id definition)

/-- An invocation with a value that is taken from the command line and found unfit later. -/
inductive Invocation.Rejected (files : Files) (invocation : Invocation) : Prop where
  | command (rejected : invocation.command.Rejected files)
  | backend (unwritten : Unwritten invocation.connection.backend)
  | url (unwritten : Unwritten invocation.connection.url)
  /-- The time for a request is not above zero. -/
  | timeout (unfit : ∀ t : Float, invocation.connection.timeout = .float t → ¬t > 0)
  /-- The time for an index to become healthy is below zero. -/
  | healthTimeout (unfit : ∀ t : Float, invocation.connection.healthTimeout = .float t → ¬t ≥ 0)
  | logLevel (unwritten : Unwritten invocation.connection.logLevel)

/-- No settings are made of a connection with a value that does not pass. -/
theorem faulted_settingsFor {environment : Settings} {connection : Connection}
    (refuses : (Settings.backendOfJson connection.backend).Refuses ∨
      (Check.text connection.url).Refuses ∨ (Check.positive connection.timeout).Refuses ∨
      (Check.nonNegative connection.healthTimeout).Refuses) :
    Faulted (settingsFor environment connection) := by
  refine Checked.Refuses.faulted ?_ _
  change (Settings.mk <$> .under _ (Settings.backendOfJson connection.backend)
    <*> .under _ (Check.text connection.url)
    <*> .under _ (Check.positive connection.timeout)
    <*> .passed connection.verifyCerts
    <*> .under _ (Check.nonNegative connection.healthTimeout)
    <*> .under _ (Check.positive (.float environment.firstPoll))
    <*> .under _ (Check.positive (.float environment.longestPoll))
    <*> .passed environment.legacyDocumentType : Checked Settings).Refuses
  simp only [Checked.refuses_ap, Checked.refuses_map, Checked.refuses_under]
  rcases refuses with backend | url | timeout | healthTimeout
  · simp only [backend, true_or]
  · simp only [url, true_or, or_true]
  · simp only [timeout, true_or, or_true]
  · simp only [healthTimeout, true_or, or_true]

/-- No query is made of an index without a name or of a number of hits that does not pass. -/
theorem refuses_query {index filter names size : Json}
    (refuses : (Check.text index).Refuses ∨ (Check.natural size).Refuses) :
    (SearchQuery.ofJson (.obj [("target_index", index), ("filter", filter),
      ("requested_fields", names), ("max_results", size)])).Refuses := by
  change (SearchQuery.mk <$> .under _ (Check.text index)
    <*> .under _ (Check.nullable Check.dictionary filter)
    <*> .under _ (Check.list Check.text names)
    <*> .under _ (Check.natural size) : Checked SearchQuery).Refuses
  simp only [Checked.refuses_ap, Checked.refuses_map, Checked.refuses_under]
  rcases refuses with index | size
  · simp only [index, true_or]
  · simp only [size, or_true]

/-- No pipeline is made of parts of which one does not pass. -/
theorem refuses_pipeline {id processors description : Json}
    (refuses : (Check.text id).Refuses ∨ (Check.list Check.dictionary processors).Refuses ∨
      (Check.nullable Check.text description).Refuses) :
    (Pipeline.ofJson (.obj [("id", id), ("processors", processors),
      ("description", description)])).Refuses := by
  change (Pipeline.mk <$> .under _ (Check.text id)
    <*> .under _ (Check.list Check.dictionary processors)
    <*> .under _ (Check.nullable Check.text description) : Checked Pipeline).Refuses
  simp only [Checked.refuses_ap, Checked.refuses_map, Checked.refuses_under]
  rcases refuses with id | processors | description
  · simp only [id, true_or]
  · simp only [processors, true_or, or_true]
  · simp only [description, or_true]

/-- What is no list of objects is refused as such. -/
theorem refuses_objects {value : Json}
    (foreign : ∀ items : List Fields, value ≠ .arr (items.map .obj)) :
    (Check.list Check.dictionary value).Refuses := by
  cases value with
  | arr items =>
    exact Checked.refuses_eachFrom_dictionary
      (fun objects same => foreign objects (congrArg Json.arr same)) 0
  | _ => exact Checked.refuses_failed _

/-- What is neither a text nor `null` is refused as a text that may be missing. -/
theorem refuses_nullable {value : Json} (foreign : ∀ text, value ≠ .ofText? text) :
    (Check.nullable Check.text value).Refuses := by
  cases value with
  | null => exact absurd rfl (foreign none)
  | str text => exact absurd rfl (foreign (some text))
  | _ => exact Checked.refuses_failed _

/-! ### What comes of a rejection -/

/-- A job that fails by the caller in every session, before anything is sent. -/
def Job.Fails (files : Files) (job : Job) : Prop :=
  ∀ {α : Type} (session : Session α Float) (c : Conversation α Float), ∃ failure,
    (job.run session files).run.run c = (.error failure, c) ∧ failure.Own

/-- A search with a value that it has no use for is none. -/
theorem faulted_searchQuery {files : Files} {index query fields size : Json}
    (numeric : IsGiven .int size)
    (rejected : (Command.search index query fields size).Rejected files) :
    Faulted (searchQuery files index query fields size) := by
  refine .bind (failsOnly_objectArgument files query) fun filter held => ?_
  have own : Failure.noMember.Own := rfl
  refine .bind (.textOr own fields) fun written given => ?_
  refine Checked.Refuses.faulted (refuses_query ?_) _
  cases rejected with
  | searchIndex unwritten => exact .inl unwritten.refuses
  | searchQuery objectless =>
    obtain ⟨failure, failed, -⟩ := objectless.faulted
    rw [failed] at held
    cases held
  | searchFields unwritten =>
    obtain ⟨failure, failed, -⟩ := unwritten.faulted own
    rw [failed] at given
    cases given
  | searchSize below => exact .inr (refuses_natural numeric below)

/-- A pipeline with a value that it has no use for is none. -/
theorem faulted_pipelineFrom {files : Files} {id definition : Json}
    (rejected : (Command.putPipeline id definition).Rejected files) :
    Faulted (pipelineFrom files id definition) := by
  refine .bind (failsOnly_objectArgument files definition) fun found held => ?_
  cases found with
  | none => exact ⟨.missingDefinition, rfl, rfl⟩
  | some fields =>
    refine Checked.Refuses.faulted (refuses_pipeline ?_) _
    cases rejected with
    | pipelineId unwritten => exact .inl unwritten.refuses
    | definition objectless =>
      obtain ⟨failure, failed, -⟩ := objectless.faulted
      rw [failed] at held
      cases held
    | blank blank =>
      change writtenObject files _ = _ at held
      rw [writtenObject, if_pos blank] at held
      cases held
    | processors other foreign =>
      cases held.symm.trans other
      exact .inr (.inl (refuses_objects foreign))
    | description other foreign =>
      cases held.symm.trans other
      exact .inr (.inr (refuses_nullable foreign))

/-- The values of a field are not asked for with a value that is of no use for it. -/
theorem run_readField_of_rejected {α : Type} (session : Session α Float) {files : Files}
    {index query field size pathHint : Json} (numeric : IsGiven .int size)
    (rejected : (Command.storedFields index query field size pathHint).Rejected files)
    (c : Conversation α Float) : ∃ failure,
      (readField session files index query field size pathHint).run.run c = (.error failure, c) ∧
        failure.Own := by
  unfold readField
  cases held : objectArgument files query with
  | error failure => exact ⟨failure, rfl, failsOnly_objectArgument files query failure held⟩
  | ok filter =>
    cases rejected with
    | fieldQuery objectless =>
      obtain ⟨failure, failed, -⟩ := objectless.faulted
      rw [failed] at held
      cases held
    | fieldSize below =>
      rcases numeric with rfl | ⟨n, rfl⟩
      · exact ⟨.wrongKind, rfl, rfl⟩
      · have negative : Search.isBelowZero (.int n) = .ok true :=
          congrArg Except.ok (decide_eq_true (below n rfl))
        refine ⟨.negativeLimit (.int n), ?_, rfl⟩
        unfold Session.storedFields
        dsimp only
        rw [negative]
        rfl

/-- A command with a value that it has no use for comes to no job, or to one that fails. -/
theorem Command.Rejected.job {files : Files} {command : Command}
    (rejected : command.Rejected files) (numeric : ∀ size ∈ command.size?, IsGiven .int size) :
    Faulted (command.job files) ∨ ∃ job, command.job files = .ok job ∧ job.Fails files := by
  cases command with
  | createIndex index settings override wait =>
    refine .inr ⟨_, rfl, fun session c => ?_⟩
    cases rejected with
    | settings objectless =>
      obtain ⟨failure, failed, own⟩ := objectless.faulted
      refine ⟨failure, ?_, own⟩
      rw [Job.run, createAndWait, failed]
      rfl
  | search index query fields size =>
    exact .inl (faulted_searchQuery (numeric size rfl) rejected).map
  | storedFields index query field size pathHint =>
    refine .inr ⟨_, rfl, fun session c => ?_⟩
    exact run_readField_of_rejected session (numeric size rfl) rejected c
  | putPipeline id definition => exact .inl (faulted_pipelineFrom rejected).map
  | _ => cases rejected

/-- The settings of an invocation are sound, but the client library that they name is missing. -/
def Invocation.LacksLibrary (machine : Machine) (environment : Settings)
    (invocation : Invocation) : Prop :=
  ∃ settings, settingsFor environment invocation.connection = .ok settings ∧
    settings.backend ∈ machine.libraries.missing

/-- To make a client fails by the caller, or because its library is missing. -/
theorem failsOnly_connectClient (libraries : Libraries) (settings : Settings)
    (backend : Backend Client.Answer)
    {construction : Json → Float → Bool → Except Failure EngineGateway.Request}
    (own : ∀ url timeout verify, FailsOnly Failure.Own (construction url timeout verify)) :
    FailsOnly (fun failure => failure.Own ∨ backend.name ∈ libraries.missing)
      (connectClient libraries (endpoint settings) backend construction) := by
  unfold connectClient
  dsimp only [endpoint]
  refine .bind ?_ fun _ => .bind ((own _ _ _).weaken fun _ => .inl) fun _ => .ok _
  by_cases missing : libraries.missing.contains backend.name = true
  · rw [if_pos missing]
    exact .error (.inr (List.contains_iff_mem.1 missing))
  · rw [if_neg missing]
    exact .ok ()

/-- To connect fails by the caller, or because the library of the backend is missing. -/
theorem failsOnly_connect (libraries : Libraries) (settings : Settings) :
    FailsOnly (fun failure => failure.Own ∨ settings.backend ∈ libraries.missing)
      (connect libraries (endpoint settings)) := by
  unfold connect
  have needsText : Failure.noMember.Own := rfl
  cases chosen : settings.backend with
  | elasticsearch =>
    have named : (endpoint settings).backend = .str "elasticsearch" := by rw [endpoint, chosen]; rfl
    rw [named]
    exact failsOnly_connectClient libraries settings _ fun _ _ _ => .ok _
  | opensearch =>
    have named : (endpoint settings).backend = .str "opensearch" := by rw [endpoint, chosen]; rfl
    rw [named]
    exact failsOnly_connectClient libraries settings _ fun url _ _ =>
      .bind (.textOr needsText url) fun _ => .ok _
  | http =>
    have named : (endpoint settings).backend = .str "http" := by rw [endpoint, chosen]; rfl
    have own : FailsOnly Failure.Own (restLine (Rest.engineAt settings.url)) := by
      cases Rest.engineAt settings.url with
      | ok engine => exact .ok _
      | error fault => exact .error rfl
    rw [named]
    exact own.weaken fun _ => .inl

/-- What a command is about to do cannot be told only where the caller is at fault. -/
theorem failsOnly_job (files : Files) (command : Command) :
    FailsOnly Failure.Own (command.job files) := by
  have needsText : Failure.noMember.Own := rfl
  cases command with
  | search index query fields size =>
    refine .map (.bind (failsOnly_objectArgument files query) fun filter => ?_)
    exact .bind (.textOr needsText fields) fun written => failsOnly_toExcept _ _
  | putPipeline id definition =>
    refine .map (.bind (failsOnly_objectArgument files definition) fun found => ?_)
    cases found with
    | none => exact .error rfl
    | some fields => exact failsOnly_toExcept _ _
  | _ => exact .ok _

/-- Where settings are made of the connection, the rejected value is one of the command. -/
theorem Invocation.Rejected.command_of_settings {files : Files} {invocation : Invocation}
    (rejected : invocation.Rejected files) (numeric : invocation.Numeric)
    (levelled : ¬Unwritten invocation.connection.logLevel) {environment settings : Settings}
    (made : settingsFor environment invocation.connection = .ok settings) :
    invocation.command.Rejected files := by
  have passed (faulted : Faulted (settingsFor environment invocation.connection)) : False := by
    obtain ⟨failure, failed, -⟩ := faulted
    cases made.symm.trans failed
  cases rejected with
  | command rejected => exact rejected
  | backend unwritten => exact (passed (faulted_settingsFor (.inl unwritten.refuses_backend))).elim
  | url unwritten => exact (passed (faulted_settingsFor (.inr (.inl unwritten.refuses)))).elim
  | timeout unfit =>
    have refuses := refuses_positive numeric.timeout unfit
    exact (passed (faulted_settingsFor (.inr (.inr (.inl refuses))))).elim
  | healthTimeout unfit =>
    have refuses := refuses_nonNegative numeric.healthTimeout unfit
    exact (passed (faulted_settingsFor (.inr (.inr (.inr refuses))))).elim
  | logLevel unwritten => exact absurd unwritten levelled

/-- A job that fails in every session fails by the caller, or because a client library is missing
and there is no session. -/
theorem outcome_conduct_of_fails {files : Files} {job : Job} (fails : job.Fails files)
    (libraries : Libraries) (engine : Engine) (settings : Settings) : ∃ failure,
      (conduct libraries engine settings files job).outcome = .error failure ∧
        (failure.Own ∨ settings.backend ∈ libraries.missing) := by
  have course {α : Type} (session : Session α Float) (pending : List (Timed α Float))
      (opening : List EngineGateway.Request) : ∃ failure,
      (Course.of session pending opening files job).outcome = .error failure ∧ failure.Own := by
    obtain ⟨failure, ran, own⟩ := fails session { pending, now := 0, sent := opening }
    exact ⟨failure, congrArg Prod.fst ran, own⟩
  unfold conduct
  split
  case h_1 failure failed =>
    exact ⟨failure, rfl, failsOnly_connect libraries settings failure failed⟩
  case h_2 backend opening _ =>
    obtain ⟨failure, failed, own⟩ := course (.over backend settings true) engine.rest opening
    exact ⟨failure, failed, .inl own⟩
  case h_3 backend opening _ =>
    obtain ⟨failure, failed, own⟩ := course (.over backend settings true) engine.client opening
    exact ⟨failure, failed, .inl own⟩

/-- An invocation with a rejected value, if only it can be said how much is to be shown of it, fails
by the caller or because a client library is missing. -/
theorem outcome_perform_of_rejected {machine : Machine} (environment : Settings)
    {invocation : Invocation} (rejected : invocation.Rejected machine.files)
    (numeric : invocation.Numeric) (levelled : ¬Unwritten invocation.connection.logLevel) :
    ∃ failure,
      (perform machine.libraries machine.engine environment machine.files invocation).outcome =
        .error failure ∧ (failure.Own ∨ invocation.LacksLibrary machine environment) := by
  unfold perform prepare
  cases found : invocation.command.job machine.files with
  | error failure =>
    exact ⟨failure, rfl, .inl (failsOnly_job machine.files invocation.command failure found)⟩
  | ok job =>
    cases made : settingsFor environment invocation.connection with
    | error failure => exact ⟨failure, rfl, .inl (failsOnly_toExcept _ _ failure made)⟩
    | ok settings =>
      have unfit := rejected.command_of_settings numeric levelled made
      rcases unfit.job numeric.size with ⟨failure, failed, -⟩ | ⟨other, same, fails⟩
      · cases found.symm.trans failed
      · cases found.symm.trans same
        obtain ⟨failure, failed, lies⟩ :=
          outcome_conduct_of_fails fails machine.libraries machine.engine settings
        exact ⟨failure, failed, lies.imp_right fun missing => ⟨settings, made, missing⟩⟩

/-- How a run ends whose command failed. -/
theorem ending_runAtLevel_of_failed {machine : Machine} {environment : Settings}
    {invocation : Invocation} (level : LogLevel) {failure : Failure}
    (failed : (perform machine.libraries machine.engine environment machine.files
      invocation).outcome = .error failure) :
    (runAtLevel machine environment invocation level).ending =
      if failure.isEngineFailure then .exit engineFailureCode else .broken failure := by
  unfold runAtLevel
  simp only [failed]
  split <;> rfl

/-- An invocation with a rejected value breaks the run off with a failure of the caller, or the
missing of a client library ends it. -/
theorem ending_runInvocation_of_rejected {machine : Machine} (environment : Settings)
    {invocation : Invocation} (rejected : invocation.Rejected machine.files)
    (numeric : invocation.Numeric) :
    (∃ failure, (runInvocation machine environment invocation).ending = .broken failure ∧
        failure.Own) ∨
      invocation.LacksLibrary machine environment ∧
        (runInvocation machine environment invocation).ending = .exit engineFailureCode := by
  unfold runInvocation
  split
  case h_2 => exact .inl ⟨.noMember, rfl, rfl⟩
  case h_1 level known =>
    have levelled : ¬Unwritten invocation.connection.logLevel := by
      intro unwritten
      cases written : invocation.connection.logLevel with
      | str text => exact unwritten text written
      | _ =>
        rw [written] at known
        cases known
    obtain ⟨failure, failed, lies⟩ :=
      outcome_perform_of_rejected environment rejected numeric levelled
    rw [ending_runAtLevel_of_failed level failed]
    cases ofEngine : failure.isEngineFailure with
    | false => exact .inl ⟨failure, rfl, ofEngine⟩
    | true =>
      refine .inr ⟨lies.resolve_left fun own => ?_, rfl⟩
      cases ofEngine.symm.trans own

/-! ### Runs -/

/-- A command line with a value that a run rejects: its flag cannot be given it, or it is found
unfit later. -/
inductive Rejection (environment : Settings) (files : Files) (words : List Text) : Prop where
  | unread (unread : Unread words)
  | unfit {invocation : Invocation} (asked : read environment words = .invocation invocation)
    (rejected : invocation.Rejected files)

/-- Where the environment gives sound settings, a run does what its command line asks for. -/
theorem ending_run_of_valid {machine : Machine} {environment : Settings}
    (valid : Settings.ofEnvironment machine.environment Settings.variableStart =
      .passed environment) (words : List Text) :
    (run machine words).ending =
      match read environment words with
      | .help => .exit 0
      | .refused => .exit refusedCode
      | .bare => .exit 1
      | .invocation invocation => (runInvocation machine environment invocation).ending := by
  unfold run
  rw [valid]
  dsimp only [Checked.toExcept]
  cases read environment words <;> rfl

/-- A value that a run rejects is told by the exit code exactly if its flag cannot be given it. A
value that is found unfit only later breaks the run off with a failure of the caller, unless the
library of the client is missing and the run ends with that. -/
theorem rejection_is_told_iff_unread (machine : Machine) {environment : Settings}
    (valid : Settings.ofEnvironment machine.environment Settings.variableStart =
      .passed environment) {words : List Text}
    (rejection : Rejection environment machine.files words) :
    ((run machine words).ending = .exit refusedCode ↔ Unread words) ∧
      (¬Unread words →
        (∃ failure, (run machine words).ending = .broken failure ∧ failure.Own) ∨
        (run machine words).ending = .exit engineFailureCode ∧
          ∃ invocation, read environment words = .invocation invocation ∧
            invocation.LacksLibrary machine environment) := by
  rw [ending_run_of_valid valid]
  cases rejection with
  | unread unread =>
    rw [unread.refused environment]
    exact ⟨⟨fun _ => unread, fun _ => rfl⟩, fun absent => absurd unread absent⟩
  | unfit asked rejected =>
    have readable : ¬Unread words := fun unread => by
      rw [unread.refused environment] at asked
      cases asked
    rw [asked]
    rcases ending_runInvocation_of_rejected environment rejected (read_numeric asked) with
      ⟨failure, broken, own⟩ | ⟨lacks, ended⟩
    · refine ⟨⟨fun told => ?_, fun unread => absurd unread readable⟩,
        fun _ => .inl ⟨failure, broken, own⟩⟩
      cases broken.symm.trans told
    · refine ⟨⟨fun told => ?_, fun unread => absurd unread readable⟩,
        fun _ => .inr ⟨ended, _, rfl, lacks⟩⟩
      cases ended.symm.trans told

/-- A number of hits that is no number is told by the exit code; a negative one breaks the run
off. -/
theorem negative_size_breaks_off :
    let negative : List Text := ["search", "--index", "i", "--size", "-1"]
    let misspelled : List Text := ["search", "--index", "i", "--size", "x"]
    Rejection Settings.standard {} negative ∧ ¬Unread negative ∧
      (∃ failure, (run {} negative).ending = .broken failure) ∧
      Unread misspelled ∧ (run {} misspelled).ending = .exit refusedCode := by
  intro negative misspelled
  have valid : Settings.ofEnvironment [] Settings.variableStart = .passed Settings.standard := rfl
  have unfit : Rejection Settings.standard {} negative :=
    .unfit rfl (.command (.searchSize fun n same => by cases same; decide))
  have unreadable : Unreadable [.flag sizeFlag .nothing, .word "x"] := .apart rfl
  have taken : tokens (connectionFlags ++ [indexFlag, queryFlag,
        textFlag "--fields" fun fields given => { given with fields }, sizeFlag])
      ["--index", "i", "--size", "x"] =
        some ([.flag indexFlag .nothing, .word "i"] ++
          ([.flag sizeFlag .nothing, .word "x"] ++ [])) := rfl
  have unread : Unread misspelled := .behind (.here nofun rfl rfl) (.met taken rfl unreadable)
  have told := rejection_is_told_iff_unread {} valid unfit
  refine ⟨unfit, fun readable => ?_, ⟨_, rfl⟩, unread, ?_⟩
  · cases told.1.2 readable
  · exact (rejection_is_told_iff_unread {} valid (.unread unread)).1.2 unread

end Cli

end EngineGateway
