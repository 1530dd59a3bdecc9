import EngineGateway.Cli.Run
import EngineGateway.Proofs.Session.Asking

/-!
# The order of a run's deeds

A run opens one session at most. What it opened it closes once, when all requests have been sent and
whatever came of them; then the command gives its object or fails, and only an object that was given
is handed to the output. `Disciplined` lists the histories that this allows.

The heart of the matter is that no job closes the connection or takes a request back: a property of
all operations but one, and so of the jobs, which are made of the others.
-/

namespace EngineGateway.Cli

open Session Talk

/-- The histories of runs, as far as they are in order. -/
inductive Disciplined : List Deed → Prop where
  /-- No command was carried out. -/
  | idle : Disciplined []
  /-- The command failed before a client was made. -/
  | unopened (failure : Failure) : Disciplined [.raised failure]
  /-- The command failed with a client that was made, and closed, before it. -/
  | failed (construction requests : List EngineGateway.Request) (failure : Failure) :
    Disciplined (.opened construction :: (requests.map .sent ++ [.closed, .raised failure]))
  /-- The command gave an object, and then the object went to the output. -/
  | succeeded (construction requests : List EngineGateway.Request) (payload : Fields) :
    Disciplined (.opened construction ::
      (requests.map .sent ++ [.closed, .returned payload, .emitted payload]))

/-- A conversation that goes on from some requests and was never closed. -/
def Unclosed {α τ : Type} (opening : List EngineGateway.Request) (c : Conversation α τ) : Prop :=
  opening <+: c.sent ∧ c.closings = []

section

variable {α : Type} {session : Session α Float}

/-- A property of what was asked, sent and closed is kept by every job if asking keeps it: no job
closes the connection. -/
theorem Job.keeps_run {kept : Conversation α Float → Prop} (historic : Historic kept)
    (asked : ∀ call, Keeps kept (ask session.backend call)) (files : Files) (job : Job) :
    Keeps kept (job.run session files) := by
  have operation (operation : Operation Float) (stays : operation ≠ .close) :
      Keeps kept (operation.run session) :=
    historic.keeps_run asked operation fun closes => absurd closes stays
  cases job with
  | showVersion =>
    exact (operation .detectVersion nofun).bind fun _ =>
      (operation .capabilities nofun).bind fun _ => Keeps.pure _
  | createIndex index settings override wait =>
    refine (Keeps.outcome _).bind fun body => ?_
    refine (operation (.createIndex index override (.ofFields? body)) nofun).bind fun ack => ?_
    cases wait with
    | true =>
      exact (operation (.waitForHealthyIndex index none) nofun).bind fun _ => Keeps.pure _
    | false => exact Keeps.pure _
  | awaitHealth index timeout =>
    exact (operation (.waitForHealthyIndex index (Span.ofJson? timeout)) nofun).bind fun _ =>
      Keeps.outcome _
  | refresh index => exact (operation (.refresh index) nofun).bind fun _ => Keeps.pure _
  | search query => exact (operation (.search query) nofun).bind fun _ => Keeps.outcome _
  | readField index query field size pathHint =>
    refine (Keeps.outcome _).bind fun filter => ?_
    exact (operation (.storedFields ⟨index, size, field, pathHint, .ofFields? filter⟩) nofun).bind
      fun _ => Keeps.pure _
  | putPipeline pipeline =>
    exact (operation (.putPipeline pipeline) nofun).bind fun _ => Keeps.pure _
  | findPipeline id =>
    exact (operation (.isExistingPipeline id) nofun).bind fun _ => Keeps.pure _

/-- A job leaves the connection open and takes back no request. -/
theorem Job.keeps_unclosed (session : Session α Float) (opening : List EngineGateway.Request)
    (files : Files) (job : Job) : Keeps (Unclosed opening) (job.run session files) := by
  refine job.keeps_run ?_ (fun call => ?_) files
  · intro c d _ sent closings unclosed
    exact ⟨sent ▸ unclosed.1, closings ▸ unclosed.2⟩
  · intro c unclosed
    obtain ⟨pending, now, asked⟩ := after_ask session.backend call c
    rw [asked]
    exact ⟨unclosed.1.trans (List.prefix_append _ _), unclosed.2⟩

/-- To close a session that made its connection sends the end of it, and counts that, too. -/
theorem run_closeOwned (own : session.ownsBackend = true) (c : Conversation α Float) :
    (Operation.closeOwned session).run.run c = (.ok (), { c with
      sent := c.sent ++ session.backend.closing.toList
      closings := c.closings ++ [(c.sent ++ session.backend.closing.toList).length] }) := by
  rw [Operation.closeOwned, if_pos own]
  rfl

/-- One closing, behind all requests. -/
theorem happened_of_closed (earlier : Nat) (requests : List EngineGateway.Request) :
    happened earlier requests [earlier + requests.length] = requests.map .sent ++ [.closed] := by
  simp [happened]

/-- The course of a job in a session of its own: a client was made, requests were sent, and the
client was closed. -/
theorem Course.history_of (session : Session α Float) (own : session.ownsBackend = true)
    (pending : List (Timed α Float)) (opening : List EngineGateway.Request) (files : Files)
    (job : Job) : ∃ requests,
      (Course.of session pending opening files job).history =
        .opened opening :: (requests.map .sent ++ [.closed]) ∧
      (Course.of session pending opening files job).sent = opening ++ requests := by
  have ended := job.keeps_unclosed session opening files
    { pending, now := 0, sent := opening } ⟨List.prefix_refl opening, rfl⟩
  unfold Course.of
  cases ran : (job.run session files).run.run { pending, now := 0, sent := opening } with
  | mk outcome after =>
    rw [ran] at ended
    obtain ⟨⟨asked, grown⟩, unclosed⟩ := ended
    let requests := asked ++ session.backend.closing.toList
    have sent : after.sent ++ session.backend.closing.toList = opening ++ requests := by
      rw [← grown, List.append_assoc]
    have once : after.closings ++ [(opening ++ requests).length] =
        [opening.length + requests.length] := by
      rw [List.length_append, show after.closings = [] from unclosed, List.nil_append]
    simp only [ran, run_closeOwned own, sent]
    refine ⟨requests, ?_, rfl⟩
    rw [List.drop_left, once, happened_of_closed]

end

/-- A course that failed before a client was made, or at the end of which the client is closed. -/
inductive Course.Settled (course : Course) : Prop where
  | unopened {failure : Failure} (failed : course.outcome = .error failure)
    (idle : course.history = []) (silent : course.sent = [])
  | closed {construction requests : List EngineGateway.Request}
    (history : course.history = .opened construction :: (requests.map .sent ++ [.closed]))
    (sent : course.sent = construction ++ requests)

/-- Whatever an invocation is and the engine answers, the course of it is settled. -/
theorem perform_settled (libraries : Libraries) (engine : Engine) (environment : Settings)
    (files : Files) (invocation : Invocation) :
    (perform libraries engine environment files invocation).Settled := by
  unfold perform
  split
  case h_1 failure _ => exact .unopened rfl rfl rfl
  case h_2 job settings _ =>
    unfold conduct
    split
    case h_1 failure _ => exact .unopened rfl rfl rfl
    case h_2 backend opening _ =>
      obtain ⟨requests, history, sent⟩ :=
        Course.history_of (Session.over backend settings true) rfl engine.rest opening files job
      exact .closed history sent
    case h_3 backend opening _ =>
      obtain ⟨requests, history, sent⟩ :=
        Course.history_of (Session.over backend settings true) rfl engine.client opening files job
      exact .closed history sent

section

variable {course : Course}

/-- A settled course in which the command failed at last. -/
theorem Course.Settled.raised (settled : course.Settled) (failure : Failure) :
    Disciplined (course.history ++ [.raised failure]) := by
  cases settled with
  | unopened failed idle silent =>
    rw [idle]
    exact .unopened failure
  | closed history sent =>
    rw [history, List.cons_append, List.append_assoc]
    exact .failed _ _ failure

/-- A settled course in which the command gave an object at last. -/
theorem Course.Settled.returned (settled : course.Settled) {payload : Fields}
    (gave : course.outcome = .ok payload) :
    Disciplined (course.history ++ [.returned payload, .emitted payload]) := by
  cases settled with
  | unopened failed idle silent => simp [failed] at gave
  | closed history sent =>
    rw [history, List.cons_append, List.append_assoc]
    exact .succeeded _ _ payload

/-- The requests of a settled course are those that its history tells of. -/
theorem Course.Settled.accounted (settled : course.Settled) :
    course.sent = course.history.flatMap Deed.requests := by
  cases settled with
  | unopened failed idle silent => rw [idle, silent, List.flatMap_nil]
  | @closed construction requests history sent =>
    have each : (requests.map Deed.sent).flatMap Deed.requests = requests := by
      rw [List.flatMap_map]
      exact List.flatMap_singleton' requests
    rw [sent, history, List.flatMap_cons, List.flatMap_append, each]
    exact (congrArg _ (List.append_nil requests)).symm

/-- How a command ended, and whether its object went to the output, is told behind the history of
its course. -/
theorem Course.Settled.not_mem (settled : course.Settled) :
    (∀ failure, Deed.raised failure ∉ course.history) ∧
      (∀ payload, Deed.returned payload ∉ course.history) ∧
        ∀ payload, Deed.emitted payload ∉ course.history := by
  cases settled with
  | unopened failed idle silent => simp [idle]
  | closed history sent => simp [history]

end

/-- In a history that is in order an object that was given goes to the output. -/
theorem Disciplined.emitted_of_returned {history : List Deed} (disciplined : Disciplined history)
    {payload : Fields} (returned : .returned payload ∈ history) : .emitted payload ∈ history := by
  cases disciplined with
  | idle => simp at returned
  | unopened failure => simp at returned
  | failed construction requests failure => simp at returned
  | succeeded construction requests given =>
    obtain rfl : payload = given := by simpa using returned
    simp

/-! ### Runs -/

/-- A command line is carried out on a machine: the environment gives settings, to whoever has these
the words are an invocation, there is a level for what is said, and a course comes of it. -/
inductive Performs (machine : Machine) (words : List Text) (invocation : Invocation)
    (course : Course) : Prop where
  | intro {environment : Settings} {level : LogLevel}
    (given : (Settings.ofEnvironment machine.environment Settings.variableStart).toExcept
      Settings.modelName = .ok environment)
    (asked : read environment words = .invocation invocation)
    (levelled : invocation.connection.logLevel.text?.bind LogLevel.ofName? = some level)
    (came : perform machine.libraries machine.engine environment machine.files invocation = course)

/-- What a run has to be for its history to be in order. -/
structure Run.Orderly (run : Run) (machine : Machine) (words : List Text) : Prop where
  disciplined : Disciplined run.history
  /-- The requests are those that the history tells of. -/
  accounted : run.sent = run.history.flatMap Deed.requests
  /-- The history begins with what happened while the command was carried out. -/
  begun : ∀ invocation course, Performs machine words invocation course →
    course.history <+: run.history ∧ run.sent = course.sent
  /-- It tells that the command failed exactly if that is what came of it. -/
  raised : ∀ failure, .raised failure ∈ run.history ↔
    ∃ invocation course, Performs machine words invocation course ∧ course.outcome = .error failure
  /-- It tells that the command gave an object exactly if that is what came of it. -/
  returned : ∀ payload, .returned payload ∈ run.history ↔
    ∃ invocation course, Performs machine words invocation course ∧ course.outcome = .ok payload
  /-- The exit code tells of a failure of the engine, and of nothing else. -/
  code : run.ending = .exit engineFailureCode ↔
    ∃ failure, .raised failure ∈ run.history ∧ failure.isEngineFailure = true
  /-- A command that failed shows nothing. -/
  failed : ∀ failure, .raised failure ∈ run.history →
    run.stdout = .text "" ∧ run.files = machine.files
  /-- Unless an object was handed to the output, nothing but the usage is shown, and no file is
  touched. -/
  untold : (∀ payload, .emitted payload ∉ run.history) →
    (run.stdout = .text "" ∨ run.stdout = .usage) ∧ run.files = machine.files
  /-- What is shown and written is the object that was handed to the output, at the place that the
  command line names for it. -/
  told : ∀ payload, .emitted payload ∈ run.history → ∃ invocation course,
    Performs machine words invocation course ∧ course.outcome = .ok payload ∧
      let written := emit (.data (.obj payload)) invocation.connection.output machine.files
      run.stdout = .text written.stdout ∧ run.files = written.files

section

variable {run : Run} {machine : Machine} {words : List Text} {environment : Settings}
  {invocation : Invocation} {level : LogLevel} {course : Course}

/-- One invocation at most is carried out, and one course comes of it. -/
theorem Performs.unique {other : Invocation} {otherCourse : Course}
    (performs : Performs machine words invocation course)
    (also : Performs machine words other otherCourse) :
    other = invocation ∧ otherCourse = course := by
  obtain ⟨given, asked, -, came⟩ := performs
  obtain ⟨alsoGiven, alsoAsked, -, alsoCame⟩ := also
  obtain rfl := Except.ok.inj (alsoGiven.symm.trans given)
  obtain rfl := Request.invocation.inj (alsoAsked.symm.trans asked)
  exact ⟨rfl, alsoCame.symm.trans came⟩

/-- So what is said of the course of a command line is said of the one that there is. -/
theorem Performs.exists_iff (performs : Performs machine words invocation course)
    (property : Course → Prop) :
    (∃ other otherCourse, Performs machine words other otherCourse ∧ property otherCourse) ↔
      property course := by
  constructor
  · rintro ⟨other, otherCourse, also, holds⟩
    obtain ⟨-, rfl⟩ := performs.unique also
    exact holds
  · exact fun holds => ⟨invocation, course, performs, holds⟩

/-- A run without deeds is orderly if nothing was carried out, it shows nothing but the usage and
does not tell of the engine. -/
theorem Run.Orderly.of_idle
    (idle : ∀ invocation course, ¬Performs machine words invocation course)
    (history : run.history = []) (sent : run.sent = [])
    (untold : (run.stdout = .text "" ∨ run.stdout = .usage) ∧ run.files = machine.files)
    (code : run.ending ≠ .exit engineFailureCode) : run.Orderly machine words where
  disciplined := history ▸ .idle
  accounted := by rw [sent, history, List.flatMap_nil]
  begun := fun invocation course performs => absurd performs (idle invocation course)
  raised := by simp [history, idle]
  returned := by simp [history, idle]
  code := by simp [code, history]
  failed := by simp [history]
  untold := fun _ => untold
  told := by simp [history]

/-- A run of a command that failed is orderly if it shows nothing and if its end tells of the engine
only where the failure is one of the engine. -/
theorem Run.Orderly.of_raised (performs : Performs machine words invocation course)
    (settled : course.Settled) {failure : Failure} (failed : course.outcome = .error failure)
    (history : run.history = course.history ++ [.raised failure]) (sent : run.sent = course.sent)
    (quiet : run.stdout = .text "" ∧ run.files = machine.files)
    (tells : run.ending = .exit engineFailureCode ↔ failure.isEngineFailure = true) :
    run.Orderly machine words := by
  obtain ⟨unraised, unreturned, unemitted⟩ := settled.not_mem
  have raised (other : Failure) : .raised other ∈ run.history ↔ other = failure := by
    simp [history, unraised]
  exact
    { disciplined := history ▸ settled.raised failure
      accounted := by simp [sent, history, settled.accounted, Deed.requests]
      begun := fun other otherCourse also => by
        obtain ⟨-, rfl⟩ := performs.unique also
        exact ⟨history ▸ List.prefix_append _ _, sent⟩
      raised := fun other => by
        rw [raised, performs.exists_iff fun course => course.outcome = .error other, failed]
        simp [eq_comm]
      returned := fun payload => by
        rw [performs.exists_iff fun course => course.outcome = .ok payload, failed]
        simp [history, unreturned]
      code := by simp [tells, raised]
      failed := fun _ _ => quiet
      untold := fun _ => ⟨.inl quiet.1, quiet.2⟩
      told := fun payload member => by simp [history, unemitted] at member }

/-- A run of a command that gave an object is orderly if it shows and writes what becomes of the
object. -/
theorem Run.Orderly.of_returned (performs : Performs machine words invocation course)
    (settled : course.Settled) {payload : Fields} (gave : course.outcome = .ok payload)
    (history : run.history = course.history ++ [.returned payload, .emitted payload])
    (sent : run.sent = course.sent)
    (shown : run.stdout =
      .text (emit (.data (.obj payload)) invocation.connection.output machine.files).stdout)
    (written : run.files =
      (emit (.data (.obj payload)) invocation.connection.output machine.files).files)
    (code : run.ending ≠ .exit engineFailureCode) : run.Orderly machine words := by
  obtain ⟨unraised, unreturned, unemitted⟩ := settled.not_mem
  have emitted (other : Fields) : .emitted other ∈ run.history ↔ other = payload := by
    simp [history, unemitted]
  exact
    { disciplined := history ▸ settled.returned gave
      accounted := by simp [sent, history, settled.accounted, Deed.requests]
      begun := fun other otherCourse also => by
        obtain ⟨-, rfl⟩ := performs.unique also
        exact ⟨history ▸ List.prefix_append _ _, sent⟩
      raised := fun failure => by
        rw [performs.exists_iff fun course => course.outcome = .error failure, gave]
        simp [history, unraised]
      returned := fun other => by
        rw [performs.exists_iff fun course => course.outcome = .ok other, gave]
        simp [history, unreturned, eq_comm]
      code := by simp [code, history, unraised]
      failed := fun failure member => by simp [history, unraised] at member
      untold := fun untold => absurd ((emitted payload).2 rfl) (untold payload)
      told := fun other member => by
        rw [(emitted other).1 member]
        exact ⟨invocation, course, performs, gave, shown, written⟩ }

/-- What is written to a file is not shown. -/
theorem stdout_emitText_of_named {path : Text} (named : path ≠ "-") (text : Text) (files : Files) :
    (emitText text (.str path) files).stdout = "" := by
  have other : ¬(path == "-") = true := fun same => named (beq_iff_eq.1 same)
  rw [emitText, if_neg other]
  unfold emitToFile
  dsimp only
  split <;> rfl

/-- What cannot be written is not shown either. -/
theorem stdout_of_fault {payload : Payload} {output : Json} {files : Files} {failure : Failure}
    (faulty : (emit payload output files).fault = some failure) :
    (emit payload output files).stdout = "" := by
  unfold emit at faulty ⊢
  split
  case h_1 => rfl
  case h_2 textual =>
    rw [textual] at faulty
    cases output with
    | str path =>
      refine stdout_emitText_of_named ?_ payload.serialized files
      rintro rfl
      cases faulty
    | _ => rfl

/-- The run of an invocation is orderly. -/
theorem runAtLevel_orderly (environment : Settings) (level : LogLevel)
    (performs : Performs machine words invocation (perform machine.libraries machine.engine
      environment machine.files invocation)) :
    (runAtLevel machine environment invocation level).Orderly machine words := by
  have settled :=
    perform_settled machine.libraries machine.engine environment machine.files invocation
  unfold runAtLevel
  cases came : (perform machine.libraries machine.engine environment machine.files
    invocation).outcome with
  | error failure =>
    cases ofEngine : failure.isEngineFailure with
    | true =>
      simp only [came, ofEngine, if_true]
      exact .of_raised performs settled came rfl rfl ⟨rfl, rfl⟩ (by simp [ofEngine])
    | false =>
      simp only [came, ofEngine, Bool.false_eq_true, if_false]
      exact .of_raised performs settled came rfl rfl ⟨rfl, rfl⟩ (by simp [ofEngine])
  | ok payload =>
    simp only [came]
    split
    case h_1 =>
      exact .of_returned performs settled came rfl rfl rfl rfl (by simp [engineFailureCode])
    case h_2 failure faulty =>
      exact .of_returned performs settled came rfl rfl
        (congrArg Printed.text (stdout_of_fault faulty).symm) rfl nofun

end

/-- Runs are disciplined. Whatever the command line, the environment, the files and the answers of
the engine are, a run makes one client at most; it closes a client that it made once, behind all
requests and before the command gives its object or fails; the history tells that it gave an object
or failed exactly if that is what came of the invocation that the command line is; an object goes to
the output only when the command gave it, and to the place that the command line names; the exit
code tells of a failure of the engine exactly if that is how the command failed; and a command that
failed leaves the standard output empty and the files as they were. -/
theorem runs_are_disciplined (machine : Machine) (words : List Text) :
    (run machine words).Orderly machine words := by
  unfold run
  cases settings : (Settings.ofEnvironment machine.environment Settings.variableStart).toExcept
      Settings.modelName with
  | error failure =>
    refine .of_idle ?_ rfl rfl ⟨.inl rfl, rfl⟩ nofun
    rintro invocation course ⟨given, -, -, -⟩
    cases settings.symm.trans given
  | ok environment =>
    have idle (other : Request) (asked : read environment words = other)
        (none : ∀ invocation, other ≠ .invocation invocation) :
        ∀ invocation course, ¬Performs machine words invocation course := by
      rintro invocation course ⟨given, alsoAsked, -, -⟩
      obtain rfl := Except.ok.inj (settings.symm.trans given)
      exact none invocation (asked.symm.trans alsoAsked)
    dsimp only
    cases asked : read environment words with
    | help =>
      exact .of_idle (idle _ asked nofun) rfl rfl ⟨.inr rfl, rfl⟩ (by simp [engineFailureCode])
    | refused =>
      exact .of_idle (idle _ asked nofun) rfl rfl ⟨.inl rfl, rfl⟩
        (by simp [engineFailureCode, refusedCode])
    | bare =>
      exact .of_idle (idle _ asked nofun) rfl rfl ⟨.inr rfl, rfl⟩ (by simp [engineFailureCode])
    | invocation invocation =>
      change (runInvocation machine environment invocation).Orderly machine words
      unfold runInvocation
      cases levelled : invocation.connection.logLevel.text?.bind LogLevel.ofName? with
      | some level =>
        exact runAtLevel_orderly environment level (.intro settings asked levelled rfl)
      | none =>
        refine .of_idle ?_ rfl rfl ⟨.inl rfl, rfl⟩ nofun
        rintro other course ⟨given, alsoAsked, alsoLevelled, -⟩
        obtain rfl := Except.ok.inj (settings.symm.trans given)
        obtain rfl := Request.invocation.inj (asked.symm.trans alsoAsked)
        cases levelled.symm.trans alsoLevelled

/-- The command line that refreshes an index and has a file made of what comes of it. -/
def refreshing : List Text :=
  ["refresh", "--backend", "http", "--backend-url", "http://engine", "--index", "i",
    "--output", "out"]

/-- A machine on which the engine says yes once. -/
def agreeing : Machine := { engine := { rest := [⟨.answered (.int 200) [], 0⟩] } }

/-- Where the engine says nothing the command fails after its request: the exit code tells of that,
and neither is anything shown nor a file touched. Where the engine says yes the command gives an
acknowledgement, which goes to the file and is not shown. -/
theorem refresh_fails_and_succeeds :
    let request : EngineGateway.Request := .http "POST" "/i/_refresh" none
    let payload : Fields := ({ resource := "i" } : Acknowledgement).toFields
    let silent := run {} refreshing
    let answered := run agreeing refreshing
    (silent.history = [.opened [], .sent request, .closed,
        .raised (.unreachable "ConnectError" exhausted)] ∧
      silent.ending = .exit engineFailureCode ∧ silent.stdout = .text "" ∧ silent.files = {}) ∧
    [.opened [], .sent request, .closed] <+: answered.history ∧
      .returned payload ∈ answered.history ∧ answered.stdout = .text "" ∧
      answered.files = (emit (.data (.obj payload)) (.str "out") {}).files := by
  intro request payload silent answered
  have failing : silent.Orderly {} refreshing := runs_are_disciplined {} refreshing
  have succeeding : answered.Orderly agreeing refreshing :=
    runs_are_disciplined agreeing refreshing
  have failed : silent.history = [.opened [], .sent request, .closed,
      .raised (.unreachable "ConnectError" exhausted)] := rfl
  have raised : .raised (.unreachable "ConnectError" exhausted) ∈ silent.history := by
    simp [failed]
  have performs : Performs agreeing refreshing _ _ := .intro rfl rfl rfl rfl
  have returned : .returned payload ∈ answered.history :=
    (succeeding.returned payload).2 ⟨_, _, performs, rfl⟩
  obtain ⟨invocation, course, also, -, shown, written⟩ :=
    succeeding.told payload (succeeding.disciplined.emitted_of_returned returned)
  obtain ⟨rfl, rfl⟩ := performs.unique also
  refine ⟨⟨failed, failing.code.2 ⟨_, raised, rfl⟩, failing.failed _ raised⟩,
    (succeeding.begun _ _ performs).1, returned, ?_, written⟩
  rw [shown]
  exact congrArg Printed.text (stdout_emitText_of_named (by decide) _ _)

end EngineGateway.Cli
