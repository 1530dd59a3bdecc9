import EngineGateway.Proofs.Rest.Reaching
import EngineGateway.Proofs.Rest.Rendering
import EngineGateway.Proofs.Session.ExactTime
import EngineGateway.Proofs.Session.Finding

/-!
# Finding out the version early or late

A session finds out the version of the engine when an operation first needs it. Whether it is found
out then or was found out before makes no difference to what the operations come to and to what they
ask on their own account, as long as the engine always says the same of itself. The one exception
is a connection that was closed for good: over it the version cannot be found out any more, so an
operation that needs nothing else of the engine still succeeds where the version is known, and fails
where it is not.
-/

namespace EngineGateway

open Session Talk

variable {α τ : Type}

/-! ### Courses of errands -/

/-- What is done in a course: an errand, which is an operation with the answers to its own requests,
or a look at the version or at what follows from it. -/
inductive Visit (α τ : Type) where
  | errand (operation : Operation τ) (answers : List (Timed α τ))
  | detectVersion
  | capabilities

namespace Visit

/-- The operation of a visit. -/
def operation : Visit α τ → Operation τ
  | .errand operation _ => operation
  | .detectVersion => .detectVersion
  | .capabilities => .capabilities

/-- The answers to its own requests. -/
def answers : Visit α τ → List (Timed α τ)
  | .errand _ answers => answers
  | .detectVersion | .capabilities => []

/-- Whether a visit is an errand. -/
def isErrand : Visit α τ → Bool
  | .errand .. => true
  | .detectVersion | .capabilities => false

/-- A conversation where the answers to a visit are to come. If the session has to ask who the
engine is, it does so first, and `info` is the answer. -/
def awaited (visit : Visit α τ) (info : Timed α τ) (c : Conversation α τ) : Conversation α τ :=
  { c with pending :=
      if visit.operation.needsVersion && c.memory.version.isNone then info :: visit.answers
      else visit.answers }

end Visit

/-- What came of an operation: its outcome and its own requests. -/
structure Report (τ : Type) where
  operation : Operation τ
  outcome : Except Failure operation.Result
  requests : List Request

/-- An operation and the conversation in which it is carried out. -/
structure Attempt (α τ : Type) where
  operation : Operation τ
  before : Conversation α τ

section

variable [Seconds τ]

/-- What comes of an operation where it is carried out. -/
def Attempt.report (session : Session α τ) (attempt : Attempt α τ) : Report τ where
  operation := attempt.operation
  outcome := ((attempt.operation.run session).run.run attempt.before).1
  requests := session.backend.ownRequests attempt.before
    ((attempt.operation.run session).run.run attempt.before).2

/-- The errands of a course, each with the conversation in which it is carried out. -/
def Session.attempts (session : Session α τ) (info : Timed α τ) :
    List (Visit α τ) → Conversation α τ → List (Attempt α τ)
  | [], _ => []
  | visit :: rest, c =>
    let before := visit.awaited info c
    let later := session.attempts info rest ((visit.operation.run session).run.run before).2
    if visit.isErrand then ⟨visit.operation, before⟩ :: later else later

/-- At one attempt the version is not known that is known at the other, and it makes a difference:
the operation has to find it out over a connection that was closed for good, or it is to tell what
is known. -/
def Attempt.Behind (session : Session α τ) (late early : Attempt α τ) : Prop :=
  late.before.memory.version = none ∧ early.before.memory.version ≠ none ∧
    (late.operation = .detectedVersion ∨
      (late.operation.needsVersion = true ∧ Shut session.backend late.before ∧
        (late.report session).outcome = .error .closed))

/-- What comes of an operation at two attempts is the same, unless what is not known at the one
makes a difference. Its own requests are always the same. -/
structure Agrees (session : Session α τ) (late early : Attempt α τ) : Prop where
  operation : late.operation = early.operation
  requests : (late.report session).requests = (early.report session).requests
  outcome : late.report session = early.report session ∨ late.Behind session early

end

/-! ### A course of operations -/

/-- Two conversations of which the second may be ahead in what is known of the engine, and in
nothing else that matters. -/
structure Alongside (backend : Backend α) (version : Version) (c d : Conversation α τ) : Prop where
  now : c.now = d.now
  closed : c.closed = d.closed
  late : c.memory = {} ∨ c.memory.Aware version
  early : d.memory = {} ∨ d.memory.Aware version
  ahead : c.memory.Aware version → d.memory.Aware version
  written : d.memory.Aware version → ∃ request, backend.encode .info = .ok request

section

variable {info : Timed α τ} {version : Version} {c d : Conversation α τ} {operation : Operation τ}
  {own : List (Timed α τ)} {backend : Backend α}

/-- Where the version is known, only the answers to a visit's own requests are to come. -/
theorem Poised.of_aware (visit : Visit α τ) (aware : c.memory.Aware version) :
    Poised backend version info visit.answers (visit.awaited info c) :=
  .aware aware (by simp [Visit.awaited, aware.1])

/-- Where it is not, the answer that tells it comes before them. -/
theorem Poised.of_unknown {visit : Visit α τ} (needed : visit.operation.needsVersion = true)
    (unknown : c.memory = {}) {request : Request} (written : backend.encode .info = .ok request)
    (passable : (backend.closesForGood && c.closed) = false) :
    Poised backend version info visit.answers (visit.awaited info c) := by
  refine .asking unknown ?_ written ?_
  · simp [Visit.awaited, needed, unknown]
  · change ¬(backend.closesForGood && c.closed) = true
    rw [passable]
    exact Bool.false_ne_true

/-- What comes of two conversations is alongside if nothing is learned on either side. -/
theorem Alongside.kept (alongside : Alongside backend version c d) {after after' : Conversation α τ}
    (now : after.now = after'.now) (closed : after.closed = after'.closed)
    (memory : after.memory = c.memory) (memory' : after'.memory = d.memory) :
    Alongside backend version after after' where
  now := now
  closed := closed
  late := by rw [memory]; exact alongside.late
  early := by rw [memory']; exact alongside.early
  ahead := by rw [memory, memory']; exact alongside.ahead
  written := by rw [memory']; exact alongside.written

variable {session : Session α τ} {δ : Type} {find : Talk α τ δ} {result : Except Failure δ}

/-- So are two conversations where the same answers are to come. -/
theorem Alongside.awaited (alongside : Alongside backend version c d) (visit : Visit α τ)
    (info : Timed α τ) :
    Alongside backend version (visit.awaited info c) (visit.awaited info d) :=
  alongside.kept alongside.now alongside.closed rfl rfl

/-- A look at the version that only the second side takes. -/
theorem Alongside.look (alongside : Alongside session.backend version c d) {visit : Visit α τ}
    (needed : visit.operation.needsVersion = true)
    (finder : Finder session info version find result) :
    Alongside session.backend version c (find.run.run (visit.awaited info d)).2 := by
  have learned {request : Request} (written : session.backend.encode .info = .ok request)
      (poised : Poised session.backend version info visit.answers (visit.awaited info d)) :
      Alongside session.backend version c (find.run.run (visit.awaited info d)).2 := by
    obtain ⟨after, ran, found⟩ := finder.finds poised
    rw [ran]
    exact {
      now := alongside.now.trans found.now.symm
      closed := alongside.closed.trans found.closed.symm
      late := alongside.late
      early := Or.inr found.aware
      ahead := fun _ => found.aware
      written := fun _ => ⟨request, written⟩ }
  obtain unknown | aware := alongside.early
  · obtain ⟨failure, refused⟩ | ⟨request, written, passable⟩ :=
      session.backend.refused_or d.closed
    · have failed : find.run.run (visit.awaited info d) = (.error (versionFailure failure), _) :=
        finder.fails unknown refused
      rw [failed]
      exact alongside.kept alongside.now alongside.closed rfl rfl
    · exact learned written (.of_unknown needed unknown written passable)
  · obtain ⟨request, written⟩ := alongside.written aware
    exact learned written (.of_aware visit aware)

variable [Seconds τ]

/-- What an errand comes to where it is done late and where it is done early. -/
structure Accords (session : Session α τ) (version : Version) (late early : Attempt α τ) :
    Prop where
  agrees : Agrees session late early
  alongside : Alongside session.backend version
    ((late.operation.run session).run.run late.before).2
    ((early.operation.run session).run.run early.before).2

/-- An operation that needs no knowledge of the engine does not notice what is known. -/
theorem Alongside.independent (alongside : Alongside session.backend version c d)
    (independent : operation.needsVersion = false) (proper : operation ≠ .detectedVersion) :
    Accords session version ⟨operation, (Visit.errand operation own).awaited info c⟩
      ⟨operation, (Visit.errand operation own).awaited info d⟩ := by
  have level : Level ((Visit.errand operation own).awaited info c)
      ((Visit.errand operation own).awaited info d) := by
    refine ⟨?_, alongside.now, alongside.closed⟩
    simp [Visit.awaited, Visit.operation, independent]
  have oblivious : Oblivious session.backend False _ (operation.run session) :=
    Operation.oblivious_run independent proper
  have parallel := oblivious _ _ level trivial trivial
  obtain ⟨turns, requests, added, added', others, -⟩ := parallel.added
  have same := (session.backend.ownRequests_of_added added others).trans
    (session.backend.ownRequests_of_added added' others).symm
  refine ⟨⟨rfl, same, Or.inl ?_⟩, ?_⟩
  · simp only [Attempt.report, parallel.outcome, same]
  · exact alongside.kept parallel.level.now parallel.level.closed parallel.memory.1
      parallel.memory.2

/-- To look at what is known is no more than that. -/
theorem Alongside.detectedVersion (alongside : Alongside session.backend version c d) :
    Accords session version ⟨.detectedVersion, c⟩ ⟨.detectedVersion, d⟩ := by
  have nothing (c : Conversation α τ) : session.backend.ownRequests c c = [] :=
    session.backend.ownRequests_of_added (.nothing rfl rfl) (by simp)
  have same := (nothing c).trans (nothing d).symm
  have alike (known : c.memory.version = d.memory.version) :
      Attempt.report session ⟨.detectedVersion, c⟩ = Attempt.report session ⟨.detectedVersion, d⟩ :=
    congrArg₂ (Report.mk .detectedVersion) (congrArg Except.ok known) same
  refine ⟨⟨rfl, same, ?_⟩, alongside.kept alongside.now alongside.closed rfl rfl⟩
  obtain unknown | aware := alongside.late
  · have untold : c.memory.version = none := by rw [unknown]
    cases known : d.memory.version with
    | none => exact Or.inl (alike (untold.trans known.symm))
    | some early =>
      have told : d.memory.version ≠ none := known ▸ Option.some_ne_none early
      exact Or.inr ⟨untold, told, Or.inl rfl⟩
  · exact Or.inl (alike (aware.1.trans (alongside.ahead aware).1.symm))

/-- Where the version can be found out on both sides, an operation that has to know it comes to the
same, and then it is known on both. -/
theorem Settled.accords {c d : Conversation α τ}
    (settled : Settled session.backend version c d ((operation.run session).run.run c)
      ((operation.run session).run.run d)) {request : Request}
    (written : session.backend.encode .info = .ok request) :
    Accords session version ⟨operation, c⟩ ⟨operation, d⟩ where
  agrees := ⟨rfl, settled.requests, Or.inl (by
    simp only [Attempt.report, settled.outcome, settled.requests])⟩
  alongside := ⟨settled.now, settled.closed, Or.inr settled.aware.1, Or.inr settled.aware.2,
    fun _ => settled.aware.2, fun _ => ⟨request, written⟩⟩

/-- Nothing is remembered, or the version is, not both. -/
theorem Memory.Aware.ne_empty {memory : Memory} (aware : memory.Aware version) : memory ≠ {} := by
  rintro rfl
  cases aware.1

/-- Where the engine cannot be asked, an operation that has to know it asks nothing of its own. -/
theorem FindsFirst.ownRequests_of_refused (finds : FindsFirst session version find
    (operation.run session)) (finder : Finder session info version find result)
    (unknown : c.memory = {}) {failure : Failure}
    (refused : Refused session.backend c.closed failure) :
    session.backend.ownRequests c ((operation.run session).run.run c).2 = [] := by
  obtain ⟨log, ran⟩ := finds.refused finder unknown refused
  rw [ran]
  refine session.backend.ownRequests_of_asked ⟨rfl, ?_⟩
  rw [refused.requestsOf_eq]
  exact (List.append_nil c.sent).symm

/-- An operation that has to know the version fails alike where it is not known on either side and
the engine cannot be asked. -/
theorem Alongside.bothRefused (alongside : Alongside session.backend version c d)
    (finds : FindsFirst session version find (operation.run session))
    (finder : Finder session info version find result) (unknown : c.memory = {})
    (unknown' : d.memory = {}) {failure : Failure}
    (refused : Refused session.backend c.closed failure) :
    Accords session version ⟨operation, c⟩ ⟨operation, d⟩ := by
  have refused' : Refused session.backend d.closed failure := alongside.closed ▸ refused
  have same := (finds.ownRequests_of_refused finder unknown refused).trans
    (finds.ownRequests_of_refused finder unknown' refused').symm
  obtain ⟨log, ran⟩ := finds.refused finder unknown refused
  obtain ⟨log', ran'⟩ := finds.refused finder unknown' refused'
  have outcome : ((operation.run session).run.run c).1 = ((operation.run session).run.run d).1 := by
    rw [ran, ran']
  refine ⟨⟨rfl, same, Or.inl (by simp only [Attempt.report, outcome, same])⟩, ?_⟩
  change Alongside session.backend version ((operation.run session).run.run c).2
    ((operation.run session).run.run d).2
  rw [ran, ran']
  exact alongside.kept alongside.now alongside.closed rfl rfl

/-- Over a connection that was closed for good, an operation that has to know the version fails
where it is not known, and asks nothing of its own where it is. -/
theorem Alongside.lateRefused (alongside : Alongside session.backend version c d)
    (needed : operation.needsVersion = true)
    (finds : FindsFirst session version find (operation.run session))
    (finder : Finder session info version find result) (unknown : c.memory = {})
    (aware : d.memory.Aware version) {request : Request}
    (written : session.backend.encode .info = .ok request) (shut : Shut session.backend c) :
    Accords session version ⟨operation, c⟩ ⟨operation, d⟩ := by
  have shut' : Shut session.backend d := by
    rw [Shut, ← alongside.closed]
    exact shut
  have refused : Refused session.backend c.closed .closed := .shut written shut
  have settled := finds.settled finder (.aware aware rfl) (.aware aware rfl) rfl rfl
  obtain ⟨nothing, now, closed⟩ := settled.rests shut'
  have untold : c.memory.version = none := by rw [unknown]
  have told : d.memory.version ≠ none := aware.1 ▸ Option.some_ne_none version
  obtain ⟨log, ran⟩ := finds.refused finder unknown refused
  have failed : ((operation.run session).run.run c).1 = .error .closed := by
    rw [ran]
    rfl
  refine ⟨⟨rfl, (finds.ownRequests_of_refused finder unknown refused).trans nothing.symm,
    Or.inr ⟨untold, told, Or.inr ⟨needed, shut, failed⟩⟩⟩, ?_⟩
  change Alongside session.backend version ((operation.run session).run.run c).2
    ((operation.run session).run.run d).2
  rw [ran]
  exact {
    now := alongside.now.trans now.symm
    closed := alongside.closed.trans closed.symm
    late := Or.inl unknown
    early := Or.inr settled.aware.1
    ahead := fun _ => settled.aware.1
    written := fun _ => ⟨request, written⟩ }

/-- An operation that has to know the version. -/
theorem Alongside.needing (alongside : Alongside session.backend version c d)
    (needed : operation.needsVersion = true)
    (finds : FindsFirst session version find (operation.run session))
    (finder : Finder session info version find result) :
    Accords session version ⟨operation, (Visit.errand operation own).awaited info c⟩
      ⟨operation, (Visit.errand operation own).awaited info d⟩ := by
  let visit := Visit.errand operation own
  have prepared := alongside.awaited visit info
  obtain ⟨failure, refused⟩ | ⟨request, written, passable⟩ :=
    session.backend.refused_or c.closed
  · obtain unknown' | aware' := alongside.early
    · have unknown : c.memory = {} :=
        alongside.late.resolve_right fun aware => (alongside.ahead aware).ne_empty unknown'
      exact prepared.bothRefused finds finder unknown unknown' refused
    · obtain ⟨request, written⟩ := alongside.written aware'
      obtain unknown | aware := alongside.late
      · -- the question was asked on the other side, so here only the connection is in its way
        have shut : Shut session.backend c := by
          cases refused with
          | unwritten unwritten => cases unwritten.symm.trans written
          | shut _ shut => exact shut
        exact prepared.lateRefused needed finds finder unknown aware' written shut
      · exact (finds.settled finder (.of_aware visit aware) (.of_aware visit aware') alongside.now
          alongside.closed).accords written
  · have passable' : (session.backend.closesForGood && d.closed) = false :=
      alongside.closed ▸ passable
    have poised : Poised session.backend version info visit.answers (visit.awaited info c) :=
      alongside.late.elim (.of_unknown needed · written passable) (.of_aware visit)
    have poised' : Poised session.backend version info visit.answers (visit.awaited info d) :=
      alongside.early.elim (.of_unknown needed · written passable') (.of_aware visit)
    exact (finds.settled finder poised poised' alongside.now alongside.closed).accords written

/-- Every errand. -/
theorem Alongside.errand (alongside : Alongside session.backend version c d)
    (detects : Finder session info version session.detectVersion (.ok version))
    (operation : Operation τ) (own : List (Timed α τ)) :
    Accords session version ⟨operation, (Visit.errand operation own).awaited info c⟩
      ⟨operation, (Visit.errand operation own).awaited info d⟩ := by
  cases needed : operation.needsVersion with
  | false =>
    by_cases looks : operation = .detectedVersion
    · subst looks
      exact (alongside.awaited (.errand .detectedVersion own) info).detectedVersion
    · exact alongside.independent needed looks
  | true =>
    obtain finds | finds := Operation.findsFirst_run needed version
    · exact alongside.needing needed finds detects
    · exact alongside.needing needed finds (finder_capabilities detects)

/-- Every course of errands, with or without looks between them. -/
theorem Alongside.attempts (alongside : Alongside session.backend version c d)
    (detects : Finder session info version session.detectVersion (.ok version))
    (visits : List (Visit α τ)) :
    List.Forall₂ (Agrees session) (session.attempts info (visits.filter Visit.isErrand) c)
      (session.attempts info visits d) := by
  induction visits generalizing c d with
  | nil => exact .nil
  | cons visit rest inductionHypothesis =>
    -- an errand takes both sides one step on, a look only the second
    cases visit with
    | errand operation own =>
      have accords := alongside.errand detects operation own
      exact .cons accords.agrees (inductionHypothesis accords.alongside)
    | detectVersion => exact inductionHypothesis (alongside.look rfl detects)
    | capabilities => exact inductionHypothesis (alongside.look rfl (finder_capabilities detects))

end

/-- It makes no difference when a session finds out the version of the engine. Looks at the
version, or at what follows from it, may be taken anywhere between the errands of a course: every
operation has the same requests of its own, in the same order, and comes to the same, but for an
operation that has to find out the version over a connection that was closed for good, and for the
operation that only tells what is known. -/
theorem early_detection_makes_no_difference [Seconds τ] (session : Session α τ) {info : Timed α τ}
    {payload : Json} {version : Version}
    (told : session.backend.decode .info info.answer = .ok payload)
    (names : Version.ofInfo payload = .ok version)
    (timeless : ∀ now, Seconds.add now info.delay = now) (visits : List (Visit α τ)) (now : τ) :
    List.Forall₂ (Agrees session)
      (session.attempts info (visits.filter Visit.isErrand) (.start [] now))
      (session.attempts info visits (.start [] now)) := by
  have alongside : Alongside session.backend version (.start [] now) (.start [] now) := {
    now := rfl
    closed := rfl
    late := Or.inl rfl
    early := Or.inl rfl
    ahead := id
    written := fun aware => absurd rfl aware.ne_empty }
  exact alongside.attempts (finder_detectVersion told names timeless) visits

/-- A session over HTTP. -/
def overHttp : Session Rest.Answer ℚ := unhurried (Rest.backend Rest.simplest)

/-- An engine over HTTP that says at once that its version is 8.11.0. -/
def saysEight : Timed Rest.Answer ℚ := ⟨.answered (.int 200) (Text.Octets.encode eightText), 0⟩

/-- It is read as it is meant. -/
theorem decode_saysEight : overHttp.backend.decode .info saysEight.answer = .ok namesEight :=
  Rest.decode_eightText

/-- It makes none to a look for an index that is missing, and to the question whether the engine
knows pipelines, before the session is closed and after it. -/
theorem early_detection_makes_no_difference_to_a_missing_index :
    let visits : List (Visit Rest.Answer ℚ) :=
      [.errand (.isExistingIndex (.str "i")) [⟨Rest.bodiless 404, 1 / 10⟩], .capabilities,
        .errand .isIngestSupported [], .detectVersion, .errand .close [],
        .errand .isIngestSupported []]
    (overHttp.backend.decode .info saysEight.answer = .ok namesEight ∧
        Version.ofInfo namesEight = .ok { major := 8, minor := 11 } ∧
        ∀ now, Seconds.add now saysEight.delay = now) ∧
      List.Forall₂ (Agrees overHttp)
        (overHttp.attempts saysEight (visits.filter Visit.isErrand) (.start [] 0))
        (overHttp.attempts saysEight visits (.start [] 0)) :=
  ⟨⟨decode_saysEight, rfl, add_zero⟩,
    early_detection_makes_no_difference overHttp decode_saysEight rfl add_zero _ 0⟩

/-- What comes of the errands of a course is the same with the looks in it and without them. -/
def Session.Indifferent [Seconds τ] (session : Session α τ) (info : Timed α τ)
    (visits : List (Visit α τ)) : Prop :=
  ∀ now, (session.attempts info (visits.filter Visit.isErrand) (.start [] now)).map
      (Attempt.report session) =
    (session.attempts info visits (.start [] now)).map (Attempt.report session)

/-- A course in which a session is closed before it is asked whether its engine knows pipelines. -/
def closedBetween : List (Visit Rest.Answer ℚ) :=
  [.detectVersion, .errand .close [], .errand .isIngestSupported []]

/-- A course in which a session is asked what is known. -/
def lookedBetween : List (Visit Rest.Answer ℚ) := [.detectVersion, .errand .detectedVersion []]

/-- With the version found out first, a course goes on from a conversation in which it is known. -/
theorem exists_knowing (visits : List (Visit Rest.Answer ℚ)) :
    ∃ after : Conversation Rest.Answer ℚ,
      after.memory = { version := some { major := 8, minor := 11 } } ∧
      overHttp.attempts saysEight (.detectVersion :: visits) (.start [] 0) =
        overHttp.attempts saysEight visits after := by
  have detected : ∃ after,
      overHttp.detectVersion.run.run (Visit.detectVersion.awaited saysEight (.start [] 0)) =
        (.ok { major := 8, minor := 11 }, after) ∧
      after.memory = { version := some { major := 8, minor := 11 } } := by
    rw [run_detectVersion_of_unknown overHttp rfl, run_ask_of_answer rfl rfl rfl]
    simp only [decode_saysEight]
    exact ⟨_, rfl, rfl⟩
  obtain ⟨after, ran, known⟩ := detected
  refine ⟨after, known, ?_⟩
  change overHttp.attempts saysEight visits (overHttp.detectVersion.run.run _).2 = _
  rw [ran]

/-- That the version was found out shows in two ways. It outlives the connection: after the session
was closed it still answers what follows from the version, and a session that did not ask in time
fails. And it is told to who asks what is known. -/
theorem knowledge_shows :
    (overHttp.backend.decode .info saysEight.answer = .ok namesEight ∧
        Version.ofInfo namesEight = .ok { major := 8, minor := 11 } ∧
        ∀ now, Seconds.add now saysEight.delay = now) ∧
      ¬overHttp.Indifferent saysEight closedBetween ∧
      ¬overHttp.Indifferent saysEight lookedBetween := by
  refine ⟨⟨decode_saysEight, rfl, add_zero⟩, fun indifferent => ?_, fun indifferent => ?_⟩
  · have same := indifferent 0
    obtain ⟨after, known, early⟩ :=
      exists_knowing [.errand .close [], .errand .isIngestSupported []]
    rw [closedBetween, early] at same
    obtain ⟨pending, moment, sent, sleeps, log, closings, memory, turns⟩ := after
    subst known
    have succeeded := congrArg (List.map fun report => report.outcome.isOk) same
    cases succeeded
  · have same := indifferent 0
    obtain ⟨after, known, early⟩ := exists_knowing [.errand .detectedVersion []]
    rw [lookedBetween, early] at same
    obtain ⟨pending, moment, sent, sleeps, log, closings, memory, turns⟩ := after
    subst known
    cases same

end EngineGateway
