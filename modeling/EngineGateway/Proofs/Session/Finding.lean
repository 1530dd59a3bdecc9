import EngineGateway.Proofs.Session.Oblivious

/-!
# Finding something out

An operation may have to find out the version of the engine first. It asks, if the version is not
remembered, and goes on the same way whether it had to ask or not. Its own requests are those that
it makes beside that question. Where the engine cannot be asked it fails and requests nothing.
-/

namespace EngineGateway

open Session Talk

variable {α τ : Type}

/-! ### What is remembered -/

/-- The version is remembered, and beside it nothing but what follows from it. -/
def Memory.Aware (version : Version) (memory : Memory) : Prop :=
  memory.version = some version ∧
    ∀ able, memory.capabilities = some able → capabilitiesOf version = .ok able

/-- A session may be asked to find out the version: it knows it, or it can ask and the answer is the
first to come. -/
inductive Poised (backend : Backend α) (version : Version) (info : Timed α τ)
    (own : List (Timed α τ)) (c : Conversation α τ) : Prop where
  | aware (aware : c.memory.Aware version) (pending : c.pending = own)
  | asking {request : Request} (unknown : c.memory = {}) (pending : c.pending = info :: own)
    (written : backend.encode .info = .ok request) (unshut : ¬Shut backend c)

/-- The version was found out, and nothing else happened. -/
structure Found (backend : Backend α) (version : Version) (own : List (Timed α τ))
    (c after : Conversation α τ) : Prop where
  now : after.now = c.now
  closed : after.closed = c.closed
  pending : after.pending = own
  aware : after.memory.Aware version
  asked : Added [] [] c after ∨
    ∃ reply, Added [⟨.info, reply⟩] (backend.requestsOf c.closed .info) c after

/-! ### Own requests -/

/-- The requests that were added to a conversation, but for the question who the engine is. It is
asked first if it is asked at all. -/
def Backend.ownRequests (backend : Backend α) (before after : Conversation α τ) : List Request :=
  let added := after.sent.drop before.sent.length
  match after.turns.drop before.turns.length with
  | ⟨.info, _⟩ :: _ => added.drop (backend.requestsOf before.closed .info).length
  | _ => added

/-- Requests that come with no question who the engine is are an operation's own. -/
theorem Backend.ownRequests_of_added (backend : Backend α) {c after : Conversation α τ}
    {turns : List Turn} {requests : List Request} (added : Added turns requests c after)
    (others : ∀ turn ∈ turns, turn.call ≠ .info) : backend.ownRequests c after = requests := by
  rw [Backend.ownRequests, added.turns, added.sent, List.drop_left, List.drop_left]
  split
  case h_1 reply later => exact absurd rfl (others ⟨.info, reply⟩ List.mem_cons_self)
  case h_2 => rfl

/-- So are those that come behind it. -/
theorem Backend.ownRequests_of_asked (backend : Backend α) {c after : Conversation α τ}
    {reply : Except Failure Call.info.Reply} {turns : List Turn} {requests : List Request}
    (added : Added (⟨.info, reply⟩ :: turns) (backend.requestsOf c.closed .info ++ requests) c
      after) : backend.ownRequests c after = requests := by
  rw [Backend.ownRequests, added.turns, added.sent, List.drop_left, List.drop_left]
  exact List.drop_left

/-- What comes after the version was found out are an operation's own requests. -/
theorem Found.ownRequests_eq {backend : Backend α} {version : Version} {own : List (Timed α τ)}
    {c middle after : Conversation α τ} (found : Found backend version own c middle)
    {turns : List Turn} {requests : List Request} (added : Added turns requests middle after)
    (others : ∀ turn ∈ turns, turn.call ≠ .info) : backend.ownRequests c after = requests := by
  obtain quiet | ⟨reply, asked⟩ := found.asked
  · exact backend.ownRequests_of_added (quiet.trans added) others
  · exact backend.ownRequests_of_asked (asked.trans added)

/-- An engine cannot be asked who it is, over a connection that may be closed. -/
inductive Refused (backend : Backend α) (closed : Bool) : Failure → Prop where
  | unwritten {failure : Failure} (unwritten : backend.encode .info = .error failure) :
    Refused backend closed failure
  | shut {request : Request} (written : backend.encode .info = .ok request)
    (shut : (backend.closesForGood && closed) = true) : Refused backend closed .closed

/-- An engine can be asked who it is, or it cannot. -/
theorem Backend.refused_or (backend : Backend α) (closed : Bool) :
    (∃ failure, Refused backend closed failure) ∨ ∃ request,
      backend.encode .info = .ok request ∧ (backend.closesForGood && closed) = false := by
  cases written : backend.encode .info with
  | error failure => exact Or.inl ⟨failure, .unwritten written⟩
  | ok request =>
    cases shut : backend.closesForGood && closed with
    | true => exact Or.inl ⟨.closed, .shut written shut⟩
    | false => exact Or.inr ⟨request, rfl, rfl⟩

/-- Where an engine cannot be asked who it is, nothing is sent. -/
theorem Refused.requestsOf_eq {backend : Backend α} {closed : Bool} {failure : Failure}
    (refused : Refused backend closed failure) : backend.requestsOf closed .info = [] := by
  cases refused with
  | unwritten unwritten => simp [Backend.requestsOf, unwritten]
  | shut written shut => simp [Backend.requestsOf, written, shut]

/-- And nothing but a turn is added. -/
theorem Refused.run_ask [Seconds τ] {backend : Backend α} {c : Conversation α τ} {failure : Failure}
    (refused : Refused backend c.closed failure) : (ask backend .info).run.run c =
      (.error failure, { c with turns := c.turns ++ [⟨.info, .error failure⟩] }) := by
  cases refused with
  | unwritten unwritten => rw [Talk.run_ask, run_replyTo_of_unwritten unwritten]
  | shut written shut => rw [Talk.run_ask, run_replyTo_of_shut written shut]

section

variable [Seconds τ] {session : Session α τ} {info : Timed α τ} {payload : Json}
  {version : Version}

/-- Something can be found out about the engine: with the version known or an answer to come that
tells it, `result` is what is found, and where the engine cannot be asked nothing is. -/
structure Finder {δ : Type} (session : Session α τ) (info : Timed α τ) (version : Version)
    (find : Talk α τ δ) (result : Except Failure δ) : Prop where
  finds : ∀ {own c}, Poised session.backend version info own c → ∃ after,
    find.run.run c = (result, after) ∧ Found session.backend version own c after
  fails : ∀ {c failure}, c.memory = {} → Refused session.backend c.closed failure →
    find.run.run c = (.error (versionFailure failure),
      { c with turns := c.turns ++ [⟨.info, .error failure⟩] })

/-- The version can be found out. -/
theorem finder_detectVersion (told : session.backend.decode .info info.answer = .ok payload)
    (names : Version.ofInfo payload = .ok version)
    (timeless : ∀ now, Seconds.add now info.delay = now) :
    Finder session info version session.detectVersion (.ok version) where
  finds {own c} poised := by
    cases poised with
    | aware aware pending =>
      exact ⟨c, run_detectVersion_of_known session aware.1,
        ⟨rfl, rfl, pending, aware, Or.inl (.nothing rfl rfl)⟩⟩
    | asking unknown pending written unshut =>
      have passable : (session.backend.closesForGood && c.closed) = false := by
        simpa [Shut] using unshut
      have untold : c.memory.version = none := by rw [unknown]
      rw [run_detectVersion_of_unknown session untold,
        run_ask_of_answer written passable pending, told]
      simp only [names]
      refine ⟨_, rfl, timeless c.now, rfl, rfl, ⟨rfl, fun able derived => ?_⟩,
        Or.inr ⟨.ok payload, rfl, ?_⟩⟩
      · rw [unknown] at derived
        cases derived
      · simp [Backend.requestsOf, written, passable]
  fails {c failure} unknown refused := by
    have untold : c.memory.version = none := by rw [unknown]
    rw [run_detectVersion_of_unknown session untold, refused.run_ask]

/-- And what follows from it. -/
theorem finder_capabilities
    (detects : Finder session info version session.detectVersion (.ok version)) :
    Finder session info version session.capabilities (capabilitiesOf version) where
  finds {own c} poised := by
    cases derived : c.memory.capabilities with
    | some able =>
      cases poised with
      | aware aware pending =>
        refine ⟨c, ?_, rfl, rfl, pending, aware, Or.inl (.nothing rfl rfl)⟩
        rw [run_capabilities_of_known session derived, aware.2 able derived]
      | asking unknown pending written unshut =>
        rw [unknown] at derived
        cases derived
    | none =>
      obtain ⟨after, detected, found⟩ := detects.finds poised
      rw [run_capabilities_of_unknown session derived, detected]
      cases follows : capabilitiesOf version with
      | error failure => exact ⟨after, by simp only [follows], found⟩
      | ok able =>
        simp only [follows]
        refine ⟨_, rfl, found.now, found.closed, found.pending, ⟨found.aware.1, ?_⟩, ?_⟩
        · rintro _ ⟨⟩
          exact follows
        · exact found.asked.imp (fun added => ⟨added.turns, added.sent⟩)
            fun ⟨reply, added⟩ => ⟨reply, added.turns, added.sent⟩
  fails {c failure} unknown refused := by
    have underived : c.memory.capabilities = none := by rw [unknown]
    rw [run_capabilities_of_unknown session underived, detects.fails unknown refused]

end

/-! ### Going on from what was found -/

section

variable {session : Session α τ} {info : Timed α τ} {version : Version}
  {own : List (Timed α τ)} {β δ : Type} {find : Talk α τ δ} {talk : Talk α τ β}
  {result : Except Failure δ}

/-- What came of an operation where the version could be found out on both sides. -/
structure Settled (backend : Backend α) (version : Version) (c d : Conversation α τ)
    (first second : Except Failure β × Conversation α τ) : Prop where
  outcome : first.1 = second.1
  requests : backend.ownRequests c first.2 = backend.ownRequests d second.2
  now : first.2.now = second.2.now
  closed : first.2.closed = second.2.closed
  aware : first.2.memory.Aware version ∧ second.2.memory.Aware version
  rests : Shut backend c →
    backend.ownRequests c first.2 = [] ∧ first.2.now = c.now ∧ first.2.closed = c.closed

/-- What was said before does not matter to finding out the version. -/
theorem Poised.said {backend : Backend α} {c : Conversation α τ}
    (poised : Poised backend version info own c) (log : List LogEntry) :
    Poised backend version info own { c with log := log } := by
  cases poised with
  | aware aware pending => exact .aware aware pending
  | asking unknown pending written unshut => exact .asking unknown pending written unshut

/-- A talk that finds something out first goes on from where that was found out. -/
theorem FindsFirst.run_eq (finds : FindsFirst session version find talk)
    (finder : Finder session info version find result) :
    ∃ rest : δ → Talk α τ β,
      (∀ found, Oblivious session.backend True (·.version = some version) (rest found)) ∧
      ∀ own c, Poised session.backend version info own c →
        ∃ middle, Found session.backend version own c middle ∧ talk.run.run c =
          match result with
          | .ok found => (rest found).run.run middle
          | .error failure => (.error failure, middle) := by
  obtain ⟨rest, oblivious, begins⟩ := finds
  refine ⟨rest, oblivious, fun own c poised => ?_⟩
  obtain ⟨log, ran⟩ := begins c
  obtain ⟨middle, foundOut, found⟩ := finder.finds (poised.said log)
  refine ⟨middle, ⟨found.now, found.closed, found.pending, found.aware, ?_⟩, ?_⟩
  · exact found.asked.imp (fun added => ⟨added.turns, added.sent⟩)
      fun ⟨reply, added⟩ => ⟨reply, added.turns, added.sent⟩
  · rw [ran, run_bind, foundOut]
    cases result <;> rfl

/-- Where something can be found out about the engine on both sides, it makes no difference on which
of them it is known already. -/
theorem FindsFirst.settled (finds : FindsFirst session version find talk)
    (finder : Finder session info version find result) {c d : Conversation α τ}
    (poised : Poised session.backend version info own c)
    (poised' : Poised session.backend version info own d) (now : c.now = d.now)
    (closed : c.closed = d.closed) :
    Settled session.backend version c d (talk.run.run c) (talk.run.run d) := by
  obtain ⟨rest, oblivious, goesOn⟩ := finds.run_eq finder
  obtain ⟨middle, found, ran⟩ := goesOn own c poised
  obtain ⟨middle', found', ran'⟩ := goesOn own d poised'
  rw [ran, ran']
  cases result with
  | error failure =>
    -- nothing follows a failure, so nothing is added to what finding out added
    have none : ∀ turn ∈ ([] : List Turn), turn.call ≠ .info := by simp
    have requests := found.ownRequests_eq (.nothing rfl rfl) none
    exact {
      outcome := rfl
      requests := requests.trans (found'.ownRequests_eq (.nothing rfl rfl) none).symm
      now := by rw [found.now, found'.now, now]
      closed := by rw [found.closed, found'.closed, closed]
      aware := ⟨found.aware, found'.aware⟩
      rests := fun _ => ⟨requests, found.now, found.closed⟩ }
  | ok value =>
    have level : Level middle middle' :=
      ⟨by rw [found.pending, found'.pending], by rw [found.now, found'.now, now],
        by rw [found.closed, found'.closed, closed]⟩
    have parallel := oblivious value middle middle' level found.aware.1 found'.aware.1
    obtain ⟨turns, requests, added, added', others, none⟩ := parallel.added
    have own := found.ownRequests_eq added others
    have shutBehind : Shut session.backend c → Shut session.backend middle := by
      rw [Shut, Shut, found.closed]
      exact id
    exact {
      outcome := parallel.outcome
      requests := own.trans (found'.ownRequests_eq added' others).symm
      now := parallel.level.now
      closed := parallel.level.closed
      aware := by
        rw [parallel.memory.1, parallel.memory.2]
        exact ⟨found.aware, found'.aware⟩
      rests := by
        intro shut
        obtain ⟨still, open'⟩ := parallel.rests trivial (shutBehind shut)
        exact ⟨own.trans (none trivial (shutBehind shut)), still.trans found.now,
          open'.trans found.closed⟩ }

/-- Where the engine cannot be asked, a talk that has to find something out first does nothing. -/
theorem FindsFirst.refused (finds : FindsFirst session version find talk)
    (finder : Finder session info version find result) {c : Conversation α τ} {failure : Failure}
    (unknown : c.memory = {}) (refused : Refused session.backend c.closed failure) :
    ∃ log, talk.run.run c = (.error (versionFailure failure),
      { c with log, turns := c.turns ++ [⟨.info, .error failure⟩] }) := by
  obtain ⟨rest, -, begins⟩ := finds
  obtain ⟨log, ran⟩ := begins c
  have failed : find.run.run { c with log := log } = (.error (versionFailure failure), _) :=
    finder.fails unknown refused
  exact ⟨log, by rw [ran, run_bind, failed]⟩

end

end EngineGateway
