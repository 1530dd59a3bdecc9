import EngineGateway.Proofs.Session.Knowledge

/-!
# What one operation sends

An operation makes at most one call of its own, and before it, at most once, the question who the
engine is. `Inquiry` says how the version comes to be known, and `Operation.Asks` lists the turns
that an operation can add. Nothing is tried again: behind a turn that failed there is no other,
unless the operation is to wait, and then all turns are looks at the health of the index.
-/

namespace EngineGateway

open Session Talk

variable {α τ : Type}

/-- Whether a call is to change something at the engine. A raw request is not if it only reads. -/
def Call.changes : Call → Bool
  | .createIndex .. | .deleteIndex _ | .refresh _ | .writeDocument .. | .putPipeline .. => true
  | .raw method .. => method.text? != some "GET"
  | .info | .indexExists _ | .health .. | .search .. | .pipelineExists _ => false

/-- Whether an operation is to change something at the engine. -/
def Operation.changes : Operation τ → Bool
  | .createIndex .. | .deleteIndex _ | .refresh _ | .index _ | .putPipeline _ => true
  | .detectVersion | .detectedVersion | .capabilities | .isIngestSupported | .isExistingIndex _
  | .indexHealth .. | .waitForHealthyIndex .. | .search _ | .storedFields _
  | .isExistingPipeline _ | .close => false

/-- What an operation sends without a call: the end of a connection that is the session's own. -/
def Operation.farewell (session : Session α τ) : Operation τ → List Request
  | .close => if session.ownsBackend then session.backend.closing.toList else []
  | _ => []

/-- The turns by which a version comes to be known, by what was known before. -/
inductive Inquiry (known : Option Version) : List Turn → Version → Prop where
  | spared {version : Version} (remembered : known = some version) : Inquiry known [] version
  | made {payload : Json} {version : Version} (unknown : known = none)
      (told : Version.ofInfo payload = .ok version) : Inquiry known [⟨.info, .ok payload⟩] version

/-- The turns that an operation can add, by what was known of the version before. -/
inductive Operation.Asks (session : Session α τ) (known : Option Version) :
    Operation τ → List Turn → Prop where
  /-- No turn at all. -/
  | nothing {operation : Operation τ} : Asks session known operation []
  /-- A call of the operation's own. -/
  | own {operation : Operation τ} {turn : Turn} (made : operation.OwnCall turn.call) :
    Asks session known operation [turn]
  /-- Looks at the health of the index that is waited for. -/
  | looks {name : Name} {timeout : Option (Span τ)} {turns : List Turn}
      (each : ∀ turn ∈ turns, ∃ hold, turn.call = .health name hold) :
    Asks session known (.waitForHealthyIndex name timeout) turns
  /-- Nothing but the question who the engine is. -/
  | detection {operation : Operation τ} {reply : Except Failure Json}
      (needed : operation.needsVersion = true) (unknown : known = none) :
    Asks session known operation [⟨.info, reply⟩]
  /-- A call whose form follows from the version, behind the inquiry for the version. -/
  | bound {operation : Operation τ} {inquiry : List Turn} {version : Version} {able : Capabilities}
      {turn : Turn} (needed : operation.needsVersion = true)
      (inquired : Inquiry known inquiry version)
      (derived : Capabilities.ofVersion version = .ok able)
      (made : operation.BoundCall session able turn.call) :
    Asks session known operation (inquiry ++ [turn])

/-- A conversation in which, since another, some turns were added, and their requests, and the
connection was not closed. -/
structure Since (session : Session α τ) (origin : Conversation α τ) (fresh : List Turn)
    (c : Conversation α τ) : Prop where
  turns : c.turns = origin.turns ++ fresh
  sent : c.sent = origin.sent ++
    fresh.flatMap fun turn => session.backend.requestsOf origin.closed turn.call
  closings : c.closings = origin.closings

/-! ### Which calls change something -/

/-- An operation's own call changes something if the operation is to. -/
theorem Operation.OwnCall.changes {operation : Operation τ} {call : Call}
    (own : operation.OwnCall call) : call.changes = operation.changes := by
  cases operation <;> simp only [Operation.OwnCall] at own <;>
    grind [Call.changes, Operation.changes]

/-- So does a call whose form follows from the version. -/
theorem Operation.BoundCall.changes {session : Session α τ} {able : Capabilities}
    {operation : Operation τ} {call : Call} (bound : operation.BoundCall session able call) :
    call.changes = operation.changes := by
  cases operation with
  | index document =>
    obtain ⟨_, form⟩ := bound
    split at form
    · obtain ⟨path, _, rfl⟩ := form
      rfl
    · rw [form]
      rfl
  | isExistingPipeline id =>
    obtain ⟨_, form⟩ := bound
    split at form
    · rw [form]
      rfl
    · obtain ⟨path, _, rfl⟩ := form
      rfl
  | putPipeline pipeline =>
    rw [bound.2]
    rfl
  | search query | storedFields request =>
    have form : call = .search _ _ := bound
    rw [form]
    rfl
  | _ => exact bound.elim

/-- To find out the version changes nothing. -/
theorem Inquiry.changes {known : Option Version} {inquiry : List Turn} {version : Version}
    (inquired : Inquiry known inquiry version) : inquiry.countP (·.call.changes) = 0 := by
  cases inquired <;> rfl

/-! ### What the turns of an operation have in common -/

section

variable {session : Session α τ} {known : Option Version} {operation : Operation τ}
  {turns : List Turn}

/-- At most one of the turns changes something, and none if the operation is not to. -/
theorem Operation.Asks.changes_le (asks : operation.Asks session known turns) :
    turns.countP (·.call.changes) ≤ operation.changes.toNat := by
  cases asks with
  | nothing => exact Nat.zero_le _
  | own made =>
    rw [← made.changes, List.countP_singleton]
    cases Call.changes _ <;> simp
  | looks each =>
    have quiet : turns.countP (·.call.changes) = 0 := by
      refine List.countP_eq_zero.2 fun turn member => ?_
      obtain ⟨hold, look⟩ := each turn member
      rw [look]
      exact Bool.false_ne_true
    rw [quiet]
    exact Nat.zero_le _
  | detection => exact Nat.zero_le _
  | bound needed inquired derived made =>
    rw [List.countP_append, inquired.changes, ← made.changes, List.countP_singleton]
    cases Call.changes _ <;> simp

/-- There are two turns at most, and one at most if the version is known or not needed. -/
theorem Operation.Asks.length_le (asks : operation.Asks session known turns)
    (single : operation.polls = false) :
    turns.length ≤ 1 + (operation.needsVersion && known.isNone).toNat := by
  cases asks with
  | nothing => exact Nat.zero_le _
  | own made => exact Nat.le_add_right 1 _
  | looks each => simp [polls] at single
  | detection needed unknown => exact Nat.le_add_right 1 _
  | bound needed inquired derived made =>
    cases inquired with
    | spared remembered => exact Nat.le_add_right 1 _
    | made unknown told => simp [needed, unknown]

/-- No turn follows one that failed. -/
theorem Operation.Asks.eq_nil_of_failed (asks : operation.Asks session known turns)
    (single : operation.polls = false) {before after : List Turn} {turn : Turn} {failure : Failure}
    (split : turns = before ++ turn :: after) (failed : turn.reply = .error failure) :
    after = [] := by
  -- Only behind an inquiry is there another turn, and the inquiry was answered.
  have alone (only : Turn) (start : List Turn) (same : [only] = start ++ turn :: after) :
      after = [] := by
    obtain ⟨rfl, rest⟩ | ⟨inner, rfl, impossible⟩ := List.cons_eq_append_iff.1 same
    · exact (List.cons.inj rest).2
    · simp at impossible
  cases asks with
  | nothing => simp at split
  | own made => exact alone _ _ split
  | looks each => simp [polls] at single
  | detection needed unknown => exact alone _ _ split
  | bound needed inquired derived made =>
    cases inquired with
    | spared remembered => exact alone _ _ split
    | made unknown told =>
      obtain ⟨rfl, rest⟩ | ⟨inner, rfl, later⟩ := List.cons_eq_append_iff.1 split
      · obtain ⟨rfl, -⟩ := List.cons.inj rest
        cases failed
      · exact alone _ inner later

end

/-! ### Following an operation -/

/-- Nothing has happened since a conversation itself. -/
theorem Since.refl (session : Session α τ) (origin : Conversation α τ) :
    Since session origin [] origin := ⟨by simp, by simp, rfl⟩

/-- What happened has nothing to do with the log and the time. -/
theorem Since.undisturbed (session : Session α τ) (origin : Conversation α τ) (fresh : List Turn) :
    Undisturbed (Since session origin fresh) :=
  fun _ _ _ _ since => ⟨since.turns, since.sent, since.closings⟩

/-- Whether the connection was closed has not changed. -/
theorem Since.closed {session : Session α τ} {origin c : Conversation α τ} {fresh : List Turn}
    (since : Since session origin fresh c) : c.closed = origin.closed := by
  unfold Conversation.closed
  rw [since.closings]

section

variable [Seconds τ] {session : Session α τ} {origin : Conversation α τ} {operation : Operation τ}

/-- Asking adds one turn, and its request. -/
theorem Since.ask {c : Conversation α τ} {fresh : List Turn} (since : Since session origin fresh c)
    (call : Call) : Since session origin
      (fresh ++ [⟨call, ((Talk.ask session.backend call).run.run c).1⟩])
      ((Talk.ask session.backend call).run.run c).2 := by
  obtain ⟨pending, now, asked⟩ := after_ask session.backend call c
  rw [asked]
  refine ⟨?_, ?_, since.closings⟩
  · rw [since.turns, List.append_assoc]
  · rw [since.sent, since.closed, List.flatMap_append, List.append_assoc, List.flatMap_singleton]

/-- A conversation to which an operation that began in another one can have led. -/
def Spent (session : Session α τ) (origin : Conversation α τ) (operation : Operation τ)
    (c : Conversation α τ) : Prop :=
  ∃ fresh, Since session origin fresh c ∧ operation.Asks session origin.memory.version fresh

/-- A conversation in which it has come to be known what the engine can do, and no more. -/
def Informed (session : Session α τ) (origin : Conversation α τ) (able : Capabilities)
    (c : Conversation α τ) : Prop :=
  ∃ inquiry version, Since session origin inquiry c ∧ c.memory.version = some version ∧
    Inquiry origin.memory.version inquiry version ∧ Capabilities.ofVersion version = .ok able

omit [Seconds τ] in
/-- What was spent has nothing to do with the log and the time. -/
theorem Spent.undisturbed (session : Session α τ) (origin : Conversation α τ)
    (operation : Operation τ) : Undisturbed (Spent session origin operation) := by
  rintro c log sleeps now ⟨fresh, since, asks⟩
  exact ⟨fresh, Since.undisturbed session origin fresh c log sleeps now since, asks⟩

/-- The version is found out by an inquiry. -/
theorem Spent.leads_detectVersion (needed : operation.needsVersion = true) :
    Leads (fun c => Since session origin [] c ∧ c.memory = origin.memory) session.detectVersion
      fun outcome c => Spent session origin operation c ∧ ∀ version, outcome = .ok version →
        ∃ inquiry, Since session origin inquiry c ∧ c.memory.version = some version ∧
          Inquiry origin.memory.version inquiry version := by
  rintro c ⟨since, same⟩
  cases known : c.memory.version with
  | some version =>
    rw [run_detectVersion_of_known session known]
    refine ⟨⟨[], since, .nothing⟩, fun other told => ?_⟩
    obtain rfl := Except.ok.inj told
    exact ⟨[], since, known, .spared (same ▸ known)⟩
  | none =>
    have unknown : origin.memory.version = none := same ▸ known
    have asked := since.ask .info
    rw [run_detectVersion_of_unknown session known]
    cases ran : (Talk.ask session.backend .info).run.run c with
    | mk reply after =>
      rw [ran] at asked
      have spent : Spent session origin operation after :=
        ⟨[⟨.info, reply⟩], asked, .detection needed unknown⟩
      cases reply with
      | error failure => exact ⟨spent, nofun⟩
      | ok payload =>
        cases told : Version.ofInfo payload with
        | error failure =>
          simp only [told]
          exact ⟨spent, nofun⟩
        | ok version =>
          simp only [told]
          refine ⟨⟨_, ⟨asked.turns, asked.sent, asked.closings⟩, .detection needed unknown⟩, ?_⟩
          intro other found
          obtain rfl := Except.ok.inj found
          exact ⟨_, ⟨asked.turns, asked.sent, asked.closings⟩, rfl, .made unknown told⟩

/-- So is what the engine can do. -/
theorem Spent.leads_capabilities (knows : Knows session origin)
    (needed : operation.needsVersion = true) :
    Leads (fun c => Since session origin [] c ∧ c.memory = origin.memory) session.capabilities
      fun outcome c => Spent session origin operation c ∧ ∀ able, outcome = .ok able →
        Informed session origin able c := by
  intro c begins
  cases known : c.memory.capabilities with
  | some able =>
    obtain ⟨since, same⟩ := begins
    obtain ⟨version, remembered, derived⟩ := knows.capabilities able (same ▸ known)
    rw [run_capabilities_of_known session known]
    refine ⟨⟨[], since, .nothing⟩, fun other told => ?_⟩
    obtain rfl := Except.ok.inj told
    exact ⟨[], version, since, same ▸ remembered, .spared remembered, derived⟩
  | none =>
    have detected := Spent.leads_detectVersion needed c begins
    rw [run_capabilities_of_unknown session known]
    cases ran : session.detectVersion.run.run c with
    | mk reply after =>
      rw [ran] at detected
      obtain ⟨spent, found⟩ := detected
      cases reply with
      | error failure =>
        refine ⟨spent, fun able told => ?_⟩
        cases told
      | ok version =>
        obtain ⟨inquiry, since, remembered, inquired⟩ := found version rfl
        cases derived : Capabilities.ofVersion version with
        | error fault =>
          simp only [capabilitiesOf_eq_error derived]
          refine ⟨spent, fun able told => ?_⟩
          cases told
        | ok able =>
          simp only [capabilitiesOf_eq_ok derived]
          obtain ⟨fresh, whole, asks⟩ := spent
          refine ⟨⟨fresh, ⟨whole.turns, whole.sent, whole.closings⟩, asks⟩, fun other told => ?_⟩
          obtain rfl := Except.ok.inj told
          exact ⟨inquiry, version, ⟨since.turns, since.sent, since.closings⟩, remembered, inquired,
            derived⟩

/-- What an operation spends that has to know what the engine is. -/
theorem Spent.passage (knows : Knows session origin) (needed : operation.needsVersion = true) :
    Passage session (fun c => Since session origin [] c ∧ c.memory = origin.memory)
      (Spent session origin operation) (Informed session origin) where
  undisturbed c log sleeps now begins :=
    ⟨Since.undisturbed session origin [] c log sleeps now begins.1, begins.2⟩
  detects := (Spent.leads_detectVersion needed).weaken (fun _ begins => begins)
    fun _ _ reached => reached.1
  learns := Spent.leads_capabilities knows needed
  released able c informed := by
    obtain ⟨inquiry, version, since, remembered, inquired, derived⟩ := informed
    refine ⟨inquiry, since, ?_⟩
    cases inquired with
    | spared known => exact .nothing
    | made unknown told => exact .detection needed unknown
  steady able c log sleeps now informed := by
    obtain ⟨inquiry, version, since, rest⟩ := informed
    exact ⟨inquiry, version, Since.undisturbed session origin inquiry c log sleeps now since, rest⟩
  settled := Spent.undisturbed session origin operation
  again able c informed := by
    obtain ⟨inquiry, version, since, remembered, rest⟩ := informed
    rw [run_detectVersion_of_known session remembered]
    exact ⟨inquiry, version, since, remembered, rest⟩

/-- An operation that needs no version and does not close spends its own calls. -/
theorem Spent.run_of_needs_nothing (independent : operation.needsVersion = false)
    (stays : operation ≠ .close) :
    Spent session origin operation ((operation.run session).run.run origin).2 := by
  cases polling : operation.polls with
  | false =>
    have stride : Stride (Since session origin []) (Spent session origin operation) :=
      ⟨Since.undisturbed session origin [], Spent.undisturbed session origin operation,
        fun c since => ⟨[], since, .nothing⟩⟩
    refine Operation.one_of_needs_nothing independent polling stride (fun call own => ?_)
      (fun closes => absurd closes stays) origin (Since.refl session origin)
    intro c since
    exact ⟨_, since.ask call, .own own⟩
  | true =>
    cases operation with
    | waitForHealthyIndex name timeout =>
      have kept : Keeps (fun c => ∃ fresh, Since session origin fresh c ∧
          ∀ turn ∈ fresh, ∃ hold, turn.call = .health name hold)
          ((Operation.waitForHealthyIndex name timeout).run session) := by
        refine Operation.keeps_of_needs_nothing rfl ?_ (fun call own => ?_) nofun
        · rintro c log sleeps now ⟨fresh, since, looks⟩
          exact ⟨fresh, Since.undisturbed session origin fresh c log sleeps now since, looks⟩
        · rintro c ⟨fresh, since, looks⟩
          obtain ⟨hold, rfl⟩ := own
          refine ⟨_, since.ask _, fun turn member => ?_⟩
          rcases List.mem_append.1 member with earlier | last
          · exact looks turn earlier
          · rw [List.mem_singleton.1 last]
            exact ⟨hold, rfl⟩
      obtain ⟨fresh, since, looks⟩ := kept origin ⟨[], Since.refl session origin, nofun⟩
      exact ⟨fresh, since, .looks looks⟩
    | _ => simp [Operation.polls] at polling

/-- Every operation of a session that knows what the turns tell spends what it may, unless it is to
close. -/
theorem Knows.spent (knows : Knows session origin) (stays : operation ≠ .close) :
    Spent session origin operation ((operation.run session).run.run origin).2 := by
  cases needed : operation.needsVersion with
  | false => exact Spent.run_of_needs_nothing needed stays
  | true =>
    refine (Spent.passage knows needed).leads_run needed (fun able call bound => ?_) origin
      ⟨Since.refl session origin, rfl⟩
    rintro c ⟨inquiry, version, since, remembered, inquired, derived⟩
    exact ⟨_, since.ask call, .bound needed inquired derived bound⟩

/-- To close sends the farewell and asks nothing. -/
theorem Session.run_close (c : Conversation α τ) :
    ((Operation.close.run session).run.run c).2.turns = c.turns ∧
      ((Operation.close.run session).run.run c).2.sent =
        c.sent ++ Operation.close.farewell session := by
  change ((Operation.closeOwned session).run.run c).2.turns = _ ∧
    ((Operation.closeOwned session).run.run c).2.sent = _
  unfold Operation.closeOwned Operation.farewell
  cases session.ownsBackend with
  | false => exact ⟨rfl, (List.append_nil _).symm⟩
  | true => exact ⟨rfl, rfl⟩

/-- An operation asks at most once. Whatever a session was asked before, over every backend and with
every answers, an operation adds turns of its own only: at most one call of the operation, before it
the question who the engine is, if the operation has to know that and nothing has told it yet, and
only looks at the health of the index if the operation is to wait for it. The requests are those of
the turns and, where the session's own connection is closed, its farewell. So there are at most two
turns, and one if the version is known or not needed; nothing is asked behind a turn that failed;
and at most one turn changes something at the engine, and none of an operation that only asks. -/
theorem operations_ask_at_most_once (session : Session α τ) (answers : List (Timed α τ)) (now : τ)
    (earlier : List (Operation τ)) (operation : Operation τ) :
    let c := session.after earlier (.start answers now)
    let d := ((operation.run session).run.run c).2
    ∃ fresh, operation.Asks session c.memory.version fresh ∧ d.turns = c.turns ++ fresh ∧
      d.sent =
        c.sent ++ (fresh.flatMap fun turn => session.backend.requestsOf c.closed turn.call) ++
          operation.farewell session ∧
      (operation.polls = false →
        fresh.length ≤ 1 + (operation.needsVersion && c.memory.version.isNone).toNat ∧
        ∀ before turn after failure, fresh = before ++ turn :: after →
          turn.reply = .error failure → after = []) ∧
      fresh.countP (·.call.changes) ≤ operation.changes.toNat := by
  intro c d
  have knows : Knows session c := (Knows.start session answers now).after earlier
  have spent : ∃ fresh, operation.Asks session c.memory.version fresh ∧
      d.turns = c.turns ++ fresh ∧ d.sent = c.sent ++
        (fresh.flatMap fun turn => session.backend.requestsOf c.closed turn.call) ++
        operation.farewell session := by
    by_cases closes : operation = .close
    · subst closes
      obtain ⟨turns, sent⟩ := session.run_close c
      exact ⟨[], .nothing, by simpa using turns, by simpa using sent⟩
    · obtain ⟨fresh, since, asks⟩ := knows.spent closes
      have wordless : operation.farewell session = [] := by
        cases operation <;> first | rfl | exact absurd rfl closes
      refine ⟨fresh, asks, since.turns, ?_⟩
      rw [wordless, List.append_nil]
      exact since.sent
  obtain ⟨fresh, asks, turns, sent⟩ := spent
  refine ⟨fresh, asks, turns, sent, fun single => ⟨asks.length_le single, ?_⟩, asks.changes_le⟩
  intro before turn after failure split failed
  exact asks.eq_nil_of_failed single split failed

end

end EngineGateway
