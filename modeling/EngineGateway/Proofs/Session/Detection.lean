import EngineGateway.Proofs.Session.Knowledge

/-!
# The version is found out once

A conversation only grows: operations add turns and requests and take none back. What a session
knows then decides what it asks. Until an answer has told the version, nothing is remembered and
every operation that needs the version begins with the question for it; from then on the question is
not asked again, and the version does not change.
-/

namespace EngineGateway

open Session Talk

variable {α τ : Type}

/-- A conversation in which nothing was remembered, asked or sent since another. -/
def Untouched (origin c : Conversation α τ) : Prop :=
  c.memory = {} ∧ c.turns = origin.turns ∧ c.sent = origin.sent ∧ c.closed = origin.closed

/-- Between two conversations it was not asked who the engine is. -/
def AsksNoVersion (earlier later : Conversation α τ) : Prop :=
  ∃ added, later.turns = earlier.turns ++ added ∧ ∀ turn ∈ added, turn.call ≠ .info

/-- A call that asks for documents or pipelines, or is about to change them. Its form or its being
allowed at all depends on the version of the engine. -/
def Call.dependsOnVersion : Call → Bool
  | .writeDocument .. | .search .. | .putPipeline .. | .pipelineExists _ | .raw .. => true
  | .info | .createIndex .. | .indexExists _ | .deleteIndex _ | .health .. | .refresh _ => false

/-- Being untouched has nothing to do with the log and the time. -/
theorem Untouched.undisturbed (origin : Conversation α τ) : Undisturbed (Untouched origin) :=
  fun _ _ _ _ untouched => untouched

/-- The calls of an operation's own do not depend on the version. -/
theorem Operation.OwnCall.dependsOnVersion {operation : Operation τ} {call : Call}
    (own : operation.OwnCall call) : call.dependsOnVersion = false := by
  cases operation <;> simp only [Operation.OwnCall] at own <;> grind [Call.dependsOnVersion]

/-- Before anything is known no call is made that depends on the version. -/
theorem Arises.dependsOnVersion {session : Session α τ} {call : Call}
    (arises : Arises session none call) : call.dependsOnVersion = false := by
  cases arises with
  | detection => rfl
  | own operation made => exact made.dependsOnVersion

/-- Once the version is known it is not asked for. -/
theorem Arises.ne_info {session : Session α τ} {version : Version} {call : Call}
    (arises : Arises session (some version) call) : call ≠ .info := by
  cases arises with
  | own operation made => exact made.ne_info
  | bound operation derived made => exact made.ne_info

/-- A number of values that is not above zero asks for nothing. -/
theorem Session.FieldRequest.goesOut_of_nonpos {request : FieldRequest} {count : Int}
    (limit : request.limit = .int count) (nonpositive : count ≤ 0) : request.goesOut = false := by
  rcases Int.lt_or_eq_of_le nonpositive with below | rfl
  · simp [FieldRequest.goesOut, limit, Search.isBelowZero, below]
  · simp [FieldRequest.goesOut, limit, Search.isBelowZero]
    rfl

section

variable [Seconds τ] (session : Session α τ)

/-- A conversation that went on from another with the question who the engine is. -/
def Begun (origin c : Conversation α τ) : Prop :=
  ∃ reply, Grown (origin.turns ++ [⟨.info, reply⟩])
    (origin.sent ++ session.backend.requestsOf origin.closed .info) c

omit [Seconds τ] in
/-- A beginning is a matter of what was asked and sent. -/
theorem Begun.historic (origin : Conversation α τ) : Historic (Begun session origin) :=
  fun c d turns sent closings ⟨reply, grown⟩ =>
    ⟨reply, Grown.historic _ _ c d turns sent closings grown⟩

/-- Asking more does not undo a beginning. -/
theorem Begun.ask (origin : Conversation α τ) (call : Call) :
    Keeps (Begun session origin) (Talk.ask session.backend call) :=
  fun c ⟨reply, grown⟩ => ⟨reply, grows_ask session.backend call _ _ c grown⟩

/-- A session that remembers nothing asks who the engine is. -/
theorem Untouched.leads_detectVersion (origin : Conversation α τ) :
    Leads (Untouched origin) session.detectVersion fun _ => Begun session origin := by
  rintro c ⟨memory, turns, sent, closed⟩
  have unknown : c.memory.version = none := by rw [memory]
  obtain ⟨pending, now, asked⟩ := after_ask session.backend .info c
  rw [run_detectVersion_of_unknown session unknown]
  cases ran : (Talk.ask session.backend .info).run.run c with
  | mk reply after =>
    rw [ran] at asked
    simp only at asked
    have begun : Begun session origin after := by
      refine ⟨reply, ?_⟩
      rw [asked, ← turns, ← sent, ← closed]
      exact ⟨List.prefix_refl _, List.prefix_refl _⟩
    cases reply with
    | error failure => exact begun
    | ok payload => cases told : Version.ofInfo payload <;> simp only [told] <;> exact begun

/-- It does so, too, if it has to know what the engine can do. -/
theorem Untouched.leads_capabilities (origin : Conversation α τ) :
    Leads (Untouched origin) session.capabilities fun _ => Begun session origin := by
  intro c untouched
  have unknown : c.memory.capabilities = none := by rw [untouched.1]
  have detected := Untouched.leads_detectVersion session origin c untouched
  rw [run_capabilities_of_unknown session unknown]
  cases ran : session.detectVersion.run.run c with
  | mk reply after =>
    rw [ran] at detected
    cases reply with
    | error failure => exact detected
    | ok version =>
      cases derived : capabilitiesOf version <;> simp only [derived] <;> exact detected

/-- An operation that has to know the version begins with the question for it if nothing is
remembered. -/
theorem Untouched.leads_run {operation : Operation τ} (needed : operation.needsVersion = true)
    (origin : Conversation α τ) :
    Leads (Untouched origin) (operation.run session) fun _ => Begun session origin := by
  have historic := Begun.historic session origin
  have passage : Passage session (Untouched origin) (Begun session origin)
      fun _ => Begun session origin :=
    { undisturbed := Untouched.undisturbed origin
      detects := Untouched.leads_detectVersion session origin
      learns := (Untouched.leads_capabilities session origin).weaken (fun _ holds => holds)
        fun _ _ begun => ⟨begun, fun _ _ => begun⟩
      released := fun _ _ begun => begun
      steady := fun _ => historic.undisturbed
      settled := historic.undisturbed
      again := fun _ => historic.keeps_detectVersion (Begun.ask session origin .info) }
  exact passage.leads_run needed fun _ call _ => Begun.ask session origin call

/-- An operation that needs no version does not ask for it. -/
theorem asksNoVersion_of_needs_nothing (operation : Operation τ)
    (independent : operation.needsVersion = false) (c : Conversation α τ) :
    AsksNoVersion c ((operation.run session).run.run c).2 := by
  have kept : Keeps (AsksNoVersion c) (operation.run session) := by
    refine Operation.keeps_of_needs_nothing independent (fun _ _ _ _ quiet => quiet)
      (fun call own => ?_) fun _ _ quiet => quiet
    rintro d ⟨added, turns, others⟩
    obtain ⟨pending, now, asked⟩ := after_ask session.backend call d
    refine ⟨added ++ [⟨call, ((Talk.ask session.backend call).run.run d).1⟩], ?_, ?_⟩
    · rw [asked, turns, List.append_assoc]
    · intro turn member
      rcases List.mem_append.1 member with before | last
      · exact others turn before
      · rw [List.mem_singleton.1 last]
        exact own.ne_info
  exact kept c ⟨[], by simp⟩

variable {session}

/-- Once the version is known, no course of operations asks for it. -/
theorem Knows.asksNoVersion {c : Conversation α τ} (knows : Knows session c) {version : Version}
    (told : learned c.turns = some version) (operations : List (Operation τ)) :
    AsksNoVersion c (session.after operations c) := by
  obtain ⟨⟨added, turns⟩, _⟩ := session.grown_after operations c
  refine ⟨added, turns.symm, fun turn member => ?_⟩
  obtain ⟨before, after, rfl⟩ := List.append_of_mem member
  have arises := (knows.after operations).arose (c.turns ++ before) turn after
    (by rw [← turns, List.append_assoc])
  rw [learned_append, told, Option.some_or] at arises
  exact arises.ne_info

/-- Once the version is known, it stays what it is. -/
theorem Knows.version_after {c : Conversation α τ} (knows : Knows session c) {version : Version}
    (told : learned c.turns = some version) (operations : List (Operation τ)) :
    (session.after operations c).memory.version = some version := by
  obtain ⟨added, turns, _⟩ := knows.asksNoVersion told operations
  rw [(knows.after operations).version, turns, learned_append, told, Option.some_or]

omit [Seconds τ] in
/-- As long as nothing was told, nothing is remembered. -/
theorem Knows.memory_of_untold {c : Conversation α τ} (knows : Knows session c)
    (untold : learned c.turns = none) : c.memory = {} := by
  have unknown : c.memory.version = none := knows.version.trans untold
  cases derived : c.memory.capabilities with
  | none =>
    have parts : c.memory = ⟨c.memory.version, c.memory.capabilities⟩ := rfl
    rw [parts, unknown, derived]
  | some able =>
    obtain ⟨version, told, _⟩ := knows.capabilities able derived
    simp [unknown] at told

/-- A detection that fails leaves nothing in memory. -/
theorem Knows.memory_of_failed {c : Conversation α τ} (knows : Knows session c)
    {failure : Failure} (failed : (session.detectVersion.run.run c).1 = .error failure) :
    (session.detectVersion.run.run c).2.memory = {} := by
  obtain ⟨informed, remembered⟩ := Knows.leads_detectVersion c knows
  rw [failed] at remembered
  exact informed.memory_of_untold (informed.version.symm.trans remembered)

/-- The version of the engine is found out once. In every course of operations of every session,
over every backend and with every answers: once an answer has told a version, that version stays,
and no later operation asks for it; until then nothing is remembered, and the next operation that
needs the version sends the question for it anew before all else, if the connection is open; a
detection that fails leaves nothing in memory; what the engine can do is remembered as it follows
from the version; operations that need no version do not ask for it, and a request for no values is
one of these; and nothing that depends on the version is asked before it was told. -/
theorem version_is_found_out_once (session : Session α τ) (answers : List (Timed α τ)) (now : τ)
    (operations : List (Operation τ)) :
    let c := session.after operations (.start answers now)
    (∀ version, learned c.turns = some version → ∀ later,
      AsksNoVersion c (session.after later c) ∧
        (session.after later c).memory.version = some version ∧
        ((Operation.detectedVersion.run session).run.run (session.after later c)).1 =
          .ok (some version)) ∧
    (learned c.turns = none → c.memory = {} ∧ ∀ operation : Operation τ,
      operation.needsVersion = true → Begun session c ((operation.run session).run.run c).2) ∧
    (∀ failure, (session.detectVersion.run.run c).1 = .error failure →
      (session.detectVersion.run.run c).2.memory = {}) ∧
    (∀ able, c.memory.capabilities = some able →
      ∃ version, learned c.turns = some version ∧ Capabilities.ofVersion version = .ok able) ∧
    (∀ operation : Operation τ, operation.needsVersion = false →
      AsksNoVersion c ((operation.run session).run.run c).2) ∧
    (∀ (request : FieldRequest) (count : Int), request.limit = .int count → count ≤ 0 →
      AsksNoVersion c ((session.storedFields request).run.run c).2) ∧
    ∀ before turn after, c.turns = before ++ turn :: after →
      turn.call.dependsOnVersion = true → learned before ≠ none := by
  intro c
  have knows : Knows session c := (Knows.start session answers now).after operations
  refine ⟨fun version told later => ?_, fun untold => ?_, fun failure => knows.memory_of_failed,
    fun able present => ?_, fun operation independent => ?_,
    fun request count limit nonpositive => ?_, fun before turn after split depends untold => ?_⟩
  · have remembered := knows.version_after told later
    refine ⟨knows.asksNoVersion told later, remembered, ?_⟩
    exact congrArg Except.ok remembered
  · refine ⟨knows.memory_of_untold untold, fun operation needed => ?_⟩
    exact Untouched.leads_run session needed c c ⟨knows.memory_of_untold untold, rfl, rfl, rfl⟩
  · obtain ⟨version, told, derived⟩ := knows.capabilities able present
    exact ⟨version, knows.version.symm.trans told, derived⟩
  · exact asksNoVersion_of_needs_nothing session operation independent c
  · exact asksNoVersion_of_needs_nothing session (.storedFields request)
      (FieldRequest.goesOut_of_nonpos limit nonpositive) c
  · have arises := knows.arose before turn after split
    rw [untold] at arises
    rw [arises.dependsOnVersion] at depends
    exact Bool.noConfusion depends

end

end EngineGateway
