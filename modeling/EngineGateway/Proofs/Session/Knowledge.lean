import EngineGateway.Proofs.Session.Asking

/-!
# What a session knows

What a session remembers of the engine is what the turns of the conversation tell: the version that
the first useful answer named, and what follows from it. Every call arises from an operation and
from what was known when it was made (`Arises`). That a conversation is in this state is an
invariant (`Knows`) of every operation, and so of every course of operations.
-/

namespace EngineGateway

open Session Talk

variable {α τ : Type}

/-- The version that a turn tells of. -/
def Turn.learns : Turn → Option Version
  | ⟨.info, .ok payload⟩ => (Version.ofInfo payload).toOption
  | _ => none

/-- The version that some turns tell of: the first one that any of them does. -/
def learned (turns : List Turn) : Option Version := turns.findSome? Turn.learns

/-- Only the question who the engine is can tell its version. -/
theorem Turn.learns_of_ne_info (turn : Turn) (other : turn.call ≠ .info) : turn.learns = none := by
  unfold Turn.learns
  split
  · exact absurd rfl other
  · rfl

/-- What was learned first counts. -/
theorem learned_append (earlier later : List Turn) :
    learned (earlier ++ later) = (learned earlier).or (learned later) :=
  List.findSome?_append

/-- One more turn tells what it learns, if nothing was learned before. -/
theorem learned_concat (turns : List Turn) (turn : Turn) :
    learned (turns ++ [turn]) = (learned turns).or turn.learns := by
  rw [learned_append]
  cases told : turn.learns <;> simp [learned, told]

/-- How a call comes about, by what is known of the version of the engine: as the question for it,
as a call of an operation that need not know it, or as one whose form follows from it. -/
inductive Arises (session : Session α τ) : Option Version → Call → Prop where
  | detection : Arises session none .info
  | own {known : Option Version} {call : Call} (operation : Operation τ)
      (made : operation.OwnCall call) : Arises session known call
  | bound {version : Version} {able : Capabilities} {call : Call} (operation : Operation τ)
      (derived : Capabilities.ofVersion version = .ok able)
      (made : operation.BoundCall session able call) : Arises session (some version) call

/-- A conversation in which the session remembers what the turns tell, and in which every call arose
from what was known when it was made. -/
structure Knows (session : Session α τ) (c : Conversation α τ) : Prop where
  version : c.memory.version = learned c.turns
  capabilities : ∀ able, c.memory.capabilities = some able →
    ∃ version, c.memory.version = some version ∧ Capabilities.ofVersion version = .ok able
  arose : ∀ before turn after, c.turns = before ++ turn :: after →
    Arises session (learned before) turn.call

/-- The calls of an operation's own are not the question who the engine is. -/
theorem Operation.OwnCall.ne_info {operation : Operation τ} {call : Call}
    (own : operation.OwnCall call) : call ≠ .info := by
  cases operation <;> simp only [Operation.OwnCall] at own <;> grind

/-- Neither are the calls that depend on what the engine can do. -/
theorem Operation.BoundCall.ne_info {session : Session α τ} {able : Capabilities}
    {operation : Operation τ} {call : Call} (bound : operation.BoundCall session able call) :
    call ≠ .info := by
  cases operation <;>
    simp only [Operation.BoundCall, typedWrite, plainWrite, pipelineProbe] at bound <;> grind

/-- Nothing is known before anything was said. -/
theorem Knows.start (session : Session α τ) (answers : List (Timed α τ)) (now : τ) :
    Knows session (.start answers now) where
  version := rfl
  capabilities := by simp [Conversation.start]
  arose before turn after impossible := by simp [Conversation.start] at impossible

/-- What a session knows has nothing to do with the log and the time. -/
theorem Knows.undisturbed (session : Session α τ) : Undisturbed (Knows session) :=
  fun _ _ _ _ knows => ⟨knows.version, knows.capabilities, knows.arose⟩

/-- One more turn is in order if its call arose from what was known. -/
theorem Knows.arose_concat {session : Session α τ} {c : Conversation α τ} (knows : Knows session c)
    (added : Turn) (arises : Arises session (learned c.turns) added.call)
    (before : List Turn) (turn : Turn) (after : List Turn)
    (split : c.turns ++ [added] = before ++ turn :: after) :
    Arises session (learned before) turn.call := by
  rcases List.eq_nil_or_concat after with rfl | ⟨rest, last, rfl⟩
  · obtain ⟨rfl, same⟩ := List.append_inj' split rfl
    obtain rfl := List.singleton_inj.1 same
    exact arises
  · rw [List.concat_eq_append, ← List.cons_append, ← List.append_assoc] at split
    exact knows.arose before turn rest (List.append_inj' split rfl).1

section

variable [Seconds τ] {session : Session α τ}

/-- A call that tells nothing of the version leaves what is known as it was. -/
theorem Knows.ask {c : Conversation α τ} (knows : Knows session c) {call : Call}
    (arises : Arises session (learned c.turns) call) (other : call ≠ .info) :
    Knows session ((ask session.backend call).run.run c).2 := by
  obtain ⟨pending, now, asked⟩ := after_ask session.backend call c
  have silent := Turn.learns_of_ne_info
    ⟨call, ((Talk.ask session.backend call).run.run c).1⟩ other
  rw [asked]
  refine ⟨?_, knows.capabilities, knows.arose_concat _ arises⟩
  rw [learned_concat, silent, Option.or_none]
  exact knows.version

/-- The question for the version leads to what its answer tells. -/
theorem Knows.leads_detectVersion : Leads (Knows session) session.detectVersion fun outcome c =>
    Knows session c ∧ c.memory.version = outcome.toOption := by
  intro c knows
  cases known : c.memory.version with
  | some version =>
    rw [run_detectVersion_of_known session known]
    exact ⟨knows, known⟩
  | none =>
    have untold : learned c.turns = none := by rw [← knows.version, known]
    have unable (able : Capabilities) : c.memory.capabilities ≠ some able := by
      intro present
      obtain ⟨version, told, _⟩ := knows.capabilities able present
      simp [known] at told
    rw [run_detectVersion_of_unknown session known]
    obtain ⟨pending, now, asked⟩ := after_ask session.backend .info c
    cases ran : (Talk.ask session.backend .info).run.run c with
    | mk reply after =>
      rw [ran] at asked
      simp only at asked
      subst asked
      have arose := knows.arose_concat ⟨.info, reply⟩ (untold ▸ .detection)
      have learns := learned_concat c.turns ⟨.info, reply⟩
      rw [untold, Option.none_or] at learns
      cases reply with
      | error failure =>
        exact ⟨⟨known.trans learns.symm, knows.capabilities, arose⟩, known⟩
      | ok payload =>
        cases told : Version.ofInfo payload with
        | error failure =>
          have silent : Turn.learns ⟨.info, .ok payload⟩ = none := by
            simp [Turn.learns, told, Except.toOption]
          simp only [told]
          exact ⟨⟨known.trans (learns.trans silent).symm, knows.capabilities, arose⟩, known⟩
        | ok version =>
          have tells : Turn.learns ⟨.info, .ok payload⟩ = some version := by
            simp [Turn.learns, told, Except.toOption]
          simp only [told]
          refine ⟨⟨(learns.trans tells).symm, fun able present => ?_, arose⟩, rfl⟩
          exact absurd present (unable able)

/-- Deriving what the engine can do leads to what follows from its version. -/
theorem Knows.leads_capabilities : Leads (Knows session) session.capabilities fun outcome c =>
    Knows session c ∧ ∀ able, outcome = .ok able →
      Knows session c ∧ c.memory.capabilities = some able := by
  intro c knows
  cases known : c.memory.capabilities with
  | some able =>
    rw [run_capabilities_of_known session known]
    refine ⟨knows, fun other same => ⟨knows, ?_⟩⟩
    rw [known, Except.ok.inj same]
  | none =>
    have detected := Knows.leads_detectVersion c knows
    rw [run_capabilities_of_unknown session known]
    cases ran : session.detectVersion.run.run c with
    | mk reply after =>
      rw [ran] at detected
      obtain ⟨informed, remembered⟩ := detected
      cases reply with
      | error failure => exact ⟨informed, by simp⟩
      | ok version =>
        cases derived : Capabilities.ofVersion version with
        | error fault =>
          simp only [capabilitiesOf_eq_error derived]
          exact ⟨informed, nofun⟩
        | ok able =>
          have known : after.memory.version = some version := remembered
          simp only [capabilitiesOf_eq_ok derived]
          have follows : Knows session { after with
              memory := { after.memory with capabilities := some able } } :=
            ⟨informed.version, fun other same =>
              ⟨version, known, Option.some.inj same ▸ derived⟩, informed.arose⟩
          refine ⟨follows, fun other same => ⟨follows, ?_⟩⟩
          rw [Except.ok.inj same]

/-- What a session knows when it has learned what the engine can do. -/
theorem Knows.passage (session : Session α τ) : Passage session (Knows session) (Knows session)
    fun able c => Knows session c ∧ c.memory.capabilities = some able where
  undisturbed := Knows.undisturbed session
  detects := Knows.leads_detectVersion.weaken (fun _ knows => knows) fun _ _ reached => reached.1
  learns := Knows.leads_capabilities
  released _ _ held := held.1
  steady _ c log sleeps now held := ⟨Knows.undisturbed session c log sleeps now held.1, held.2⟩
  settled := Knows.undisturbed session
  again able c held := by
    obtain ⟨version, known, _⟩ := held.1.capabilities able held.2
    rw [run_detectVersion_of_known session known]
    exact held

omit [Seconds τ] in
/-- Closing the connection leaves what is known as it was. -/
theorem Knows.close (session : Session α τ) :
    Keeps (Knows session) (Talk.close session.backend) :=
  fun _ knows => ⟨knows.version, knows.capabilities, knows.arose⟩

/-- Every operation leaves a session that knows what the turns tell. -/
theorem Knows.run (session : Session α τ) (operation : Operation τ) :
    Keeps (Knows session) (operation.run session) := by
  cases needed : operation.needsVersion with
  | false =>
    refine Operation.keeps_of_needs_nothing needed (Knows.undisturbed session) (fun call own => ?_)
      fun _ => Knows.close session
    exact fun c knows => knows.ask (.own operation own) own.ne_info
  | true =>
    refine (Knows.passage session).leads_run needed fun able call bound => ?_
    intro c held
    obtain ⟨knows, remembered⟩ := held
    obtain ⟨version, known, derived⟩ := knows.capabilities able remembered
    have arises : Arises session (learned c.turns) call := by
      rw [← knows.version, known]
      exact .bound operation derived bound
    exact knows.ask arises bound.ne_info

/-- So does every course of operations. -/
theorem Knows.after {session : Session α τ} {c : Conversation α τ} (knows : Knows session c)
    (operations : List (Operation τ)) : Knows session (session.after operations c) :=
  Session.after_of_keeps (Knows.run session) operations knows

end

end EngineGateway
