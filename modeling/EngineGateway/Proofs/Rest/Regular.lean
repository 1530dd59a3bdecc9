import EngineGateway.Proofs.Backend.Honest
import EngineGateway.Proofs.Conversation.Ending
import EngineGateway.Proofs.Rest.Reaching
import EngineGateway.Proofs.Version.Countable
import EngineGateway.Session.Conversation
import EngineGateway.Session.Detection

/-!
# Regular answers

Over HTTP an engine may answer with any status and any octets, or be lost on the way by trouble of
the transport. Such an answer is regular, unless its body cannot be read for its depth, or names a
version that cannot be compared for its length. A call that reaches the engine over an open
connection ends, if all answers are regular, in a reply of the kind that is wanted or in a failure
that a caller has to expect (`Declared`).
-/

namespace EngineGateway

/-- The failures that a caller has to expect: the engine was not reached or answered with what is of
no use, it reported an error, an index is there already, an index did not become healthy in time, or
the engine knows no pipelines. -/
inductive Failure.Declared : Failure → Prop where
  | unreachable (kind text : Text) : Declared (.unreachable kind text)
  | notAnObject (method path : Text) (payload : Json) : Declared (.notAnObject method path payload)
  | malformedInfo (fault : InfoFault) : Declared (.malformedInfo fault)
  | reported (status : Int) (payload : Json) : Declared (.reported (.int status) payload)
  | indexExists (index : Json) : Declared (.indexExists index)
  | healthTimeout (index limit : Text) (last : HealthState) :
    Declared (.healthTimeout index limit last)
  | ingestUnsupported (version : Text) : Declared (.ingestUnsupported version)

namespace Rest

/-- An answer with a status, and with a body that can be read and names no version that is too long
to be compared; or trouble of the transport. -/
inductive Answer.Regular : Answer → Prop where
  | answered (status : Int) {octets : List UInt8} {payload : Json}
      (read : payloadOf octets = .ok payload)
      (countable : ∀ version, Version.ofInfo payload = .ok version → version.Countable) :
      Regular (.answered (.int status) octets)
  | lost {kind : Text} (text : Text) (ofTransport : passesThrough kind = false) :
      Regular (.failed kind text)

/-- A result that is a value of some kind or a declared failure. -/
def Orderly {β : Type} (good : β → Prop) : Except Failure β → Prop
  | .ok value => good value
  | .error failure => failure.Declared

variable {τ : Type}

/-- A conversation over an open connection in which all answers to come are regular and the version,
if it is known, can be compared. -/
structure Sound (c : Conversation Answer τ) : Prop where
  passable : c.closed = false
  regular : ∀ next ∈ c.pending, next.answer.Regular
  countable : ∀ version, c.memory.version = some version → version.Countable

/-- The failures with which a session may end: declared ones, others that are `excused`, and, where
a call could not reach the engine, what prevented it. -/
def Allowed (engine : Address) (excused : Failure → Conversation Answer τ → Prop)
    (failure : Failure) (c : Conversation Answer τ) : Prop :=
  failure.Declared ∨ excused failure c ∨
    failure.isReport = false ∧ ∃ turn ∈ c.turns, ¬Reaches engine turn.call

/-- What is said and how time passes has nothing to do with it. -/
theorem Sound.undisturbed : Talk.Undisturbed (Sound : Conversation Answer τ → Prop) :=
  fun _ _ _ _ sound => ⟨sound.passable, sound.regular, sound.countable⟩

/-- A conversation that begins with regular answers is sound. -/
theorem Sound.start {answers : List (Timed Answer τ)}
    (regular : ∀ next ∈ answers, next.answer.Regular) (began : τ) :
    Sound (.start answers began) where
  passable := rfl
  regular := regular
  countable := nofun

section

variable [Seconds τ] {engine : Address} {call : Call}
  {excused : Failure → Conversation Answer τ → Prop}

/-- An answer that was taken leaves a sound conversation. -/
theorem Sound.taken {c : Conversation Answer τ} (sound : Sound c) {next : Timed Answer τ}
    {rest : List (Timed Answer τ)} (present : c.pending = next :: rest) (request : Request)
    (turn : Turn) : Sound { c with
      sent := c.sent ++ [request]
      pending := rest
      now := Seconds.add c.now next.delay
      turns := c.turns ++ [turn] } where
  passable := sound.passable
  regular later member := sound.regular later (present ▸ List.mem_cons_of_mem _ member)
  countable := sound.countable

end

end Rest

end EngineGateway
