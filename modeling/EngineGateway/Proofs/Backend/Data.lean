import EngineGateway.Client.Elasticsearch
import EngineGateway.Client.Opensearch
import EngineGateway.Rest.Backend
import EngineGateway.Session.Conversation

/-!
# What an answer means as data

Where a call can be made and an answer is what comes next (`Backend.Meets`), asking comes to what
the answer means. Most calls are answered with data. Over HTTP the data is the object in the body of
an answer of success; one client library hands on what its answer holds (`Client.Holds`), and the
other takes that for an object.
-/

namespace EngineGateway

open Talk

variable {α τ : Type}

/-- A reply as data. -/
def Want.dataOf : (want : Want) → Except Failure want.Reply → Except Failure Json
  | .data, reply => reply
  | _, _ => .error .wrongKind

/-- The data that an answer to a call means. -/
def Backend.data (backend : Backend α) (call : Call) (answer : α) : Except Failure Json :=
  Want.dataOf call.want (backend.decode call answer)

/-- A call can be made, and an answer is what comes next. -/
structure Backend.Meets (backend : Backend α) (c : Conversation α τ) (call : Call) (answer : α) :
    Prop where
  written : ∃ request, backend.encode call = .ok request
  passable : (backend.closesForGood && c.closed) = false
  present : ∃ next rest, c.pending = next :: rest ∧ next.answer = answer

/-- Asking then comes to what the answer means. -/
theorem Backend.Meets.asked [Seconds τ] {backend : Backend α} {d : Conversation α τ} {call : Call}
    {answer : α} (meets : backend.Meets d call answer) :
    ((Talk.ask backend call : Talk α τ call.Reply).run.run d).1 = backend.decode call answer := by
  obtain ⟨⟨request, written⟩, passable, next, rest, present, rfl⟩ := meets
  rw [run_ask_of_answer written passable present]

/-- At the start of a conversation a call that can be written meets the first answer. -/
theorem Backend.meets_start {backend : Backend α} {call : Call} {first : Timed α τ}
    {rest : List (Timed α τ)} {now : τ} (written : ∃ request, backend.encode call = .ok request) :
    backend.Meets (.start (first :: rest) now) call first.answer :=
  ⟨written, Bool.and_false _, first, rest, rfl, rfl⟩

/-- What the answer of a client library holds, if it is one of success. -/
inductive Client.Holds : Client.Answer → Json → Prop where
  | value (held : Json) : Holds (.value held) held
  | response {status : Status} (success : status.isSuccess = true) (held : Json) :
    Holds (.response status held) held

section

variable {call : Call}

/-- Over HTTP an answer whose body can be read is judged by its status and payload. -/
theorem Rest.decode_answered {engine : Rest.Address} {status : Status} {octets : List UInt8}
    {payload : Json} (usable : Rest.addressFault? engine call = none)
    (read : Rest.payloadOf octets = .ok payload) :
    (Rest.backend engine).decode call (.answered status octets) =
      Rest.replyOf call ⟨status, payload⟩ call.want := by
  have responded : Rest.respond (.answered status octets) = .ok ⟨status, payload⟩ := by
    simp only [Rest.respond, read]
    rfl
  change Rest.receive engine call _ = _
  unfold Rest.receive
  rw [usable]
  change Rest.decode call _ = _
  unfold Rest.decode
  rw [responded]

/-- Over HTTP the data of an answer of success is the object that its body holds. -/
theorem Rest.data_answered {engine : Rest.Address} {status : Status} {octets : List UInt8}
    (asks : call.want = .data) (usable : Rest.addressFault? engine call = none) :
    (Rest.backend engine).data call (.answered status octets) =
      Rest.payloadOf octets >>= fun payload => Rest.expectObject call ⟨status, payload⟩ := by
  have decoded : (Rest.backend engine).decode call (.answered status octets) =
      Rest.decode call (.answered status octets) := by
    change Rest.receive engine call _ = _
    unfold Rest.receive
    rw [usable]
  unfold Backend.data
  rw [decoded]
  unfold Rest.decode
  cases read : Rest.payloadOf octets with
  | error failure =>
    have responded : Rest.respond (.answered status octets) = .error failure := by
      simp only [Rest.respond, read]
      rfl
    rw [responded]
    change call.want.dataOf (.error failure) = .error failure
    rw [asks]
    rfl
  | ok payload =>
    have responded : Rest.respond (.answered status octets) = .ok ⟨status, payload⟩ := by
      simp only [Rest.respond, read]
      rfl
    rw [responded]
    change call.want.dataOf (Rest.replyOf call ⟨status, payload⟩ call.want) = _
    rw [asks]
    rfl

/-- One client library hands on what an answer holds. -/
theorem Client.Elasticsearch.data_of_holds {known : List Text} {answer : Client.Answer}
    {held : Json} (asks : call.want = .data) (holds : Client.Holds answer held) :
    (Client.Elasticsearch.backend known).data call answer = .ok held := by
  change Want.dataOf call.want (Client.Elasticsearch.replyOf _ answer call.want) = _
  rw [asks]
  cases holds <;> rfl

/-- The other one takes it for an object. -/
theorem Client.Opensearch.data_eq (known : List Text) (answer : Client.Answer)
    (asks : call.want = .data) : (Client.Opensearch.backend known).data call answer =
      Client.Opensearch.objectOf known answer := by
  change Want.dataOf call.want (Client.Opensearch.replyOf _ call answer call.want) = _
  rw [asks]
  rfl

end

end EngineGateway
