import EngineGateway.Proofs.Conversation.Event
import EngineGateway.Proofs.Rest.Reaching
import EngineGateway.Proofs.Text.Octets
import EngineGateway.Rest.Backend

/-!
# Events over HTTP

What an engine does comes over HTTP as it is: its status, and octets that stand for its object. A
call is carried if its request could be written, its address says by which rules it is to be read,
and the connection was open.
-/

namespace EngineGateway.Rest

/-- The octets of a JSON text in UTF-8 stand for its value. -/
theorem payloadOf_encode {letters : List Char} {value : Json}
    (plain : Text.Wide.detect (Text.Octets.encode letters) = (.utf8, Text.Octets.encode letters))
    (read : Json.read (.ofChars letters) = .ok value) :
    payloadOf (Text.Octets.encode letters) = .ok value := by
  have readable : readOctets? (Text.Octets.encode letters) = some (.ok value) := by
    simp only [readOctets?, plain, Text.Wide.points?, Text.Octets.points?_encode, Option.map_some]
    exact congrArg some read
  have written : (Text.Octets.encode letters).isEmpty = false := by
    cases letters with
    | nil => cases read
    | cons first rest =>
      obtain ⟨b, more, spelled, -⟩ := Text.Octets.encode_cons first rest
      rw [spelled]
      rfl
  rw [payloadOf, if_neg (by simp [written])]
  simp only [readable]

/-- The answers over HTTP that convey an event. -/
inductive Conveys : Event → Answer → Prop where
  | answered {status : Int} {fields : Fields} {octets : List UInt8}
      (read : payloadOf octets = .ok (.obj fields)) :
      Conveys (.answered status fields) (.answered (.int status) octets)
  | lost {kind : Text} (text : Text) (ofTransport : passesThrough kind = false) :
      Conveys .lost (.failed kind text)

/-- Whether the call of a turn could be carried to an engine, and its answer back. -/
def Carries (engine : Address) (turn : Turn) : Prop :=
  (∃ request, (backend engine).encode turn.call = .ok request) ∧
    addressFault? engine turn.call = none ∧ turn.reply ≠ .error .closed

/-- What an answer with a status and an object means is what the event means. -/
theorem alike_replyOf (call : Call) (status : Int) (fields : Fields) (want : Want) :
    Alike want.Matches (replyOf call ⟨.int status, .obj fields⟩ want)
      ((Event.answered status fields).reply want) := by
  cases want with
  | data =>
    by_cases success : Status.isSuccess (.int status) = true
    · simp only [replyOf, expectObject, RawResponse.ok, Event.reply, success]
      exact .value rfl
    · simp only [replyOf, expectObject, RawResponse.ok, Event.reply, success]
      exact .failure (.same _)
  | presence =>
    by_cases missing : status = 404
    · subst missing
      exact .value rfl
    · have present : Status.isMissing (.int status) = false := by
        simpa [Status.isMissing, Json.whole?, Json.key?, Key.whole?] using missing
      by_cases success : Status.isSuccess (.int status) = true
      · simp only [replyOf, expectPresence, RawResponse.ok, Event.reply, present, missing, success]
        exact .value rfl
      · simp only [replyOf, expectPresence, RawResponse.ok, Event.reply, present, missing, success]
        exact .failure (.same _)
  | response => exact .value (Want.matches_self .response _)

/-- An answer to a call that was carried means what the event means that it conveys. -/
theorem alike_decode {engine : Address} {turn : Turn} (carries : Carries engine turn)
    {event : Event} {answer : Answer} (conveys : Conveys event answer) :
    Alike turn.call.want.Matches ((backend engine).decode turn.call answer)
      (event.reply turn.call.want) := by
  change Alike _ (receive engine turn.call answer) _
  cases conveys with
  | answered read =>
    simp only [receive, carries.2.1, decode, respond, read]
    exact alike_replyOf turn.call _ _ turn.call.want
  | lost text ofTransport =>
    simp only [receive, decode, respond, trouble, ofTransport]
    exact .failure (.unreached ..)

/-- How events come over HTTP. -/
def rendering (engine : Address) : Rendering Answer where
  backend := backend engine
  conveys _ := Conveys
  carries := Carries engine
  silent := .unreached ..
  refused _ carried := absurd rfl carried.2.2
  written _ _ _ carried := carried.1
  heard _ _ _ _ _ carried := alike_decode carried

end EngineGateway.Rest

namespace EngineGateway

/-- What an engine of version 8.11.0 says of itself. -/
def eightText : List Char := "\x7b\"version\": \x7b\"number\": \"8.11.0\"\x7d\x7d".toList

/-- What it means. -/
def namesEight : Json := .obj [("version", .obj [("number", .str "8.11.0")])]

/-- The octets of what it says stand for what it means. -/
theorem Rest.payloadOf_eightText : payloadOf (Text.Octets.encode eightText) = .ok namesEight :=
  payloadOf_encode (by rfl) (by cbv)

/-- Over HTTP it is heard as it is meant. -/
theorem Rest.decode_eightText :
    (backend simplest).decode .info (.answered (.int 200) (Text.Octets.encode eightText)) =
      .ok namesEight := by
  have usable : addressFault? simplest .info = none := rfl
  change receive simplest .info (.answered (.int 200) (Text.Octets.encode eightText)) = _
  unfold receive
  rw [usable]
  simp only [decode, respond, payloadOf_eightText]
  rfl

end EngineGateway
