import EngineGateway.Client.Answer
import EngineGateway.Json.Printer
import EngineGateway.Rest.Backend
import EngineGateway.Session.Conversation

/-!
# Recorded answers

Answers of an engine as data, so that a conversation can be held without one. An object stands for
one answer, or for several equal ones, and may say how long the answer takes.

Over HTTP an answer has a status and a body, given as a value, as text or as octets in hexadecimal.
A client library answers with a body, and with a status beside it if it wraps bodies up. Either may
tell of trouble instead.
-/

namespace EngineGateway.Recorded

/-- A text field, empty if it is absent. -/
def textOf (fields : Fields) (key : String) : Text :=
  ((fields.get? key).bind Json.text?).getD ""

/-- What trouble says of itself. -/
def complaintOf (fields : Fields) : Text := ((fields.get? "text").map Json.plain).getD ""

/-- The octets that pairs of hexadecimal digits stand for, up to the first pair that is none. -/
def octetsOfHex : List Char → List UInt8
  | high :: low :: rest =>
    match Text.hexNumber? [high, low] with
    | some n => UInt8.ofNat n :: octetsOfHex rest
    | none => []
  | _ => []

/-- The octets of a recorded body. -/
def bodyOctets (fields : Fields) : List UInt8 :=
  match fields.get? "json", fields.get? "hex" with
  | some body, _ => Text.Octets.encode body.compact.escaped.toList
  | none, some (.str digits) => octetsOfHex digits.shown.toList
  | none, _ => Text.Octets.encode (textOf fields "text").shown.toList

/-- A recorded answer over HTTP. -/
def restAnswer (fields : Fields) : Rest.Answer :=
  match (fields.get? "raise").bind Json.text? with
  | some kind => .failed kind (complaintOf fields)
  | none => .answered (fields.getD "status" .null) (bodyOctets fields)

/-- A recorded error of a client library. -/
def clientError (fields : Fields) : Client.Error where
  kind := textOf fields "raise"
  text := complaintOf fields
  metaStatus := fields.get? "meta_status"
  statusCode := fields.get? "status_code"
  body := fields.get? "body"
  info := fields.get? "info"

/-- A recorded answer of a client library. -/
def clientAnswer (fields : Fields) : Client.Answer :=
  if fields.has "raise" then .raised (clientError fields)
  else
    let body := fields.getD "body" .null
    match fields.get? "meta_status" with
    | some status => .response status body
    | none => .value body

/-- How long an answer takes. -/
def delayOf (fields : Fields) : Float :=
  match fields.get? "advance" with
  | some (.float x) => x
  | some (.int i) => (Decimal.ofInt? i).getD 0
  | _ => 0

/-- How often an answer is given. -/
def timesOf (fields : Fields) : Nat :=
  match fields.get? "repeat" with
  | some (.int n) => n.toNat
  | _ => 1

/-- The answers that a list of objects stands for; what is no object stands for none. -/
def answers (answer : Fields → α) (recorded : List Json) : List (Timed α Float) :=
  recorded.flatMap fun entry =>
    match entry with
    | .obj fields => List.replicate (timesOf fields) ⟨answer fields, delayOf fields⟩
    | _ => []

end EngineGateway.Recorded
