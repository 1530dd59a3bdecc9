import EngineGateway.Backend.Call
import EngineGateway.Failure

/-!
# Backends

A backend is a way to an engine: it writes calls as requests and reads answers as replies. It holds
no state. What an answer looks like differs between backends, so it is a parameter.
-/

namespace EngineGateway

/-- The words of an engine that has nothing more to say. -/
def exhausted : String := "script exhausted"

/-- A way to an engine whose answers are of type `α`. -/
structure Backend (α : Type) where
  /-- Which way it is. -/
  name : BackendName
  /-- Whether it can ask for a pipeline by its id. -/
  typedProbe : Bool
  /-- The request for a call, unless it cannot be written. -/
  encode : Call → Except Failure Request
  /-- The reply that an answer means. -/
  decode : (call : Call) → α → Except Failure call.Reply
  /-- What is seen when the connection is closed. A connection that closes without a request refuses
  everything afterwards. -/
  closing : Option Request
  /-- The failure of a call to which no answer comes. -/
  silence : Failure

/-- Whether a closed connection refuses requests. -/
def Backend.closesForGood (backend : Backend α) : Bool := backend.closing.isNone

/-- The request that a call makes over a connection that may be closed, if it makes any. -/
def Backend.requestsOf (backend : Backend α) (closed : Bool) (call : Call) : List Request :=
  match backend.encode call with
  | .ok request => if backend.closesForGood && closed then [] else [request]
  | .error _ => []

/-- A request that a call makes is the request for it. -/
theorem Backend.encode_of_mem_requestsOf {backend : Backend α} {closed : Bool} {call : Call}
    {request : Request} (made : request ∈ backend.requestsOf closed call) :
    backend.encode call = .ok request := by
  unfold requestsOf at made
  split at made
  case h_1 written encoded =>
    split at made
    · simp at made
    · rw [List.mem_singleton.1 made, encoded]
  case h_2 => simp at made

end EngineGateway
