import EngineGateway.Index.Descriptor
import EngineGateway.Json.Membership
import EngineGateway.Session.Basic

/-!
# Waiting for the health of an index

The health of an index is looked at again and again until it is at least yellow, or until a deadline
has passed. Between two looks the session sleeps, each time twice as long as before up to a longest
interval, and never past the deadline. The engine is asked to hold each request back for the time
that is left, but not for longer than the longest interval.

An engine that has nothing more to say ends every wait, so the looks are bounded by the answers that
are to come.
-/

namespace EngineGateway.Session

variable {α τ : Type} [Seconds τ]

/-- The statuses of errors that only say that the health is not known yet. -/
def unavailableStatuses : List Int := [404, 408]

/-- Whether an error only says that the health is not known yet. What has parts cannot be looked for
among the statuses. -/
def isHealthUnavailable (status : Status) : Except Failure Bool := do
  let key ← status.asKey
  return key.whole?.any unavailableStatuses.contains

/-- The health that a payload tells. -/
def healthOf (payload : Json) : HealthState :=
  match payload with
  | .obj fields => HealthState.ofJson (Fields.getD fields "status" .null)
  | _ => .unknown

/-- A descriptor of an index that was asked for by name. It needs the name as a text. -/
def describe (name : Name) (health : HealthState) : Except Failure IndexDescriptor := do
  let text ← name.textOr (.invalid IndexDescriptor.modelName [⟨[.key "name"], .text⟩])
  return { name := text, health }

/-- Looks at the health of an index once. -/
def indexHealth (session : Session α τ) (name : Name) (hold : Option (Span τ)) :
    Talk α τ IndexDescriptor := do
  let holdText ← hold.mapM fun span => Talk.outcome span.holdText
  let payload : Json ← Talk.onReport
    (Talk.ask session.backend (.health name (.ofText? (holdText.map Text.ofString))))
    fun status payload => do
      if ← Talk.outcome (isHealthUnavailable status) then return payload
      else throw (.reported status payload)
  Talk.outcome (describe name (healthOf payload))

/-- What a look at the clock after an unhealthy poll leads to. -/
inductive Verdict (τ : Type) where
  /-- The deadline has passed. -/
  | expired
  /-- Sleep for a time and look again. -/
  | rest (time : τ)

/-- Whether to give up, or how long to sleep. -/
def verdict (deadline interval now : τ) : Verdict τ :=
  let remaining := Seconds.sub deadline now
  if Seconds.notAfter remaining Seconds.zero then .expired
  else .rest (Seconds.earlier interval remaining)

/-- The longest time to hold back a request at a time before the deadline. -/
def holdUntil (deadline longest now : τ) : τ :=
  Seconds.earlier (Seconds.later (Seconds.sub deadline now) Seconds.zero) longest

/-- The interval after an interval. -/
def nextInterval (longest interval : τ) : τ := Seconds.earlier (Seconds.double interval) longest

/-- Looks at the health once, and sleeps and goes on with `next` if it is not well yet and the
deadline has not passed. -/
def poll (session : Session α τ) (name : Name) (limit : Span τ) (deadline interval : τ)
    (next : Talk α τ IndexDescriptor) : Talk α τ IndexDescriptor := do
  let hold := holdUntil deadline session.pacing.longest (← Talk.clock)
  let index ← indexHealth session name (some (.measured hold))
  if index.health.isHealthy then
    Talk.say .debug ("Index [" ++ index.name ++ "] is " ++ index.health.name)
    return index
  match verdict deadline interval (← Talk.clock) with
  | .expired => throw (.healthTimeout index.name limit.text index.health)
  | .rest time =>
    Talk.say .debug ("Index [" ++ index.name ++ "] is " ++ index.health.name ++
      ", next poll in " ++ Seconds.hundredths interval ++ "s")
    Talk.sleep time
    next

/-- Looks at the health until it is well, at most once more than `answers`. -/
def pollUntil (session : Session α τ) (name : Name) (limit : Span τ) (deadline : τ) :
    Nat → τ → Talk α τ IndexDescriptor
  | 0, interval => poll session name limit deadline interval (throw session.backend.silence)
  | answers + 1, interval =>
    poll session name limit deadline interval
      (pollUntil session name limit deadline answers (nextInterval session.pacing.longest interval))

/-- Waits until an index is healthy. -/
def waitForHealthyIndex (session : Session α τ) (name : Name)
    (timeout : Option (Span τ)) : Talk α τ IndexDescriptor := do
  let limit := timeout.getD (.measured session.pacing.limit)
  let started ← Talk.clock
  let deadline := Seconds.add started (← Talk.outcome limit.time)
  pollUntil session name limit deadline (← get).pending.length session.pacing.first

end EngineGateway.Session
