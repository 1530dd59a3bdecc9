import EngineGateway.Session.Basic

/-!
# Finding out what the engine is

The version is asked for when an operation first needs it, and once it is known it is not asked for
again. What the engine can do follows from the version and is remembered beside it.

An engine that is asked who it is answers with an object whose field `version` is an object with a
text `number`. Engines of another distribution name it there as well.
-/

namespace EngineGateway

namespace Version

/-- The block of a description that tells of the version. -/
def infoBlock? (payload : Json) : Option Fields := do
  (← (← payload.fields?).get? "version").fields?

/-- The number of the version, as a text or not, and the distribution if it is named by a text. -/
def infoParts? (payload : Json) : Option (Json × Option Text) := do
  let block ← infoBlock? payload
  return (← block.get? "number", (block.get? "distribution").bind Json.text?)

/-- The version in a description. -/
def ofInfo (payload : Json) : Except Failure Version :=
  match infoParts? payload with
  | some (.str number, distribution) =>
    match parse number distribution with
    | .ok version => .ok version
    | .error fault => .error (.malformedInfo (.badVersion fault))
  | _ => .error (.malformedInfo (.noVersion payload))

end Version

namespace Session

variable {α τ : Type} [Seconds τ]

/-- Asks the engine who it is. An engine that answers with an error has not said. -/
def askVersion (session : Session α τ) : Talk α τ Version := do
  let payload ← Talk.onReport (Talk.ask session.backend .info) fun status payload =>
    throw (.malformedInfo (.refused status payload))
  Talk.outcome (Version.ofInfo payload)

/-- What a session says when it has found out the version. -/
def versionNote (version : Version) : Text :=
  "Detected " ++ version.distribution ++ " engine version [" ++ version.text ++ "]"

/-- Finds out the version of the engine, and remembers it. -/
def learnVersion (session : Session α τ) : Talk α τ Version := do
  let version ← askVersion session
  Talk.say .debug (versionNote version)
  modify fun c => { c with memory := { c.memory with version := some version } }
  return version

/-- The version of the engine. -/
def detectVersion (session : Session α τ) : Talk α τ Version := do
  match (← get).memory.version with
  | some version => return version
  | none => learnVersion session

/-- The failure of a session that asked for the version and was not told. -/
def versionFailure : Failure → Failure
  | .reported status payload => .malformedInfo (.refused status payload)
  | other => other

/-- A version that is known is not asked for. -/
theorem run_detectVersion_of_known (session : Session α τ) {version : Version}
    {c : Conversation α τ} (known : c.memory.version = some version) :
    session.detectVersion.run.run c = (.ok version, c) := by
  have looked : (get : Talk α τ (Conversation α τ)).run.run c = (.ok c, c) := rfl
  unfold detectVersion
  simp only [Talk.run_bind, looked, known]
  rfl

/-- A version that is not known is asked for, and remembered if the answer tells it. -/
theorem run_detectVersion_of_unknown (session : Session α τ) {c : Conversation α τ}
    (unknown : c.memory.version = none) :
    session.detectVersion.run.run c =
      match (Talk.ask session.backend .info).run.run c with
      | (.error failure, after) => (.error (versionFailure failure), after)
      | (.ok payload, after) =>
        match Version.ofInfo payload with
        | .error failure => (.error failure, after)
        | .ok version => (.ok version, { after with
            log := after.log ++ [⟨.debug, versionNote version⟩]
            memory := { after.memory with version := some version } }) := by
  have looked : (get : Talk α τ (Conversation α τ)).run.run c = (.ok c, c) := rfl
  unfold detectVersion learnVersion askVersion
  simp only [Talk.run_bind, looked, unknown, Talk.run_onReport]
  cases (Talk.ask session.backend .info).run.run c with
  | mk reply after =>
    cases reply with
    | error failure => cases failure <;> rfl
    | ok payload => cases told : Version.ofInfo payload <;> simp only [told] <;> rfl

/-- The version, if it is known already. -/
def detectedVersion : Talk α τ (Option Version) := return (← get).memory.version

/-- What follows from a version, as the outcome of a computation. -/
def capabilitiesOf (version : Version) : Except Failure Capabilities :=
  (Capabilities.ofVersion version).mapError Failure.badVersion

/-- Derives what the engine can do from its version, and remembers it. -/
def learnCapabilities (session : Session α τ) : Talk α τ Capabilities := do
  let able ← Talk.outcome (capabilitiesOf (← detectVersion session))
  modify fun c => { c with memory := { c.memory with capabilities := some able } }
  return able

/-- What the engine can do. -/
def capabilities (session : Session α τ) : Talk α τ Capabilities := do
  match (← get).memory.capabilities with
  | some able => return able
  | none => learnCapabilities session

/-- A version from which it follows what an engine can do. -/
theorem capabilitiesOf_eq_ok {version : Version} {able : Capabilities}
    (derived : Capabilities.ofVersion version = .ok able) : capabilitiesOf version = .ok able := by
  rw [capabilitiesOf, derived]
  rfl

/-- A version that cannot be compared. -/
theorem capabilitiesOf_eq_error {version : Version} {fault : Version.Fault}
    (derived : Capabilities.ofVersion version = .error fault) :
    capabilitiesOf version = .error (.badVersion fault) := by
  rw [capabilitiesOf, derived]
  rfl

/-- What the engine can do is not derived again. -/
theorem run_capabilities_of_known (session : Session α τ) {able : Capabilities}
    {c : Conversation α τ} (known : c.memory.capabilities = some able) :
    session.capabilities.run.run c = (.ok able, c) := by
  have looked : (get : Talk α τ (Conversation α τ)).run.run c = (.ok c, c) := rfl
  unfold capabilities
  simp only [Talk.run_bind, looked, known]
  rfl

/-- What the engine can do is derived from its version, and remembered. -/
theorem run_capabilities_of_unknown (session : Session α τ) {c : Conversation α τ}
    (unknown : c.memory.capabilities = none) :
    session.capabilities.run.run c =
      match session.detectVersion.run.run c with
      | (.error failure, after) => (.error failure, after)
      | (.ok version, after) =>
        match capabilitiesOf version with
        | .error failure => (.error failure, after)
        | .ok able =>
          (.ok able, { after with memory := { after.memory with capabilities := some able } }) := by
  have looked : (get : Talk α τ (Conversation α τ)).run.run c = (.ok c, c) := rfl
  unfold capabilities learnCapabilities
  simp only [Talk.run_bind, looked, unknown]
  cases session.detectVersion.run.run c with
  | mk reply after =>
    cases reply with
    | error failure => rfl
    | ok version => cases derived : capabilitiesOf version <;> simp only [derived] <;> rfl

/-- Whether the engine knows pipelines. -/
def isIngestSupported (session : Session α τ) : Talk α τ Bool :=
  return (← capabilities session).ingestSupported

/-- The failure of an operation that needs pipelines on an engine without them. -/
def refuseIngest (session : Session α τ) : Talk α τ β := do
  throw (.ingestUnsupported (← detectVersion session).text)

end Session

end EngineGateway
