import EngineGateway.Acknowledgement
import EngineGateway.Json.Membership
import EngineGateway.Session.Basic

/-!
# Creating, deleting and refreshing indices

Two errors of the engine are no failures: that an index to be created is there already, if the
caller says so, and that an index to be deleted is not there.

An index may be created with settings and mappings, given as an object or as JSON text. A blank text
is the same as nothing.
-/

namespace EngineGateway

namespace Index

/-- The settings that a JSON text holds. -/
def settingsOfText (text : Text) : Except Failure Json :=
  match Json.read text with
  | .ok value => .ok value
  | .error error => .error (.unreadable error)

/-- What an engine is sent to set up an index; `null` for nothing. -/
def settingsBody : Json → Except Failure Json
  | .null => .ok .null
  | .str text => if text.isBlankText then .ok .null else settingsOfText text
  | value => (Json.asFields value).map Json.obj

/-- The errors by which the generations of engines say that an index is there already. -/
def existsErrors : List Text :=
  ["resource_already_exists_exception", "index_already_exists_exception",
    "IndexAlreadyExistsException"]

/-- Whether an error payload says that an index is there already. -/
def saysExists (payload : Json) : Bool :=
  match Failure.errorType? payload with
  | some type => existsErrors.contains type
  | none => false

/-- An object is sent as it is. -/
theorem settingsBody_obj (fields : Fields) : settingsBody (.obj fields) = .ok (.obj fields) := rfl

end Index

namespace Session

variable {α τ : Type} [Seconds τ]

/-- The fields of an answer from which something is to be read. -/
def fieldsOf (answer : Json) : Talk α τ Fields :=
  match answer with
  | .obj fields => return fields
  | _ => throw .noMember

/-- Whether an answer says that a request was accepted; without a word on it, it was. -/
def acknowledged (fields : Fields) : Bool := (fields.getD "acknowledged" (.bool true)).truthy

/-- The acknowledgement of a change to something that was asked for by name. It needs the name as a
text. -/
def acknowledge (name : Name) (ack : Text → Acknowledgement) : Except Failure Acknowledgement := do
  return ack (← name.textOr (.invalid Acknowledgement.modelName [⟨[.key "resource"], .text⟩]))

/-- Creates an index. With `keep` an index that is there already is left as it is. -/
def createIndex (session : Session α τ) (name : Name) (keep : Bool) (settings : Json) :
    Talk α τ Acknowledgement := do
  let body ← Talk.outcome (Index.settingsBody settings)
  let answer : Option Json ←
    Talk.onReport (some <$> Talk.ask session.backend (.createIndex name body))
      fun status payload =>
        if !Index.saysExists payload then throw (.reported status payload)
        else if !keep then throw (.indexExists name)
        else return none
  match answer with
  | none =>
    Talk.say .debug ("Index [" ++ name.plain ++ "] already exists, keeping its configuration")
    Talk.outcome (acknowledge name fun resource => { resource, created := some false })
  | some answer =>
    Talk.say .info ("Created index [" ++ name.plain ++ "]")
    let fields ← fieldsOf answer
    Talk.outcome <| acknowledge name fun resource =>
      { resource, acknowledged := acknowledged fields, created := some true }

/-- Whether an index exists. -/
def isExistingIndex (session : Session α τ) (name : Name) : Talk α τ Bool := do
  let found : Bool ← Talk.ask session.backend (.indexExists name)
  Talk.say .debug ("Index [" ++ name.plain ++ "] exists: " ++ Json.displayBool found)
  return found

/-- Deletes an index. One that is not there need not be deleted. -/
def deleteIndex (session : Session α τ) (name : Name) : Talk α τ Acknowledgement := do
  let answer : Option Json ←
    Talk.onReport (some <$> Talk.ask session.backend (.deleteIndex name))
      fun status payload =>
        if status.isMissing then return none else throw (.reported status payload)
  match answer with
  | none =>
    Talk.say .debug ("Index [" ++ name.plain ++ "] does not exist, nothing to delete")
    Talk.outcome (acknowledge name fun resource => { resource, acknowledged := false })
  | some answer =>
    let fields ← fieldsOf answer
    Talk.outcome <| acknowledge name fun resource =>
      { resource, acknowledged := acknowledged fields }

/-- The number of shards that an answer says have failed. -/
def failedShards (fields : Fields) : Json :=
  match (fields.get? "_shards").bind Json.fields? with
  | some shards => shards.getD "failed" (.int 0)
  | none => .int 0

/-- Makes all that was written to an index visible to searches. -/
def refresh (session : Session α τ) (name : Name) : Talk α τ Acknowledgement := do
  let answer : Json ← Talk.ask session.backend (.refresh name)
  let fields ← fieldsOf answer
  Talk.outcome <| acknowledge name fun resource =>
    { resource, acknowledged := !(failedShards fields).truthy }

end Session

end EngineGateway
