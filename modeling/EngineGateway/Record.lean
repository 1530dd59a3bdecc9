import EngineGateway.Acknowledgement
import EngineGateway.Capabilities
import EngineGateway.Document
import EngineGateway.Index.Descriptor
import EngineGateway.Pipeline
import EngineGateway.Record.Shape
import EngineGateway.Search.Query
import EngineGateway.Search.Result
import EngineGateway.Settings.Basic
import EngineGateway.Version.Record

/-!
# Records

What the records of all kinds have in common: they have fields by name, which can be handed on as
data, and which can be set unless the record is frozen. Setting a field makes no check, so a field
may come to hold any value; it is handed on as what its shape makes of it. Beside its fields a
record has parts that it works by. They can be set as well, frozen or not, and some of them only do
harm when they are needed next.
-/

namespace EngineGateway

/-- A record of any kind. -/
structure Record where
  /-- The name of its kind. -/
  model : String
  /-- The names and shapes of the fields of its kind. -/
  shapes : List (Text × Shape)
  /-- The fields that it has, and what its owner put beside them. -/
  fields : Fields
  frozen : Bool := false
  /-- What is to be done instead when something is set, by its name. -/
  setters : Json := .obj []
  /-- Whether it can take account of the fields that are set. -/
  takesAccount : Bool := true
  /-- Whether it can be handed on. -/
  hasWriter : Bool := true
  /-- Whether it knows what to do when it is asked to set something. -/
  canSet : Bool := true
  /-- Whether it knows what to do when it is asked to hand itself on. -/
  canHandOn : Bool := true

/-- What of a record can be set. -/
inductive Member where
  /-- A field, if the kind has one of this name. -/
  | field
  /-- What every record tells of itself. -/
  | told
  /-- All fields at once. -/
  | allFields
  /-- What the record is. -/
  | kind
  /-- A part that is what it is. -/
  | fixed
  /-- The account of the fields that are set. -/
  | account
  /-- What hands the record on. -/
  | writer
  /-- What is to be done when something is set. -/
  | setters
  /-- How anything is set. -/
  | setting
  /-- How the record is handed on. -/
  | handingOn
  /-- A part that nobody knows, the owner's own affair. -/
  | own

/-- Whether it cannot be set where the record is frozen. -/
def Member.isGuarded : Member → Bool
  | .field | .told => true
  | _ => false

/-- A value for what of a record goes by a name. -/
structure Assignment where
  name : Text
  member : Member
  value : Json
  /-- What of the record is put in the way of its own by the names of the fields, where all of them
  are set at once. -/
  inTheWay : List (Member × Json) := []

namespace Record

/-- A record of a kind with the fields that data of this kind has. All of them are plain but for
those of `shaped`. -/
def ofFields (model : String) (fields : Fields) (shaped : List (Text × Shape)) (frozen : Bool) :
    Record where
  model := model
  shapes := fields.filterMap fun (key, _) =>
    key.name?.map fun name => (name, (shaped.lookup name).getD .plain)
  fields := fields
  frozen := frozen

/-- The shape of a field of the record's kind. -/
def shape? (record : Record) (name : Text) : Option Shape := record.shapes.lookup name

/-- The fields as they are handed on. Those that are none of its kind are passed over, but their
names are read. -/
def handedOn (record : Record) : Except Failure Fields :=
  if !record.canHandOn then .error .wrongKind
  else if !record.hasWriter then .error .noMember
  else record.fields.filterMapM fun (key, value) =>
    match key.name?.bind record.shape? with
    | some shape => return some (key, ← shape.handedOn value)
    | none => if key.isWritable then return none else throw .unencodable

/-- The shapes where a field has been set. -/
def shapesOnceSet (record : Record) (isSet : Text → Bool) : List (Text × Shape) :=
  record.shapes.map fun (name, shape) => (name, if isSet name then shape.onceSet else shape)

/-- The record with a value in a field of its kind. -/
def withField (record : Record) (name : Text) (value : Json) : Record :=
  { record with
    shapes := record.shapesOnceSet (· == name)
    fields := record.fields.put name value }

/-- The record with other fields in the place of all it has. What was put in the way of setting it
or of handing it on goes with them. -/
def withFields (record : Record) (fields : Fields) : Record :=
  { record with
    shapes := record.shapesOnceSet fun _ => true
    fields := fields
    setters := .obj []
    hasWriter := true
    canSet := true
    canHandOn := true }

/-- Asks what is to be done when something of this name is set. Data cannot do anything. -/
def askSetter (record : Record) (name : Text) : Except Failure Unit :=
  match record.setters with
  | .obj setters =>
    match Fields.get? setters name with
    | none | some .null => if record.canSet then .ok () else .error .wrongKind
    | some _ => .error .wrongKind
  | _ => .error .noMember

/-- The record with a field set. -/
def setField (record : Record) (name : Text) (value : Json) : Except Failure Record :=
  if (record.shape? name).isNone then .error (.noField record.model name)
  else if !record.takesAccount then .error .noMember
  else .ok (record.withField name value)

/-- The record with a member of it set. -/
def setMember (record : Record) (name : Text) : Member → Json → Except Failure Record
  | .field, value => record.setField name value
  | .allFields, .obj fields => .ok (record.withFields fields)
  | .allFields, _ | .kind, _ => .error .wrongKind
  | .told, _ | .fixed, _ => .error .noMember
  | .account, _ => .ok { record with takesAccount := false }
  | .writer, _ => .ok { record with hasWriter := false }
  | .setters, value => .ok { record with setters := value }
  | .setting, _ => .ok { record with canSet := false }
  | .handingOn, _ => .ok { record with canHandOn := false }
  | .own, value => .ok { record with fields := record.fields.put name value }

/-- The record with a value set. -/
def set (record : Record) (assignment : Assignment) : Except Failure Record := do
  record.askSetter assignment.name
  if record.frozen && assignment.member.isGuarded then
    throw (.invalid record.model [⟨[.key assignment.name.shown], .unfrozen⟩])
  let changed ← record.setMember assignment.name assignment.member assignment.value
  assignment.inTheWay.foldlM (fun record (member, v) => record.setMember "" member v) changed

/-- The record with some values set, one after the other. -/
def setAll (record : Record) (assignments : List Assignment) : Except Failure Record :=
  assignments.foldlM set record

end Record

/-- A version as a record. -/
def Version.toRecord (v : Version) : Record :=
  .ofFields modelName v.toFields [("major", .whole), ("minor", .whole), ("patch", .whole)] true

/-- What an engine can do as a record. -/
def Capabilities.toRecord (able : Capabilities) : Record :=
  .ofFields modelName able.toFields [] true

/-- A descriptor of an index as a record. -/
def IndexDescriptor.toRecord (index : IndexDescriptor) : Record :=
  .ofFields modelName index.toFields [("settings_and_mappings", .dictionary)] false

/-- A document as a record. -/
def Document.toRecord (document : Document) : Record :=
  .ofFields modelName document.toFields [("source", .dictionary)] false

/-- A search query as a record. -/
def SearchQuery.toRecord (query : SearchQuery) : Record :=
  .ofFields modelName query.toFields
    [("filter", .dictionary), ("requested_fields", .list .plain), ("max_results", .whole)] false

/-- The shapes of the fields of a hit. -/
def SearchHit.shapeOf (name : Text) : Shape :=
  if name == "extracted_fields" then .dictionary else .plain

/-- A hit as a record. -/
def SearchHit.toRecord (hit : SearchHit) : Record :=
  .ofFields modelName hit.toFields [("extracted_fields", shapeOf "extracted_fields")] false

/-- A search result as a record. -/
def SearchResult.toRecord (result : SearchResult) : Record :=
  .ofFields modelName result.toFields
    [("total_hits", .whole), ("hits", .list (.record SearchHit.shapeOf))] false

/-- A pipeline as a record. -/
def Pipeline.toRecord (pipeline : Pipeline) : Record :=
  .ofFields modelName pipeline.toFields [("processors", .list .dictionary)] false

/-- An acknowledgement as a record. -/
def Acknowledgement.toRecord (ack : Acknowledgement) : Record :=
  .ofFields modelName ack.toFields [] false

/-- Settings as a record. -/
def Settings.toRecord (settings : Settings) : Record :=
  .ofFields modelName settings.toFields
    [("timeout_s", .float), ("health_timeout_s", .float), ("health_poll_initial_s", .float),
      ("health_poll_max_s", .float)] false

end EngineGateway
