import EngineGateway.Json.Value
import EngineGateway.Validation.Check

/-!
# Documents

A document of an index. It is written under its id, over whatever stood there before.
-/

namespace EngineGateway

/-- A document, and the pipeline that it goes through on its way into the index. -/
structure Document where
  id : Text
  index : Text
  source : Fields := []
  pipeline : Option Text := none

namespace Document

/-- The name of the record. -/
def modelName : String := "Document"

/-- The record as data. -/
def toFields (document : Document) : Fields :=
  [("id", .str document.id), ("index", .str document.index), ("source", .obj document.source),
    ("pipeline_id", .ofText? document.pipeline)]

/-- The record that some data describes. -/
def ofJson : Json → Checked Document :=
  Check.record modelName fun fields =>
    Document.mk
      <$> Check.required fields "id" Check.text
      <*> Check.required fields "index" Check.text
      <*> Check.optional fields "source" [] Check.dictionary
      <*> Check.optional fields "pipeline_id" none (Check.nullable Check.text)

/-- The pipeline, if there is one; an empty name is none. -/
def namedPipeline (document : Document) : Option Text :=
  document.pipeline.filter fun name => !name.isEmpty

/-- A record reads back. -/
theorem ofJson_toFields (document : Document) :
    ofJson (.obj document.toFields) = .passed document := by
  obtain ⟨id, index, source, pipeline⟩ := document
  cases pipeline <;>
    simp [ofJson, toFields, Check.record, Check.required, Check.optional, Fields.get?,
      Check.dictionary, Json.ofText?, Check.nullable, Check.text, Checked.under] <;> rfl

end Document

end EngineGateway
