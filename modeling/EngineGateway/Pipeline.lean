import EngineGateway.Json.Value
import EngineGateway.Validation.Check

/-!
# Ingest pipelines

The definition of a pipeline: the processors that a document runs through before it is stored.
-/

namespace EngineGateway

/-- The definition of an ingest pipeline. -/
structure Pipeline where
  id : Text
  processors : List Fields := []
  description : Option Text := none

namespace Pipeline

/-- The name of the record. -/
def modelName : String := "Pipeline"

/-- The processors as a list of objects. -/
def processorList (pipeline : Pipeline) : Json := .arr (pipeline.processors.map Json.obj)

/-- The record as data. -/
def toFields (pipeline : Pipeline) : Fields :=
  [("id", .str pipeline.id), ("processors", pipeline.processorList),
    ("description", .ofText? pipeline.description)]

/-- The record that some data describes. -/
def ofJson : Json → Checked Pipeline :=
  Check.record modelName fun fields =>
    Pipeline.mk
      <$> Check.required fields "id" Check.text
      <*> Check.optional fields "processors" [] (Check.list Check.dictionary)
      <*> Check.optional fields "description" none (Check.nullable Check.text)

/-- What an engine is sent to store the pipeline. A description that is absent is left out. -/
def body (pipeline : Pipeline) : Fields :=
  match pipeline.description with
  | none => [("processors", pipeline.processorList)]
  | some description => [("processors", pipeline.processorList), ("description", .str description)]

/-- The processors are always sent. -/
theorem get?_body_processors (pipeline : Pipeline) :
    pipeline.body.get? "processors" = some pipeline.processorList := by
  unfold body
  split <;> rfl

end Pipeline

end EngineGateway
