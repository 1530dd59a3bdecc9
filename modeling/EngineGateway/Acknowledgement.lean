import EngineGateway.Json.Value
import EngineGateway.Validation.Check

/-!
# Acknowledgements

What is left of an engine's answer to a request that changes something: whether it accepted the
request, and, where that makes a difference, whether something new came into being.
-/

namespace EngineGateway

/-- The acknowledgement of a change to a resource. -/
structure Acknowledgement where
  resource : Text
  acknowledged : Bool := true
  created : Option Bool := none
  result : Option Text := none
  deriving Repr, DecidableEq

namespace Acknowledgement

/-- The name of the record. -/
def modelName : String := "Acknowledgement"

/-- The record as data. -/
def toFields (ack : Acknowledgement) : Fields :=
  [("resource", .str ack.resource), ("acknowledged", .bool ack.acknowledged),
    ("created", .ofBool? ack.created), ("result", .ofText? ack.result)]

/-- The record that some data describes. -/
def ofJson : Json → Checked Acknowledgement :=
  Check.record modelName fun fields =>
    Acknowledgement.mk
      <$> Check.required fields "resource" Check.text
      <*> Check.optional fields "acknowledged" true Check.yesNo
      <*> Check.optional fields "created" none (Check.nullable Check.yesNo)
      <*> Check.optional fields "result" none (Check.nullable Check.text)

/-- A record reads back. -/
theorem ofJson_toFields (ack : Acknowledgement) : ofJson (.obj ack.toFields) = .passed ack := by
  obtain ⟨resource, acknowledged, created, result⟩ := ack
  cases created <;> cases result <;> rfl

end Acknowledgement

end EngineGateway
