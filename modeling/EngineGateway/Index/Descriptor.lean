import EngineGateway.HealthState
import EngineGateway.Json.Value
import EngineGateway.Validation.Check

/-!
# Index descriptors

An index together with the health that was last observed of it.
-/

namespace EngineGateway

/-- An index and its last observed health. -/
structure IndexDescriptor where
  name : Text
  settings : Option Fields := none
  health : HealthState := .unknown

namespace IndexDescriptor

/-- The name of the record. -/
def modelName : String := "IndexDescriptor"

/-- The record as data. -/
def toFields (index : IndexDescriptor) : Fields :=
  [("name", .str index.name), ("settings_and_mappings", .ofFields? index.settings),
    ("health_state", .str index.health.name)]

/-- A state of health, by its name. -/
def healthOfJson : Json → Checked HealthState :=
  Check.oneOf (HealthState.all.map HealthState.name) HealthState.ofName?

/-- The record that some data describes. -/
def ofJson : Json → Checked IndexDescriptor :=
  Check.record modelName fun fields =>
    IndexDescriptor.mk
      <$> Check.required fields "name" Check.text
      <*> Check.optional fields "settings_and_mappings" none (Check.nullable Check.dictionary)
      <*> Check.optional fields "health_state" .unknown healthOfJson

/-- A record reads back. -/
theorem ofJson_toFields (index : IndexDescriptor) :
    ofJson (.obj index.toFields) = .passed index := by
  obtain ⟨name, settings, health⟩ := index
  cases settings <;> cases health <;>
    simp [ofJson, toFields, Check.record, Check.required, Check.optional, Fields.get?,
      Check.dictionary, Json.ofFields?, Check.nullable, Check.text, Checked.under] <;> rfl

end IndexDescriptor

end EngineGateway
