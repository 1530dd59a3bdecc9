import EngineGateway.Json.Display
import EngineGateway.Json.Value
import EngineGateway.Validation.Check
import EngineGateway.Version.Basic

/-!
# Versions as data

The record form of a version. Unlike the text form it can hold any pre-release text and any
distribution.
-/

namespace EngineGateway.Version

/-- The name of the record. -/
def modelName : String := "EngineVersion"

/-- The record as data. -/
def toFields (v : Version) : Fields :=
  [("major", .ofNat v.major), ("minor", .ofNat v.minor), ("patch", .ofNat v.patch),
    ("pre_release", .ofText? v.preRelease), ("distribution", .str v.distribution)]

/-- The record that some data describes. -/
def ofJson : Json → Checked Version :=
  Check.record modelName fun fields =>
    Version.mk
      <$> Check.required fields "major" Check.natural
      <*> Check.required fields "minor" Check.natural
      <*> Check.optional fields "patch" 0 Check.natural
      <*> Check.optional fields "pre_release" none (Check.nullable Check.text)
      <*> Check.optional fields "distribution" defaultDistribution Check.text

/-- The text of a version whose fields may hold any values; `none` if one is missing. -/
def textOfFields? (fields : Fields) : Option Text := do
  let major ← fields.get? "major"
  let minor ← fields.get? "minor"
  let patch ← fields.get? "patch"
  let pre ← fields.get? "pre_release"
  let numbers : Text := major.plain ++ "." ++ minor.plain ++ "." ++ patch.plain
  return if pre.truthy then numbers ++ "-" ++ pre.plain else numbers

/-- The fields of a version give its text. -/
theorem textOfFields?_toFields (v : Version) : textOfFields? v.toFields = some v.text := by
  obtain ⟨major, minor, patch, preRelease, distribution⟩ := v
  cases preRelease with
  | none => rfl
  | some pre =>
    by_cases empty : pre.isEmpty = true <;>
      simp [textOfFields?, toFields, text, Fields.get?, Json.ofText?, Json.ofNat, Json.truthy,
        Json.plain, Json.display, empty] <;> rfl

/-- A record reads back, whatever its pre-release text. -/
theorem ofJson_toFields (v : Version) : ofJson (.obj v.toFields) = .passed v := by
  obtain ⟨major, minor, patch, preRelease, distribution⟩ := v
  have first := Check.natural_ofNat major
  have second := Check.natural_ofNat minor
  have third := Check.natural_ofNat patch
  cases preRelease <;>
    simp [ofJson, toFields, Check.record, Check.required, Check.optional, Fields.get?, first,
      second, third, Json.ofText?, Check.nullable, Check.text, Checked.under] <;> rfl

end EngineGateway.Version
