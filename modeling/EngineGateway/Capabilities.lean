import EngineGateway.Validation.Check
import EngineGateway.Version.Precedence

/-!
# What an engine can do

The behaviours of an engine that differ between generations, derived from its version. A
distribution that restarted its numbering cannot be compared with the thresholds; it forked from an
engine beyond all of them, and counts as such whatever its number.
-/

namespace EngineGateway

/-- How an engine addresses mappings: by a type inside the index, or by the index alone. -/
inductive MappingStyle where
  | legacy
  | typeless
  deriving Repr, DecidableEq

/-- The name of a mapping style. -/
def MappingStyle.name : MappingStyle → String
  | .legacy => "legacy"
  | .typeless => "typeless"

/-- Every mapping style, in the order of their declaration. -/
def MappingStyle.all : List MappingStyle := [.legacy, .typeless]

/-- The mapping style with exactly this name. -/
def MappingStyle.ofName? (name : Text) : Option MappingStyle :=
  all.find? fun style => style.name == name

/-- The behaviours of an engine that requests have to respect. -/
structure Capabilities where
  ingestSupported : Bool
  mappingStyle : MappingStyle
  tracksTotalHits : Bool := false
  documentTypeRequired : Bool := false
  deriving Repr, DecidableEq

namespace Capabilities

/-- The distribution with a numbering of its own. -/
def forkDistribution : Text := "opensearch"

/-- The first version with ingest pipelines. -/
def ingestSince : Version := { major := 5, minor := 0, patch := 0, preRelease := some "alpha1" }

/-- The first version without types in its mappings. -/
def typelessSince : Version := { major := 5, minor := 0, patch := 0 }

/-- The first version that counts hits beyond a bound only when asked to. -/
def trackingSince : Version := { major := 7, minor := 0, patch := 0 }

/-- The first version that takes documents without a type in their path. -/
def untypedDocumentsSince : Version := { major := 6, minor := 2, patch := 0 }

/-- The behaviours of an engine beyond all thresholds. -/
def latest : Capabilities where
  ingestSupported := true
  mappingStyle := .typeless
  tracksTotalHits := true

/-- The behaviours of a version. -/
def ofVersion (v : Version) : Except Version.Fault Capabilities :=
  if v.distribution = forkDistribution then .ok latest
  else do
    let ingest ← v.isAtLeast ingestSince
    let typeless ← v.isAtLeast typelessSince
    let tracking ← v.isAtLeast trackingSince
    let untyped ← v.isAtLeast untypedDocumentsSince
    return {
      ingestSupported := ingest
      mappingStyle := if typeless then .typeless else .legacy
      tracksTotalHits := tracking
      documentTypeRequired := !untyped }

/-- The name of the record. -/
def modelName : String := "CapabilitySet"

/-- The record as data. -/
def toFields (able : Capabilities) : Fields :=
  [("ingest_supported", .bool able.ingestSupported), ("mapping_style", .str able.mappingStyle.name),
    ("tracks_total_hits", .bool able.tracksTotalHits),
    ("document_type_required", .bool able.documentTypeRequired)]

/-- A mapping style, by its name. -/
def mappingStyleOfJson : Json → Checked MappingStyle :=
  Check.oneOf (MappingStyle.all.map MappingStyle.name) MappingStyle.ofName?

/-- The record that some data describes. -/
def ofJson : Json → Checked Capabilities :=
  Check.record modelName fun fields =>
    Capabilities.mk
      <$> Check.required fields "ingest_supported" Check.yesNo
      <*> Check.required fields "mapping_style" mappingStyleOfJson
      <*> Check.optional fields "tracks_total_hits" false Check.yesNo
      <*> Check.optional fields "document_type_required" false Check.yesNo

/-- A record reads back. -/
theorem ofJson_toFields (able : Capabilities) : ofJson (.obj able.toFields) = .passed able := by
  obtain ⟨ingest, style, tracks, typed⟩ := able
  cases style <;>
    simp [ofJson, toFields, Check.record, Check.required, Check.optional, Fields.get?, Check.yesNo,
      Checked.under] <;> rfl

/-- The fork's own numbers do not matter. -/
theorem ofVersion_of_fork {v : Version} (fork : v.distribution = forkDistribution) :
    ofVersion v = .ok latest := by
  simp [ofVersion, fork]

end Capabilities

end EngineGateway
