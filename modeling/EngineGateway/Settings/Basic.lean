import EngineGateway.BackendName
import EngineGateway.Validation.Check

/-!
# Settings

What a session needs to know: how to reach the engine, how long to wait for it, and how to address
documents on an engine that wants a type in their path. Waiting times are in seconds and above zero;
only the limit of a health wait may be zero.
-/

namespace EngineGateway

/-- The settings of a session. -/
structure Settings where
  backend : BackendName := .elasticsearch
  url : Text := "http://localhost:9200"
  timeout : Float := 30
  verifyCerts : Bool := true
  healthTimeout : Float := 30
  firstPoll : Float := 0.1
  longestPoll : Float := 2
  legacyDocumentType : Text := "doc"

namespace Settings

/-- The name of the record. -/
def modelName : String := "EngineSettings"

/-- The settings of a session that is told nothing. -/
def standard : Settings := {}

/-- The record as data. -/
def toFields (settings : Settings) : Fields :=
  [("backend", .str settings.backend.name), ("url", .str settings.url),
    ("timeout_s", .float settings.timeout), ("verify_certs", .bool settings.verifyCerts),
    ("health_timeout_s", .float settings.healthTimeout),
    ("health_poll_initial_s", .float settings.firstPoll),
    ("health_poll_max_s", .float settings.longestPoll),
    ("legacy_document_type", .str settings.legacyDocumentType)]

/-- A way to reach an engine, by its name. -/
def backendOfJson : Json → Checked BackendName :=
  Check.oneOf (BackendName.all.map BackendName.name) BackendName.ofName?

/-- The record that some data describes. -/
def ofJson : Json → Checked Settings :=
  Check.record modelName fun fields =>
    Settings.mk
      <$> Check.optional fields "backend" standard.backend backendOfJson
      <*> Check.optional fields "url" standard.url Check.text
      <*> Check.optional fields "timeout_s" standard.timeout Check.positive
      <*> Check.optional fields "verify_certs" standard.verifyCerts Check.yesNo
      <*> Check.optional fields "health_timeout_s" standard.healthTimeout Check.nonNegative
      <*> Check.optional fields "health_poll_initial_s" standard.firstPoll Check.positive
      <*> Check.optional fields "health_poll_max_s" standard.longestPoll Check.positive
      <*> Check.optional fields "legacy_document_type" standard.legacyDocumentType Check.text

end Settings

end EngineGateway
