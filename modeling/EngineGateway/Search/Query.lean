import EngineGateway.Json.Value
import EngineGateway.Validation.Check

/-!
# Search queries

A search over one index: which documents, which of their fields, and how many.
-/

namespace EngineGateway

/-- A search over one index. Without a filter it is for all documents. -/
structure SearchQuery where
  index : Text
  filter : Option Fields := none
  fields : List Text := []
  limit : Nat := 10

namespace SearchQuery

/-- The name of the record. -/
def modelName : String := "SearchQuery"

/-- The record as data. -/
def toFields (query : SearchQuery) : Fields :=
  [("target_index", .str query.index), ("filter", .ofFields? query.filter),
    ("requested_fields", .ofTexts query.fields), ("max_results", .ofNat query.limit)]

/-- The record that some data describes. -/
def ofJson : Json → Checked SearchQuery :=
  Check.record modelName fun fields =>
    SearchQuery.mk
      <$> Check.required fields "target_index" Check.text
      <*> Check.optional fields "filter" none (Check.nullable Check.dictionary)
      <*> Check.optional fields "requested_fields" [] (Check.list Check.text)
      <*> Check.optional fields "max_results" 10 Check.natural

/-- A record reads back. -/
theorem ofJson_toFields (query : SearchQuery) : ofJson (.obj query.toFields) = .passed query := by
  obtain ⟨index, filter, fields, limit⟩ := query
  have texts := Check.list_ofTexts fields
  have count := Check.natural_ofNat limit
  cases filter <;>
    simp [ofJson, toFields, Check.record, Check.required, Check.optional, Fields.get?, texts, count,
      Json.ofFields?, Check.nullable, Check.dictionary, Check.text, Checked.under] <;> rfl

end SearchQuery

end EngineGateway
