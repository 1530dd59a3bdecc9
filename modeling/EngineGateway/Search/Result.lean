import EngineGateway.Json.Value
import EngineGateway.Validation.Check

/-!
# Search results

The number of documents that match, and one page of them.
-/

namespace EngineGateway

/-- A matching document and the fields that were read from it. -/
structure SearchHit where
  id : Text
  extracted : Fields := []

/-- The count of all matches and a page of hits. -/
structure SearchResult where
  total : Nat
  hits : List SearchHit := []

namespace SearchHit

/-- The name of the record. -/
def modelName : String := "SearchHit"

/-- The record as data. -/
def toFields (hit : SearchHit) : Fields :=
  [("id", .str hit.id), ("extracted_fields", .obj hit.extracted)]

/-- The record that some data describes. -/
def ofJson : Json → Checked SearchHit :=
  Check.record modelName fun fields =>
    SearchHit.mk
      <$> Check.required fields "id" Check.text
      <*> Check.optional fields "extracted_fields" [] Check.dictionary

/-- A record reads back. -/
theorem ofJson_toFields (hit : SearchHit) : ofJson (.obj hit.toFields) = .passed hit := by
  obtain ⟨id, extracted⟩ := hit
  simp [ofJson, toFields, Check.record, Check.required, Check.optional, Fields.get?,
    Check.dictionary, Check.text, Checked.under]
  rfl

end SearchHit

namespace SearchResult

/-- The name of the record. -/
def modelName : String := "SearchResult"

/-- The record as data. -/
def toFields (result : SearchResult) : Fields :=
  [("total_hits", .ofNat result.total),
    ("hits", .arr (result.hits.map fun hit => .obj hit.toFields))]

/-- The record that some data describes. -/
def ofJson : Json → Checked SearchResult :=
  Check.record modelName fun fields =>
    SearchResult.mk
      <$> Check.required fields "total_hits" Check.natural
      <*> Check.optional fields "hits" [] (Check.list SearchHit.ofJson)

/-- A record reads back, with all its hits. -/
theorem ofJson_toFields (result : SearchResult) :
    ofJson (.obj result.toFields) = .passed result := by
  obtain ⟨total, hits⟩ := result
  have count := Check.natural_ofNat total
  have passes : ∀ hit ∈ hits, SearchHit.ofJson (.obj hit.toFields) = .passed (id hit) :=
    fun hit _ => SearchHit.ofJson_toFields hit
  have each := Checked.eachFrom_map passes 0
  rw [List.map_id] at each
  simp [ofJson, toFields, Check.record, Check.required, Check.optional, Fields.get?, count, each,
    Check.list, Checked.under]
  rfl

end SearchResult

end EngineGateway
