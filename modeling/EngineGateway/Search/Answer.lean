import EngineGateway.Name
import EngineGateway.Search.FieldValues
import EngineGateway.Search.Query
import EngineGateway.Search.Result

/-!
# Searches and their answers

What an engine is asked for a search, and how its answer is read. The count of all matches is a
number in the answers of older engines and an object in those of newer ones, which may call it a
lower bound.
-/

namespace EngineGateway.Search

/-- The query for all documents. -/
def matchAll : Json := .obj [("match_all", .obj [])]

/-- The query of a search: the given filter, unless there is nothing in it. -/
def queryOf (filter : Json) : Json := if filter.truthy then filter else matchAll

/-- The part of a search body that says which fields to hand out. -/
def fieldRequest (style : MappingStyle) (fields : List Name) : Key × Json :=
  match style with
  | .legacy => ("fields", .arr fields)
  | .typeless => ("_source", if fields.isEmpty then .bool false else .arr fields)

/-- The body of a search request. -/
def body (filter limit : Json) (fields : List Name) (able : Capabilities) : Fields :=
  let tracking : Fields := if able.tracksTotalHits then [("track_total_hits", .bool true)] else []
  ("query", queryOf filter) :: ("size", limit) ::
    (tracking ++ [fieldRequest able.mappingStyle fields])

/-- The fields that a value asks for: its items. Where documents are handed out in parts, what
counts as false asks for none. -/
def askedFields (style : MappingStyle) (fields : Json) : Except Failure (List Name) :=
  if style == .typeless && !fields.truthy then .ok []
  else (fields.elements?.map Except.ok).getD (.error .wrongKind)

/-- The body of a request for the fields that a value asks for. -/
def bodyFor (filter limit fields : Json) (able : Capabilities) : Except Failure Fields := do
  return body filter limit (← askedFields able.mappingStyle fields) able

/-- The block of hits in the answer to a search, whose fields are `response`. -/
def hitsBlock (response : Fields) : Except Failure Fields :=
  match (response.get? "hits").bind Json.fields? with
  | some hits => .ok hits
  | none => .error (.malformedSearch (.noHits (.obj response)))

/-- The count in a block of hits, in either form. -/
def totalOf (hits : Fields) : Option Json :=
  match hits.get? "total" with
  | some (.obj total) => Fields.get? total "value"
  | other => other

/-- A count that its block calls a lower bound. -/
def lowerBound? (hits : Fields) : Option Json :=
  match hits.get? "total" with
  | some (.obj total) =>
    if (Fields.getD total "relation" (.str "eq")).text? == some "eq" then none
    else some (.obj total)
  | _ => none

/-- The number of all matches. -/
def totalHits (hits : Fields) : Except Failure Int :=
  match totalOf hits with
  | some (.int total) => .ok total
  | _ => .error (.malformedSearch (.noTotal hits))

/-- The hits in their block. None are the same as an empty list. -/
def rawHits (hits : Fields) : Except Failure (List Json) :=
  let listed := hits.getD "hits" .null
  if listed.truthy then
    match listed.elements? with
    | some items => .ok items
    | none => .error .wrongKind
  else .ok []

/-- A field that was asked for, if it has values. A single value stands alone. -/
def extractedField (hit : Fields) (style : MappingStyle) (field : Text) : Option (Key × Json) :=
  match fieldValues hit field style with
  | [] => none
  | [value] => some (field, value)
  | values => some (field, .arr values)

/-- One hit of a search, which needs an id. -/
def readHit (query : SearchQuery) (style : MappingStyle) (raw : Json) : Except Failure SearchHit :=
  match raw with
  | .obj hit =>
    match Fields.getD hit "_id" .null with
    | .null => .error (.malformedSearch (.noId raw))
    | id => .ok {
        id := id.plain
        extracted := Fields.ofAssignments (query.fields.filterMap (extractedField hit style)) }
  | _ => .error (.malformedSearch (.noId raw))

/-- The hits of a search. -/
def readHits (query : SearchQuery) (style : MappingStyle) (hits : Fields) :
    Except Failure (List SearchHit) := do
  (← rawHits hits).mapM (readHit query style)

/-- A count and a page of hits; a count below zero is complained about. -/
def resultOf (total : Int) (hits : List SearchHit) : Except Failure SearchResult :=
  if total < 0 then
    .error (.invalid SearchResult.modelName [⟨[.key "total_hits"], .nonNegative⟩])
  else .ok { total := total.toNat, hits }

/-- The values in a hit of a field whose name is no text. Stored fields can be asked for what can be
a key, and have none of that name; and it is no path. -/
def namelessValues (hit : Fields) (field : Json) (style : MappingStyle) :
    Except Failure (List Json) :=
  if (storedBlock? hit).isSome && field.key?.isNone then .error .wrongKind
  else
    match style with
    | .legacy => .ok []
    | .typeless => .error .noMember

/-- The values of one field in a hit. -/
def hitValues (field : Name) (style : MappingStyle) (raw : Json) : Except Failure (List Json) :=
  match raw, field with
  | .obj hit, .str name => .ok (fieldValues hit name style)
  | .obj hit, other => namelessValues hit other style
  | _, _ => .error .noMember

/-- The values of one field in all hits, in the order of the hits. -/
def storedValues (field : Name) (style : MappingStyle) (hits : Fields) :
    Except Failure (List Json) := do
  return (← (← rawHits hits).mapM (hitValues field style)).flatten

/-- Whether a number of results is below zero. An undefined float is not. -/
def isBelowZero : Json → Except Failure Bool
  | .int i => .ok (i < 0)
  | .float x => .ok (x < 0)
  | .bool _ => .ok false
  | _ => .error .wrongKind

/-- The results up to a number of them. -/
def atMost (limit : Json) (results : List Json) : Except Failure (List Json) :=
  match limit with
  | .int i => .ok (results.take i.toNat)
  | .bool b => .ok (if b then results.take 1 else [])
  | _ => .error .wrongKind

/-- There are never more results than asked for. -/
theorem length_le_of_atMost {limit : Nat} {results kept : List Json}
    (taken : atMost (.int limit) results = .ok kept) : kept.length ≤ limit := by
  have same : results.take limit = kept := by simpa [atMost] using taken
  rw [← same, List.length_take]
  exact Nat.min_le_left limit results.length

end EngineGateway.Search
