import EngineGateway.Search.Answer
import EngineGateway.Session.Detection
import EngineGateway.Session.Indices

/-!
# Searching

A search counts all matches and reads the fields of one page of them. The other operation here reads
the values of one field only, in the order of the hits.
-/

namespace EngineGateway.Session

variable {α τ : Type} [Seconds τ]

/-- Sends a search and finds the block of hits in its answer. -/
def askHits (session : Session α τ) (index : Name) (body : Fields) : Talk α τ Fields := do
  let answer : Json ← Talk.ask session.backend (.search index (.obj body))
  Talk.outcome (Search.hitsBlock (← fieldsOf answer))

/-- The count of all matches; a lower bound is pointed out. -/
def countHits (hits : Fields) : Talk α τ Int := do
  match Search.lowerBound? hits with
  | some total =>
    Talk.say .warning ("Engine reported a lower bound for total hits: " ++ total.display)
  | none => pure ()
  Talk.outcome (Search.totalHits hits)

/-- Searches an index. -/
def search (session : Session α τ) (query : SearchQuery) : Talk α τ SearchResult := do
  let able ← capabilities session
  let hits ← askHits session (.str query.index)
    (Search.body (.ofFields? query.filter) (.ofNat query.limit) (query.fields.map .str) able)
  let page ← Talk.outcome (Search.readHits query able.mappingStyle hits)
  let total ← countHits hits
  Talk.outcome (Search.resultOf total page)

/-- A request for the values of one field. -/
structure FieldRequest where
  index : Name
  limit : Json
  field : Name
  /-- Where the caller was; it is only said in the log. -/
  pathHint : Json := .null
  filter : Json := .null

/-- The values of one field, as many as asked for at most. -/
def storedFields (session : Session α τ) (request : FieldRequest) : Talk α τ (List Json) := do
  if ← Talk.outcome (Search.isBelowZero request.limit) then throw (.negativeLimit request.limit)
  Talk.say .debug ("Reading field [" ++ request.field.plain ++ "] from [" ++ request.index.plain ++
    "] for path [" ++ request.pathHint.plain ++ "]")
  if request.limit.whole? == some 0 then return []
  let able ← capabilities session
  let hits ← askHits session request.index
    (Search.body request.filter request.limit [request.field] able)
  let values ← Talk.outcome (Search.storedValues request.field able.mappingStyle hits)
  Talk.outcome (Search.atMost request.limit values)

end EngineGateway.Session
