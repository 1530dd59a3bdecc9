import EngineGateway.Document
import EngineGateway.Proofs.Search.Leaves
import EngineGateway.Search.Answer
import Mathlib.Data.List.Forall2

/-!
# Reading the answer to a search

Apart from what is said on the way, a search makes its result of the answer alone (`resultFrom`),
and so does the reading of one field (`valuesFrom`). Engines report documents in two ways: older
ones list the leaves of each field that was asked for, newer ones hand out the documents. Both ways
show the same documents, and what is read from a report depends only on the documents that it shows.
-/

namespace EngineGateway.Search

/-- The result that a search makes of an answer. -/
def resultFrom (query : SearchQuery) (style : MappingStyle) (answer : Fields) :
    Except Failure SearchResult := do
  let hits ← hitsBlock answer
  let page ← readHits query style hits
  resultOf (← totalHits hits) page

/-- The values of one field that are made of an answer. -/
def valuesFrom (field : Name) (limit : Json) (style : MappingStyle) (answer : Fields) :
    Except Failure (List Json) := do
  let hits ← hitsBlock answer
  atMost limit (← storedValues field style hits)

/-- The leaves of a document at the end of the path that a field's name is. -/
def leavesIn (document : Document) (field : Text) : List Json :=
  leaves (pathSteps field) (.obj document.source)

/-- Values as they are listed; no values are not listed. -/
def listed : List Json → Option Json
  | [] => none
  | values => some (.arr values)

/-- Values as they are handed out: a single one stands alone. -/
def wrapped : List Json → Option Json
  | [] => none
  | [value] => some value
  | values => some (.arr values)

/-- A field with its values as they are handed out, if it has any. -/
def entry (field : Text) (values : List Json) : Option (Key × Json) :=
  (wrapped values).map fun value => (.name field, value)

/-- What a search gives of a document. -/
def hitFor (asked : List Text) (document : Document) : SearchHit where
  id := document.id
  extracted := Fields.ofAssignments
    (asked.filterMap fun field => entry field (leavesIn document field))

/-- What a search gives of some documents. -/
def resultFor (total : Nat) (asked : List Text) (documents : List Document) : SearchResult where
  total
  hits := documents.map (hitFor asked)

/-- A hit shows a document: it has its id, and its fields have the leaves of the document for
values. -/
structure Shows (style : MappingStyle) (asked : List Text) (document : Document) (hit : Fields) :
    Prop where
  id : hit.get? "_id" = some (.str document.id)
  values : ∀ field ∈ asked, fieldValues hit field style = leavesIn document field

/-- A hit that lists the leaves of each field that was asked for, if there are any. -/
structure StoredHit (asked : List Text) (document : Document) (hit : Fields) : Prop where
  id : hit.get? "_id" = some (.str document.id)
  stored : ∀ field ∈ asked,
    (storedBlock? hit).bind (·.get? field) = listed (leavesIn document field)

/-- A hit that hands out the document. -/
structure SourceHit (document : Document) (hit : Fields) : Prop where
  id : hit.get? "_id" = some (.str document.id)
  source : hit.get? "_source" = some (.obj document.source)
  bare : hit.get? "fields" = none

/-- A count as newer engines may give it: a number, or an object that says that it is exact. -/
def CountsExactly (total : Nat) (count : Json) : Prop :=
  count = .int total ∨ ∃ fields, count = .obj fields ∧
    Fields.get? fields "value" = some (.int total) ∧
    Fields.get? fields "relation" = some (.str "eq")

/-- An answer that counts as `counts` says, and has one hit for each of some documents, in their
order, each of which is as `shows` says. -/
structure Reports (counts : Json → Prop) (shows : Document → Fields → Prop)
    (documents : List Document) (answer : Fields) : Prop where
  hits : ∃ (block : Fields) (count : Json) (raws : List Json),
    answer.get? "hits" = some (.obj block) ∧
    block.get? "total" = some count ∧ counts count ∧ block.get? "hits" = some (.arr raws) ∧
    List.Forall₂ (fun document raw => ∃ hit, raw = .obj hit ∧ shows document hit) documents raws

/-- The report of an engine that lists stored fields. -/
def ReportsStored (total : Nat) (asked : List Text) : List Document → Fields → Prop :=
  Reports (· = .int total) (StoredHit asked)

/-- The report of an engine that hands out documents. -/
def ReportsSources (total : Nat) : List Document → Fields → Prop :=
  Reports (CountsExactly total) SourceHit

/-- The hit that lists the leaves of each field that was asked for. -/
def storedHit (asked : List Text) (document : Document) : Fields :=
  [("_id", .str document.id), ("fields", .obj (Fields.ofAssignments (asked.filterMap fun field =>
    (listed (leavesIn document field)).map fun values => (.name field, values))))]

/-- The hit that hands out a document. -/
def sourceHit (document : Document) : Fields :=
  [("_id", .str document.id), ("_source", .obj document.source)]

/-- Among fields that were put in for some names each of these names is found. -/
theorem get?_foldl_put (give : Text → Option Json) (names : List Text) (field : Text)
    (start : Fields) :
    Fields.get? ((names.filterMap fun name => (give name).map fun value =>
      (Key.name name, value)).foldl (fun fields a => fields.put a.1 a.2) start) field =
      if field ∈ names then (give field).or (start.get? field) else start.get? field := by
  induction names generalizing start with
  | nil => rfl
  | cons name rest inductionHypothesis =>
    cases given : give name with
    | none =>
      rw [List.filterMap_cons_none (by rw [given]; rfl), inductionHypothesis]
      by_cases same : field = name
      · subst same
        simp [given]
      · simp [same]
    | some value =>
      -- a name that comes again is given the same value again
      rw [List.filterMap_cons_some (by rw [given]; rfl), List.foldl_cons, inductionHypothesis]
      by_cases same : field = name
      · subst same
        simp [given, Fields.get?_put_self]
      · simp [same, Fields.get?_put_of_ne same]

/-- A field is found among assignments of values to names, if its name got a value. -/
theorem get?_ofAssignments (give : Text → Option Json) {names : List Text} {field : Text}
    (member : field ∈ names) :
    Fields.get? (Fields.ofAssignments (names.filterMap fun name => (give name).map fun value =>
      (Key.name name, value))) field = give field := by
  have found := get?_foldl_put give names field []
  rw [if_pos member, Fields.get?, Option.or_none] at found
  exact found

/-- Every document can be reported by what is stored of it. -/
theorem storedHit_stored (asked : List Text) (document : Document) :
    StoredHit asked document (storedHit asked document) where
  id := rfl
  stored := fun _ member =>
    get?_ofAssignments (fun field => listed (leavesIn document field)) member

/-- Every document can be handed out. -/
theorem sourceHit_handed (document : Document) : SourceHit document (sourceHit document) :=
  ⟨rfl, rfl, rfl⟩

section

variable {asked : List Text} {document : Document} {hit : Fields} {style : MappingStyle}

/-- A hit with stored fields shows its document. -/
theorem StoredHit.shows (stored : StoredHit asked document hit) :
    Shows .legacy asked document hit where
  id := stored.id
  values := by
    intro field member
    have block := stored.stored field member
    unfold fieldValues
    cases found : leavesIn document field with
    | nil =>
      rw [found] at block
      rw [block, listed]
    | cons first rest =>
      rw [found] at block
      rw [block, listed]
      · rw [← found]
        exact flatten_leaves (pathSteps field) (.obj document.source)
      · exact List.cons_ne_nil first rest

/-- A hit with a document shows the document, if there are no points in its keys. -/
theorem SourceHit.shows (handed : SourceHit document hit)
    (plain : undotted (.obj document.source) = true) : Shows .typeless asked document hit where
  id := handed.id
  values := by
    intro field _
    have unstored : storedBlock? hit = none := by rw [storedBlock?, handed.bare, Option.bind_none]
    rw [fieldValues, unstored, Option.bind_none, Fields.getD, handed.source, Option.getD_some]
    exact valuesAt_eq_leaves plain (pathSteps field)

/-- What is extracted from a hit are the values of its fields. -/
theorem extractedField_eq (hit : Fields) (style : MappingStyle) (field : Text) :
    extractedField hit style field = entry field (fieldValues hit field style) := by
  unfold extractedField entry
  split <;> simp_all [wrapped]

/-- A hit that shows a document is read as it. -/
theorem Shows.readHit_eq {query : SearchQuery} (shows : Shows style query.fields document hit) :
    readHit query style (.obj hit) = .ok (hitFor query.fields document) := by
  have named : Fields.getD hit "_id" .null = .str document.id := by
    rw [Fields.getD, shows.id, Option.getD_some]
  have extracted : query.fields.filterMap (extractedField hit style) =
      query.fields.filterMap fun field => entry field (leavesIn document field) := by
    apply List.filterMap_congr
    intro field member
    rw [extractedField_eq, shows.values field member]
  simp only [readHit, named, extracted]
  rfl

/-- The values of a field in a hit are the leaves of the document that it shows. -/
theorem Shows.hitValues_eq {field : Text} (shows : Shows style [field] document hit) :
    hitValues (.str field) style (.obj hit) = .ok (leavesIn document field) := by
  rw [hitValues, shows.values field List.mem_cons_self]

end

section

variable {block answer : Fields} {total : Nat} {count : Json} {documents : List Document}
  {counts : Json → Prop} {shows : Document → Fields → Prop}

/-- A number in the place of the count is the count. -/
theorem totalHits_of_totalOf {counted : Int} (found : totalOf block = some (.int counted)) :
    totalHits block = .ok counted := by
  simp only [totalHits, found]

/-- A number by itself is a count. -/
theorem totalHits_of_int {counted : Int} (found : block.get? "total" = some (.int counted)) :
    totalHits block = .ok counted := by
  apply totalHits_of_totalOf
  simp only [totalOf, found]

/-- The number in an object is a count. -/
theorem totalHits_of_exact (exact : CountsExactly total count)
    (found : block.get? "total" = some count) : totalHits block = .ok total := by
  obtain rfl | ⟨fields, rfl, value, -⟩ := exact
  · exact totalHits_of_int found
  · apply totalHits_of_totalOf
    simp only [totalOf, found, value]

/-- Hits that are listed are read from the list. -/
theorem rawHits_of_arr {raws : List Json} (found : block.get? "hits" = some (.arr raws)) :
    rawHits block = .ok raws := by
  simp only [rawHits, Fields.getD, found, Option.getD_some, Json.truthy, Json.elements?]
  cases raws <;> rfl

/-- A count from zero on makes a result. -/
theorem resultOf_natCast (total : Nat) (hits : List SearchHit) :
    resultOf total hits = .ok { total, hits } := by
  rw [resultOf, if_neg (Int.not_lt.2 (Int.natCast_nonneg total)), Int.toNat_natCast]

/-- Each hit of a report is read as the document that it shows. -/
theorem mapM_of_shown {γ : Type} {read : Json → Except Failure γ} {give : Document → γ}
    {raws : List Json} (rows : List.Forall₂
      (fun document raw => ∃ hit, raw = .obj hit ∧ shows document hit) documents raws)
    (reads : ∀ document ∈ documents, ∀ hit, shows document hit →
      read (.obj hit) = .ok (give document)) :
    raws.mapM read = .ok (documents.map give) := by
  induction rows with
  | nil => rfl
  | cons row rows inductionHypothesis =>
    obtain ⟨hit, rfl, shown⟩ := row
    have first := reads _ List.mem_cons_self hit shown
    have others := inductionHypothesis fun document member =>
      reads document (List.mem_cons_of_mem _ member)
    rw [List.mapM_cons, first, others]
    rfl

/-- What a search makes of a report depends on the documents alone that the report shows. -/
theorem Reports.resultFrom_eq {query : SearchQuery} {style : MappingStyle}
    (reports : Reports counts shows documents answer)
    (counted : ∀ block count, counts count → Fields.get? block "total" = some count →
      totalHits block = .ok total)
    (shown : ∀ document ∈ documents, ∀ hit, shows document hit →
      Shows style query.fields document hit) :
    resultFrom query style answer = .ok (resultFor total query.fields documents) := by
  obtain ⟨block, count, raws, found, stated, exact, listed, rows⟩ := reports.hits
  have located : hitsBlock answer = .ok block := by
    simp only [hitsBlock, found, Option.bind_some, Json.fields?]
  have page : readHits query style block = .ok (documents.map (hitFor query.fields)) := by
    have read := mapM_of_shown rows fun document member hit shows =>
      (shown document member hit shows).readHit_eq
    simp only [readHits, rawHits_of_arr listed, bind, Except.bind]
    exact read
  simp only [resultFrom, located, page, counted block count exact stated, bind, Except.bind,
    resultOf_natCast]
  rfl

/-- The same goes for the values of one field. -/
theorem Reports.valuesFrom_eq {field : Text} {maximum : Nat} {style : MappingStyle}
    (reports : Reports counts shows documents answer)
    (shown : ∀ document ∈ documents, ∀ hit, shows document hit →
      Shows style [field] document hit) :
    valuesFrom (.str field) (.int maximum) style answer =
      .ok ((documents.flatMap fun document => leavesIn document field).take maximum) := by
  obtain ⟨block, count, raws, found, -, -, listed, rows⟩ := reports.hits
  have located : hitsBlock answer = .ok block := by
    simp only [hitsBlock, found, Option.bind_some, Json.fields?]
  have values : raws.mapM (hitValues (.str field) style) =
      .ok (documents.map fun document => leavesIn document field) :=
    mapM_of_shown rows fun document member hit shows =>
      (shown document member hit shows).hitValues_eq
  simp only [valuesFrom, located, storedValues, rawHits_of_arr listed, values, bind, Except.bind,
    pure, Except.pure, atMost, Int.toNat_natCast, List.flatMap]

end

section

variable {total : Nat} {asked : List Text} {documents : List Document} {answer : Fields}

/-- A search makes of listed fields what their documents give. -/
theorem ReportsStored.resultFrom_eq {query : SearchQuery}
    (reports : ReportsStored total query.fields documents answer) :
    resultFrom query .legacy answer = .ok (resultFor total query.fields documents) := by
  apply Reports.resultFrom_eq reports
  · rintro block _ rfl found
    exact totalHits_of_int found
  · exact fun document _ hit stored => stored.shows

/-- A search makes of documents what they give. -/
theorem ReportsSources.resultFrom_eq {query : SearchQuery}
    (reports : ReportsSources total documents answer)
    (plain : ∀ document ∈ documents, undotted (.obj document.source) = true) :
    resultFrom query .typeless answer = .ok (resultFor total query.fields documents) := by
  apply Reports.resultFrom_eq reports
  · exact fun block count exact found => totalHits_of_exact exact found
  · exact fun document member hit handed => handed.shows (plain document member)

/-- The values of a field that are read from a list of them. -/
theorem ReportsStored.valuesFrom_eq {field : Text}
    (reports : ReportsStored total [field] documents answer) (maximum : Nat) :
    valuesFrom (.str field) (.int maximum) .legacy answer =
      .ok ((documents.flatMap fun document => leavesIn document field).take maximum) :=
  Reports.valuesFrom_eq reports fun _ _ _ stored => stored.shows

/-- The values of a field that are read from documents. -/
theorem ReportsSources.valuesFrom_eq {field : Text}
    (reports : ReportsSources total documents answer)
    (plain : ∀ document ∈ documents, undotted (.obj document.source) = true) (maximum : Nat) :
    valuesFrom (.str field) (.int maximum) .typeless answer =
      .ok ((documents.flatMap fun document => leavesIn document field).take maximum) :=
  Reports.valuesFrom_eq reports fun document member _ handed => handed.shows (plain document member)

end

end EngineGateway.Search
