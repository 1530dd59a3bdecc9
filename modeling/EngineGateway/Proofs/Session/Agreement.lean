import EngineGateway.Proofs.Session.Searching

/-!
# Engines of all generations give the same results

Documents can be searched in an engine that lists stored fields and in one that hands out documents.
Each reports the same documents in its own way; a session reads the same results from both.
-/

namespace EngineGateway

open Session Search

/-- Whatever the documents, as long as no key in them has a point in it: a search gives the same
result over an engine with mapping types and over one without them, and so does the reading of a
field, which gives the leaves at the end of the field's path in the order of the documents. -/
theorem generations_give_the_same_results {α β τ υ : Type} [Seconds τ] [Seconds υ]
    (older : Session α τ) (newer : Session β υ) (c : Conversation α τ) (d : Conversation β υ)
    (total : Nat) {documents : List Document}
    (plain : ∀ document ∈ documents, undotted (.obj document.source) = true) :
    (∀ (query : SearchQuery) (listed handed : Fields),
      older.Hears c .legacy (.str query.index) query.body listed →
      ReportsStored total query.fields documents listed →
      newer.Hears d .typeless (.str query.index) query.body handed →
      ReportsSources total documents handed →
      ((search older query).run.run c).1 = .ok (resultFor total query.fields documents) ∧
      ((search newer query).run.run d).1 = .ok (resultFor total query.fields documents)) ∧
    (∀ (request : FieldRequest) (field : Text) (maximum : Nat) (listed handed : Fields),
      request.field = .str field → request.limit = .int maximum →
      older.Hears c .legacy request.index request.body listed →
      ReportsStored total [field] documents listed →
      newer.Hears d .typeless request.index request.body handed →
      ReportsSources total documents handed →
      ((storedFields older request).run.run c).1 =
        .ok ((documents.flatMap fun document => leavesIn document field).take maximum) ∧
      ((storedFields newer request).run.run d).1 =
        .ok ((documents.flatMap fun document => leavesIn document field).take maximum)) := by
  constructor
  · intro query listed handed olderHears stored newerHears sources
    constructor
    · rw [olderHears.search_outcome]
      exact stored.resultFrom_eq
    · rw [newerHears.search_outcome]
      exact sources.resultFrom_eq plain
  · intro request field maximum listed handed named limited olderHears stored newerHears sources
    by_cases some : 0 < maximum
    · constructor
      · rw [olderHears.storedFields_outcome limited some, named, limited]
        exact stored.valuesFrom_eq maximum
      · rw [newerHears.storedFields_outcome limited some, named, limited]
        exact sources.valuesFrom_eq plain maximum
    · have none : maximum = 0 := Nat.eq_zero_of_not_pos some
      rw [run_storedFields limited, run_storedFields limited, if_pos none, if_pos none, none]
      exact ⟨rfl, rfl⟩

/-- A document with lists and objects below a field. -/
def page : Document where
  id := "1"
  index := "pages"
  source := [("a", .arr [.obj [("b", .arr [.int 1, .null])], .obj [("b", .obj [("c", .int 2)])]])]

/-- An answer that counts one document and shows it in a hit. -/
def answerWith (hit : Fields) : Fields :=
  [("hits", .obj [("total", .int 1), ("hits", .arr [.obj hit])])]

/-- Both generations give the same of the document, in a search and for the field below. -/
theorem page_is_found_alike :
    let older := expecting .legacy (answerWith (storedHit ["a.b"] page))
    let newer := expecting .typeless (answerWith (sourceHit page))
    let query : SearchQuery := { index := "pages", fields := ["a.b"] }
    let request : FieldRequest := { index := .str "pages", limit := .int 2, field := .str "a.b" }
    undotted (.obj page.source) = true ∧
    ((search throughClient query).run.run older).1 = .ok (resultFor 1 ["a.b"] [page]) ∧
    ((search throughClient query).run.run newer).1 = .ok (resultFor 1 ["a.b"] [page]) ∧
    ((storedFields throughClient request).run.run older).1 = .ok (leavesIn page "a.b") ∧
    ((storedFields throughClient request).run.run newer).1 = .ok (leavesIn page "a.b") := by
  intro older newer query request
  have plain : ∀ document ∈ [page], undotted (.obj document.source) = true :=
    List.forall_mem_singleton.2 (by decide)
  have stored : ReportsStored 1 ["a.b"] [page] (answerWith (storedHit ["a.b"] page)) :=
    ⟨_, _, _, rfl, rfl, rfl, rfl, .cons ⟨_, rfl, storedHit_stored ["a.b"] page⟩ .nil⟩
  have sources : ReportsSources 1 [page] (answerWith (sourceHit page)) :=
    ⟨_, _, _, rfl, rfl, Or.inl rfl, rfl, .cons ⟨_, rfl, sourceHit_handed page⟩ .nil⟩
  have olderHears : ∀ body, throughClient.Hears older .legacy (.str "pages") body
      (answerWith (storedHit ["a.b"] page)) := fun _ => ⟨_, _, rfl, rfl, rfl⟩
  have newerHears : ∀ body, throughClient.Hears newer .typeless (.str "pages") body
      (answerWith (sourceHit page)) := fun _ => ⟨_, _, rfl, rfl, rfl⟩
  have alike :=
    generations_give_the_same_results throughClient throughClient older newer 1 plain
  obtain ⟨foundOlder, foundNewer⟩ :=
    alike.1 query _ _ (olderHears _) stored (newerHears _) sources
  obtain ⟨readOlder, readNewer⟩ :=
    alike.2 request "a.b" 2 _ _ rfl rfl (olderHears _) stored (newerHears _) sources
  exact ⟨plain page List.mem_cons_self, foundOlder, foundNewer, readOlder, readNewer⟩

/-- Lists are gone through, `null` is dropped, and an object at the end of the path is a leaf. -/
example : leavesIn page "a.b" = [.int 1, .obj [("c", .int 2)]] := rfl

end EngineGateway
