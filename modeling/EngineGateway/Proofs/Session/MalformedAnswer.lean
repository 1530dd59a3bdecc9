import EngineGateway.Proofs.Backend.Honest
import EngineGateway.Proofs.Session.Searching

/-!
# Malformed answers to a search

An answer from which a search cannot make a result is called malformed: it has no block of hits, a
hit without an id, or no count. Two kinds of malformed answers slip through. What is listed as hits
is gone through before it is looked at, and a number cannot be gone through; and a count below zero
is a count until the result is made. These two are all.
-/

namespace EngineGateway

open Session Search

namespace Search

/-- The failure of a search that calls its answer malformed. -/
def IsMalformed (failure : Failure) : Prop := ∃ fault, failure = .malformedSearch fault

/-- A hit that has an id. -/
def Identified (raw : Json) : Prop := ∃ hit, raw = .obj hit ∧ Fields.getD hit "_id" .null ≠ .null

/-- A malformed answer that is not called so, and the failure that a search has in place of it. -/
inductive Slip (answer : Fields) : Failure → Prop where
  /-- What is listed as hits counts as true, but cannot be gone through. -/
  | unlistable {block : Fields} (located : hitsBlock answer = .ok block)
      (given : (block.getD "hits" .null).truthy = true)
      (partless : (block.getD "hits" .null).elements? = none) : Slip answer .wrongKind
  /-- Every hit has an id, but the count is below zero. -/
  | belowZero {block : Fields} {raws : List Json} {count : Int}
      (located : hitsBlock answer = .ok block) (listed : rawHits block = .ok raws)
      (identified : ∀ raw ∈ raws, Identified raw) (counted : totalOf block = some (.int count))
      (negative : count < 0) :
      Slip answer (.invalid SearchResult.modelName [⟨[.key "total_hits"], .nonNegative⟩])

/-- No slip calls the answer malformed. -/
theorem Slip.not_isMalformed {answer : Fields} {failure : Failure} (slip : Slip answer failure) :
    ¬IsMalformed failure := by
  rintro ⟨fault, rfl⟩
  cases slip

section

variable {block answer : Fields} {query : SearchQuery} {style : MappingStyle}

/-- An answer without a block of hits is called malformed. -/
theorem hitsBlock_failsOnly (answer : Fields) : FailsOnly IsMalformed (hitsBlock answer) := by
  unfold hitsBlock
  split
  · exact FailsOnly.ok _
  · exact FailsOnly.error ⟨_, rfl⟩

/-- A block without a count is called malformed. -/
theorem totalHits_cases (block : Fields) :
    (∃ count, totalOf block = some (.int count)) ∨
      totalHits block = .error (.malformedSearch (.noTotal block)) := by
  unfold totalHits
  split
  case h_1 count counted => exact Or.inl ⟨count, counted⟩
  case h_2 => exact Or.inr rfl

/-- What is listed as hits and cannot be gone through is of the wrong kind. -/
theorem rawHits_of_partless (given : (block.getD "hits" .null).truthy = true)
    (partless : (block.getD "hits" .null).elements? = none) :
    rawHits block = .error .wrongKind := by
  simp only [rawHits, given, partless, if_true]

/-- Everything else that is listed as hits is gone through. -/
theorem rawHits_cases (block : Fields) :
    (∃ raws, rawHits block = .ok raws) ∨ ((block.getD "hits" .null).truthy = true ∧
      (block.getD "hits" .null).elements? = none) := by
  by_cases given : (block.getD "hits" .null).truthy = true
  · cases parts : (block.getD "hits" .null).elements? with
    | some items => exact Or.inl ⟨items, by simp only [rawHits, given, parts, if_true]⟩
    | none => exact Or.inr ⟨given, rfl⟩
  · exact Or.inl ⟨[], by simp only [rawHits, given, if_false, Bool.false_eq_true]⟩

/-- A hit is read if it has an id, and called malformed if it has none. -/
theorem readHit_cases (query : SearchQuery) (style : MappingStyle) (raw : Json) :
    (Identified raw ∧ ∃ hit, readHit query style raw = .ok hit) ∨
      (¬Identified raw ∧ readHit query style raw = .error (.malformedSearch (.noId raw))) := by
  cases raw with
  | obj hit =>
    by_cases absent : Fields.getD hit "_id" .null = .null
    · refine Or.inr ⟨?_, by simp only [readHit, absent]⟩
      rintro ⟨_, same, named⟩
      cases same
      exact named absent
    · refine Or.inl ⟨⟨hit, rfl, absent⟩, ?_⟩
      simp only [readHit]
      exact ⟨_, rfl⟩
  | _ =>
    refine Or.inr ⟨?_, rfl⟩
    rintro ⟨_, same, _⟩
    cases same

/-- A page is read if every hit has an id, and the first hit without one is called malformed. -/
theorem mapM_readHit_cases (query : SearchQuery) (style : MappingStyle) (raws : List Json) :
    ((∀ raw ∈ raws, Identified raw) ∧ ∃ page, raws.mapM (readHit query style) = .ok page) ∨
      ((∃ raw ∈ raws, ¬Identified raw) ∧
        ∃ fault, raws.mapM (readHit query style) = .error (.malformedSearch fault)) := by
  induction raws with
  | nil => exact Or.inl ⟨fun _ absent => absurd absent List.not_mem_nil, [], rfl⟩
  | cons raw rest inductionHypothesis =>
    rw [List.mapM_cons]
    obtain ⟨identified, hit, read⟩ | ⟨unidentified, failed⟩ := readHit_cases query style raw
    · rw [read]
      obtain ⟨others, page, readRest⟩ | ⟨⟨other, member, nameless⟩, fault, failed⟩ :=
        inductionHypothesis
      · rw [readRest]
        exact Or.inl ⟨List.forall_mem_cons.2 ⟨identified, others⟩, hit :: page, rfl⟩
      · rw [failed]
        exact Or.inr ⟨⟨other, List.mem_cons_of_mem _ member, nameless⟩, fault, rfl⟩
    · rw [failed]
      exact Or.inr ⟨⟨raw, List.mem_cons_self, unidentified⟩, _, rfl⟩

/-- An answer that slips through makes a search fail in its own way. -/
theorem Slip.resultFrom_eq {failure : Failure} (slip : Slip answer failure) (query : SearchQuery)
    (style : MappingStyle) : resultFrom query style answer = .error failure := by
  cases slip with
  | unlistable located given partless =>
    have unlisted := rawHits_of_partless given partless
    simp only [resultFrom, located, readHits, unlisted, bind, Except.bind]
  | @belowZero block raws count located listed identified counted negative =>
    obtain ⟨-, page, read⟩ | ⟨⟨raw, member, nameless⟩, -⟩ := mapM_readHit_cases query style raws
    · have total := totalHits_of_totalOf counted
      simp only [resultFrom, located, readHits, listed, read, total, bind, Except.bind, resultOf,
        negative, if_true]
    · exact absurd (identified raw member) nameless

/-- A search that fails without calling its answer malformed fails by a slip. -/
theorem slip_of_resultFrom {failure : Failure}
    (failed : resultFrom query style answer = .error failure) (unnamed : ¬IsMalformed failure) :
    Slip answer failure := by
  cases located : hitsBlock answer with
  | error fault =>
    simp only [resultFrom, located, bind, Except.bind] at failed
    cases failed
    exact absurd (hitsBlock_failsOnly answer failure located) unnamed
  | ok block =>
    obtain ⟨raws, listed⟩ | ⟨given, partless⟩ := rawHits_cases block
    · obtain ⟨identified, page, read⟩ | ⟨-, fault, unread⟩ := mapM_readHit_cases query style raws
      · obtain ⟨count, counted⟩ | uncounted := totalHits_cases block
        · have total := totalHits_of_totalOf counted
          simp only [resultFrom, located, readHits, listed, read, total, bind, Except.bind,
            resultOf] at failed
          split at failed
          case isTrue negative =>
            cases failed
            exact .belowZero located listed identified counted negative
          case isFalse => cases failed
        · simp only [resultFrom, located, readHits, listed, read, uncounted, bind,
            Except.bind] at failed
          cases failed
          exact absurd ⟨_, rfl⟩ unnamed
      · simp only [resultFrom, located, readHits, listed, unread, bind, Except.bind] at failed
        cases failed
        exact absurd ⟨fault, rfl⟩ unnamed
    · have unlisted := rawHits_of_partless given partless
      simp only [resultFrom, located, readHits, unlisted, bind, Except.bind] at failed
      cases failed
      exact .unlistable located given partless

end

end Search

/-- A search that hears an answer makes a result of it or calls it malformed, but for the answers
that slip through: with any other failure it fails exactly by a slip. -/
theorem search_fails_otherwise_iff_slip {α τ : Type} [Seconds τ] {session : Session α τ}
    {c : Conversation α τ} {style : MappingStyle} {query : SearchQuery} {answer : Fields}
    (hears : session.Hears c style (.str query.index) query.body answer) (failure : Failure) :
    ((search session query).run.run c).1 = .error failure ∧ ¬IsMalformed failure ↔
      Slip answer failure := by
  rw [hears.search_outcome]
  constructor
  · rintro ⟨failed, unnamed⟩
    exact slip_of_resultFrom failed unnamed
  · intro slip
    exact ⟨slip.resultFrom_eq query style, slip.not_isMalformed⟩

/-- An answer that lists a number as its hits. -/
def numberForHits : Fields := [("hits", .obj [("hits", .int 5), ("total", .int 1)])]

/-- An answer that counts fewer documents than none. -/
def countBelowZero : Fields := [("hits", .obj [("hits", .arr []), ("total", .int (-1))])]

/-- A search for all documents slips on both answers. -/
theorem search_slips_on_number_for_hits_and_count_below_zero :
    let query : SearchQuery := { index := "i" }
    ((search throughClient query).run.run (expecting .typeless numberForHits)).1 =
      .error .wrongKind ∧
    ((search throughClient query).run.run (expecting .typeless countBelowZero)).1 =
      .error (.invalid SearchResult.modelName [⟨[.key "total_hits"], .nonNegative⟩]) := by
  intro query
  have hears : ∀ answer, throughClient.Hears (expecting .typeless answer) .typeless
      (.str query.index) query.body answer := fun _ => ⟨_, _, rfl, rfl, rfl⟩
  have unlistable : Slip numberForHits .wrongKind := .unlistable rfl rfl rfl
  have belowZero : Slip countBelowZero
      (.invalid SearchResult.modelName [⟨[.key "total_hits"], .nonNegative⟩]) :=
    .belowZero rfl rfl (fun _ absent => absurd absent List.not_mem_nil) rfl (by decide)
  exact ⟨((search_fails_otherwise_iff_slip (hears numberForHits) _).2 unlistable).1,
    ((search_fails_otherwise_iff_slip (hears countBelowZero) _).2 belowZero).1⟩

end EngineGateway
