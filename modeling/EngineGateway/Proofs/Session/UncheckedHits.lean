import EngineGateway.Proofs.Session.MalformedAnswer

/-!
# Hits that nobody checks

A search looks at each hit before it reads it. The values of one field are read without that look: a
hit without an id gives its values, and a hit that is no object ends the reading in another way than
a malformed answer. So does a number that is listed as hits, as it does in a search. These two are
all, for everything else that can be wrong with the answer is looked at.
-/

namespace EngineGateway

open Session Search

namespace Search

/-- What is wrong with the hits of an answer and is not looked at before their values are read, and
the failure that it leads to. -/
inductive Oversight (answer : Fields) : Failure → Prop where
  /-- What is listed as hits counts as true, but cannot be gone through. -/
  | unlistable {block : Fields} (located : hitsBlock answer = .ok block)
      (given : (block.getD "hits" .null).truthy = true)
      (partless : (block.getD "hits" .null).elements? = none) : Oversight answer .wrongKind
  /-- One of the hits is no object. -/
  | shapeless {block : Fields} {raws : List Json} {raw : Json}
      (located : hitsBlock answer = .ok block) (listed : rawHits block = .ok raws)
      (member : raw ∈ raws) (fieldless : raw.fields? = none) : Oversight answer .noMember

/-- No oversight calls the answer malformed. -/
theorem Oversight.not_isMalformed {answer : Fields} {failure : Failure}
    (oversight : Oversight answer failure) : ¬IsMalformed failure := by
  rintro ⟨fault, rfl⟩
  cases oversight

section

variable {answer : Fields} {field : Text} {style : MappingStyle}

/-- A hit gives its values if it is an object, and has no such part if it is none. -/
theorem hitValues_cases (field : Text) (style : MappingStyle) (raw : Json) :
    (raw.fields? ≠ none ∧ ∃ values, hitValues (.str field) style raw = .ok values) ∨
      (raw.fields? = none ∧ hitValues (.str field) style raw = .error .noMember) := by
  cases raw with
  | obj hit => exact Or.inl ⟨Option.some_ne_none hit, _, rfl⟩
  | _ => exact Or.inr ⟨rfl, rfl⟩

/-- The hits give their values if all are objects, and the first that is none ends the reading. -/
theorem mapM_hitValues_cases (field : Text) (style : MappingStyle) (raws : List Json) :
    ((∀ raw ∈ raws, raw.fields? ≠ none) ∧
      ∃ values, raws.mapM (hitValues (.str field) style) = .ok values) ∨
      ((∃ raw ∈ raws, raw.fields? = none) ∧
        raws.mapM (hitValues (.str field) style) = .error .noMember) := by
  induction raws with
  | nil => exact Or.inl ⟨fun _ absent => absurd absent List.not_mem_nil, [], rfl⟩
  | cons raw rest inductionHypothesis =>
    rw [List.mapM_cons]
    obtain ⟨shaped, values, read⟩ | ⟨fieldless, failed⟩ := hitValues_cases field style raw
    · rw [read]
      obtain ⟨others, more, readRest⟩ | ⟨⟨other, member, fieldless⟩, failed⟩ :=
        inductionHypothesis
      · rw [readRest]
        exact Or.inl ⟨List.forall_mem_cons.2 ⟨shaped, others⟩, values :: more, rfl⟩
      · rw [failed]
        exact Or.inr ⟨⟨other, List.mem_cons_of_mem _ member, fieldless⟩, rfl⟩
    · rw [failed]
      exact Or.inr ⟨⟨raw, List.mem_cons_self, fieldless⟩, rfl⟩

/-- An oversight ends the reading of values in its own way. -/
theorem Oversight.valuesFrom_eq {failure : Failure} (oversight : Oversight answer failure)
    (field : Text) (limit : Json) (style : MappingStyle) :
    valuesFrom (.str field) limit style answer = .error failure := by
  cases oversight with
  | unlistable located given partless =>
    have unlisted := rawHits_of_partless given partless
    simp only [valuesFrom, located, storedValues, unlisted, bind, Except.bind]
  | @shapeless block raws raw located listed member fieldless =>
    obtain ⟨shaped, -⟩ | ⟨-, failed⟩ := mapM_hitValues_cases field style raws
    · exact absurd fieldless (shaped raw member)
    · simp only [valuesFrom, located, storedValues, listed, failed, bind, Except.bind]

/-- Where the reading of values fails without calling the answer malformed, something was not looked
at. -/
theorem oversight_of_valuesFrom {maximum : Nat} {failure : Failure}
    (failed : valuesFrom (.str field) (.int maximum) style answer = .error failure)
    (unnamed : ¬IsMalformed failure) : Oversight answer failure := by
  cases located : hitsBlock answer with
  | error fault =>
    simp only [valuesFrom, located, bind, Except.bind] at failed
    cases failed
    exact absurd (hitsBlock_failsOnly answer failure located) unnamed
  | ok block =>
    obtain ⟨raws, listed⟩ | ⟨given, partless⟩ := rawHits_cases block
    · obtain ⟨-, values, read⟩ | ⟨⟨raw, member, fieldless⟩, unread⟩ :=
        mapM_hitValues_cases field style raws
      · simp only [valuesFrom, located, storedValues, listed, read, bind, Except.bind, pure,
          Except.pure, atMost] at failed
        cases failed
      · simp only [valuesFrom, located, storedValues, listed, unread, bind, Except.bind] at failed
        cases failed
        exact .shapeless located listed member fieldless
    · have unlisted := rawHits_of_partless given partless
      simp only [valuesFrom, located, storedValues, unlisted, bind, Except.bind] at failed
      cases failed
      exact .unlistable located given partless

/-- Values are never more than asked for. -/
theorem length_le_of_valuesFrom {maximum : Nat} {values : List Json}
    (read : valuesFrom (.str field) (.int maximum) style answer = .ok values) :
    values.length ≤ maximum := by
  cases located : hitsBlock answer with
  | error fault =>
    simp only [valuesFrom, located, bind, Except.bind] at read
    cases read
  | ok block =>
    cases gathered : storedValues (.str field) style block with
    | error fault =>
      simp only [valuesFrom, located, gathered, bind, Except.bind] at read
      cases read
    | ok found =>
      simp only [valuesFrom, located, gathered, bind, Except.bind] at read
      exact length_le_of_atMost read

end

end Search

/-- Who asks for the values of a field and hears an answer gets no more than asked for, or is told
that the answer is malformed, but for the answers that are not looked at: with any other failure the
reading ends exactly by an oversight. -/
theorem storedFields_fails_otherwise_iff_oversight {α τ : Type} [Seconds τ]
    {session : Session α τ} {c : Conversation α τ} {style : MappingStyle} {request : FieldRequest}
    {field : Text} {maximum : Nat} {answer : Fields} (named : request.field = .str field)
    (limited : request.limit = .int maximum) (positive : 0 < maximum)
    (hears : session.Hears c style request.index request.body answer) :
    (∀ failure, ((storedFields session request).run.run c).1 = .error failure ∧
        ¬IsMalformed failure ↔ Oversight answer failure) ∧
      ∀ values, ((storedFields session request).run.run c).1 = .ok values →
        values.length ≤ maximum := by
  rw [hears.storedFields_outcome limited positive, limited, named]
  refine ⟨fun failure => ⟨?_, ?_⟩, fun values read => length_le_of_valuesFrom read⟩
  · rintro ⟨failed, unnamed⟩
    exact oversight_of_valuesFrom failed unnamed
  · intro oversight
    exact ⟨oversight.valuesFrom_eq field _ style, oversight.not_isMalformed⟩

/-- An answer that lists a number among its hits. -/
def numberAmongHits : Fields := [("hits", .obj [("hits", .arr [.int 5]), ("total", .int 1)])]

/-- Reading the values of a field overlooks both a number among the hits and one in their place. -/
theorem values_are_read_of_a_number :
    let request : FieldRequest := { index := .str "i", limit := .int 3, field := .str "f" }
    ((storedFields throughClient request).run.run (expecting .typeless numberAmongHits)).1 =
      .error .noMember ∧
    ((storedFields throughClient request).run.run (expecting .typeless numberForHits)).1 =
      .error .wrongKind := by
  intro request
  have hears : ∀ answer, throughClient.Hears (expecting .typeless answer) .typeless
      request.index request.body answer := fun _ => ⟨_, _, rfl, rfl, rfl⟩
  have shapeless : Oversight numberAmongHits .noMember :=
    .shapeless rfl rfl List.mem_cons_self rfl
  have unlistable : Oversight numberForHits .wrongKind := .unlistable rfl rfl rfl
  exact ⟨(((storedFields_fails_otherwise_iff_oversight rfl rfl (by decide)
      (hears numberAmongHits)).1 _).2 shapeless).1,
    (((storedFields_fails_otherwise_iff_oversight rfl rfl (by decide)
      (hears numberForHits)).1 _).2 unlistable).1⟩

end EngineGateway
