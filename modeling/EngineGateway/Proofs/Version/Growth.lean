import EngineGateway.Proofs.Version.Ordering

/-!
# Engines learn and do not forget

What an engine can do follows from the place of its version alone, unless it is of the fork: each
capability begins at a threshold. So a later version can do whatever an earlier one can, and of two
capabilities the one with the higher threshold comes with the other.
-/

namespace EngineGateway.Capabilities

open Version

/-- What the one can do, the other can do. -/
structure Within (able later : Capabilities) : Prop where
  ingest : able.ingestSupported = true → later.ingestSupported = true
  typeless : able.mappingStyle = .typeless → later.mappingStyle = .typeless
  tracking : able.tracksTotalHits = true → later.tracksTotalHits = true
  untyped : able.documentTypeRequired = false → later.documentTypeRequired = false

/-- Capabilities come one after the other: pipelines, mappings without types, documents without
types, and hits that are counted on demand. -/
structure Stacked (able : Capabilities) : Prop where
  tracking : able.tracksTotalHits = true → able.documentTypeRequired = false
  untyped : able.documentTypeRequired = false → able.mappingStyle = .typeless
  typeless : able.mappingStyle = .typeless → able.ingestSupported = true

/-! ### Thresholds -/

/-- Where versions with ingest pipelines begin. -/
def ingestPlace : Precedence := ⟨5, 0, 0, .preRelease [.word "alpha", .number 1]⟩

/-- Where versions without types in their mappings begin. -/
def typelessPlace : Precedence := ⟨5, 0, 0, .release⟩

/-- Where versions begin that take documents without a type in their path. -/
def untypedDocumentsPlace : Precedence := ⟨6, 2, 0, .release⟩

/-- Where versions begin that count hits beyond a bound only when asked to. -/
def trackingPlace : Precedence := ⟨7, 0, 0, .release⟩

/-- What a version at a place can do. -/
def ofPlace (p : Precedence) : Capabilities where
  ingestSupported := (p.compare ingestPlace).isGE
  mappingStyle := if (p.compare typelessPlace).isGE then .typeless else .legacy
  tracksTotalHits := (p.compare trackingPlace).isGE
  documentTypeRequired := !(p.compare untypedDocumentsPlace).isGE

section

variable {v : Version} {p q : Precedence} {able : Capabilities}

/-- The first version with pipelines has its place. -/
theorem precedence_ingestSince : ingestSince.precedence = .ok ingestPlace := rfl

/-- What an engine can do is a matter of the place of its version. -/
theorem ofVersion_of_placed (numbered : v.distribution ≠ forkDistribution)
    (placed : v.precedence = .ok p) : ofVersion v = .ok (ofPlace p) := by
  rw [ofVersion, if_neg numbered, isAtLeast_of_placed placed precedence_ingestSince,
    isAtLeast_of_placed placed (precedence_of_release (v := typelessSince) rfl),
    isAtLeast_of_placed placed (precedence_of_release (v := trackingSince) rfl),
    isAtLeast_of_placed placed (precedence_of_release (v := untypedDocumentsSince) rfl)]
  rfl

/-- An engine of which it follows what it can do is of the fork, or its version has a place. -/
theorem exists_place_of_ofVersion (follows : ofVersion v = .ok able) :
    able = latest ∨ ∃ p, able = ofPlace p := by
  by_cases fork : v.distribution = forkDistribution
  · exact .inl (Except.ok.inj (follows.symm.trans (ofVersion_of_fork fork)))
  · cases placed : v.precedence with
    | ok p => exact .inr ⟨p, Except.ok.inj (follows.symm.trans (ofVersion_of_placed fork placed))⟩
    | error fault =>
      rw [ofVersion, if_neg fork, isAtLeast, Version.compare, placed] at follows
      cases follows

/-- Mappings have no types from their threshold on. -/
theorem ofPlace_typeless_iff :
    (ofPlace p).mappingStyle = .typeless ↔ (p.compare typelessPlace).isGE = true := by
  rw [ofPlace]
  cases (p.compare typelessPlace).isGE <;> simp

/-- Documents need no type from their threshold on. -/
theorem ofPlace_untyped_iff : (ofPlace p).documentTypeRequired = false ↔
    (p.compare untypedDocumentsPlace).isGE = true := by
  rw [ofPlace]
  cases (p.compare untypedDocumentsPlace).isGE <;> simp

/-! ### Growth -/

/-- At a later place an engine can do whatever it can at an earlier one: what has been passed at the
earlier one has been passed at the later one. -/
theorem within_of_isLE (order : (p.compare q).isLE = true) : (ofPlace p).Within (ofPlace q) := by
  have passes {bound : Precedence} (passed : (p.compare bound).isGE = true) :
      (q.compare bound).isGE = true :=
    Std.TransCmp.isGE_trans (Std.OrientedCmp.isGE_iff_isLE.2 order) passed
  constructor
  · exact passes
  · rw [ofPlace_typeless_iff, ofPlace_typeless_iff]
    exact passes
  · exact passes
  · rw [ofPlace_untyped_iff, ofPlace_untyped_iff]
    exact passes

/-- At every place a capability comes with those of lower thresholds. -/
theorem stacked_ofPlace (p : Precedence) : (ofPlace p).Stacked := by
  constructor
  · intro tracks
    exact ofPlace_untyped_iff.2 (Std.TransCmp.isGE_trans tracks (by decide))
  · intro untyped
    exact ofPlace_typeless_iff.2
      (Std.TransCmp.isGE_trans (ofPlace_untyped_iff.1 untyped) (by decide))
  · intro typeless
    exact Std.TransCmp.isGE_trans (ofPlace_typeless_iff.1 typeless) (by decide)

end

/-- What engines can do grows with their versions, of which equal ones can do the same; and what
follows from a version, of the fork or not, is stacked. It follows if the version can be compared.
-/
theorem capabilities_grow :
    (∀ v w : Version, v.distribution ≠ forkDistribution → w.distribution ≠ forkDistribution →
      v.Compares Ordering.isLE w → ∃ able later, ofVersion v = .ok able ∧
        ofVersion w = .ok later ∧ able.Within later ∧
        (v.Compares Ordering.isEq w → able = later)) ∧
      ∀ v : Version, (∀ able, ofVersion v = .ok able → able.Stacked) ∧
        (v.Countable → ∃ able, ofVersion v = .ok able) := by
  constructor
  · intro v w numbered alsoNumbered atMost
    obtain ⟨p, q, placed, other, order⟩ := exists_places_of_compares atMost
    refine ⟨ofPlace p, ofPlace q, ofVersion_of_placed numbered placed,
      ofVersion_of_placed alsoNumbered other, within_of_isLE order, fun equal => ?_⟩
    have same : p.compare q = .eq := Ordering.isEq_iff_eq_eq.1 ((compares_iff placed other).1 equal)
    exact congrArg ofPlace (Std.LawfulEqCmp.eq_of_compare same)
  · intro v
    refine ⟨fun able follows => ?_, ofVersion_of_countable⟩
    obtain rfl | ⟨p, rfl⟩ := exists_place_of_ofVersion follows
    · exact ⟨fun _ => rfl, fun _ => rfl, fun _ => rfl⟩
    · exact stacked_ofPlace p

/-- The first version with pipelines, and a build long before a release that counts on demand. -/
theorem early_build_can_do_more :
    let build : Version := { major := 7, minor := 0, preRelease := some "0" }
    ingestSince.Compares Ordering.isLE build ∧
      ∃ able later, ofVersion ingestSince = .ok able ∧ ofVersion build = .ok later ∧
        able.Within later ∧ able.Stacked ∧ later.Stacked ∧
        able.mappingStyle = .legacy ∧ later.mappingStyle = .typeless ∧
        later.documentTypeRequired = false ∧ later.tracksTotalHits = false := by
  intro build
  have atMost : ingestSince.Compares Ordering.isLE build := ⟨.lt, rfl, rfl⟩
  obtain ⟨grow, stacked⟩ := capabilities_grow
  obtain ⟨able, later, first, second, within, -⟩ :=
    grow ingestSince build (by decide) (by decide) atMost
  refine ⟨atMost, able, later, first, second, within, (stacked _).1 able first,
    (stacked _).1 later second, ?_⟩
  have placed : build.precedence = .ok ⟨7, 0, 0, .preRelease [.number 0]⟩ := rfl
  rw [ofVersion_of_placed (by decide) precedence_ingestSince] at first
  rw [ofVersion_of_placed (by decide) placed] at second
  obtain rfl := Except.ok.inj first
  obtain rfl := Except.ok.inj second
  decide

end EngineGateway.Capabilities
