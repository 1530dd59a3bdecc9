import EngineGateway.Proofs.Version.Countable

/-!
# Versions are totally ordered

Identifiers, lists of them, stages and places in the order are compared by comparisons that are
transitive, turn round with their arguments and call equal only what is the same. Versions inherit
these laws from their places. What does not show in the place of a version, as its distribution,
does not show in any comparison.
-/

namespace EngineGateway.Version

/-! ### Comparing places -/

instance : Std.OrientedCmp Identifier.compare where
  eq_swap {a b} := by
    match a, b with
    | .number m, .number n => exact Std.OrientedOrd.eq_swap
    | .number _, .word _ | .word _, .number _ => rfl
    | .word s, .word t => exact Std.OrientedOrd.eq_swap

/-- Where the outer two of three identifiers in order are of one kind, the middle one is as well,
for no word comes before a number. -/
instance : Std.TransCmp Identifier.compare where
  isLE_trans {a b c} first second := by
    match a, b, c with
    | .number _, .number _, .number _ => exact Std.TransOrd.isLE_trans first second
    | .word _, .word _, .word _ => exact Std.TransOrd.isLE_trans first second
    | .number _, _, .word _ => rfl
    | .word _, .number _, _ => exact absurd first Bool.false_ne_true
    | _, .word _, .number _ => exact absurd second Bool.false_ne_true

instance : Std.LawfulEqCmp Identifier.compare where
  compare_self {a} := by
    match a with
    | .number _ => exact Std.ReflOrd.compare_self
    | .word _ => exact Std.ReflOrd.compare_self
  eq_of_compare {a b} same := by
    match a, b with
    | .number _, .number _ => exact congrArg Identifier.number (Std.LawfulEqOrd.eq_of_compare same)
    | .word _, .word _ => exact congrArg Identifier.word (Std.LawfulEqOrd.eq_of_compare same)

/-- Lists of identifiers are compared as all lists are whose items can be compared. -/
theorem compareIdentifiers_eq : compareIdentifiers = List.compareLex Identifier.compare := by
  funext left right
  induction left generalizing right with
  | nil => cases right <;> rfl
  | cons i left inductionHypothesis =>
    cases right with
    | nil => rfl
    | cons j right => rw [compareIdentifiers, inductionHypothesis, List.compareLex_cons_cons]

instance : Std.TransCmp compareIdentifiers := compareIdentifiers_eq ▸ inferInstance

instance : Std.LawfulEqCmp compareIdentifiers := compareIdentifiers_eq ▸ inferInstance

instance : Std.OrientedCmp Stage.compare where
  eq_swap {a b} := by
    match a, b with
    | .preRelease left, .preRelease right =>
      have turned : compareIdentifiers left right = (compareIdentifiers right left).swap :=
        Std.OrientedCmp.eq_swap
      exact turned
    | .preRelease _, .release | .release, .preRelease _ | .release, .release => rfl

/-- Only a release stands behind a release. -/
instance : Std.TransCmp Stage.compare where
  isLE_trans {a b c} first second := by
    match a, b, c with
    | .preRelease i, .preRelease j, .preRelease k =>
      have earlier : (compareIdentifiers i j).isLE = true := first
      have later : (compareIdentifiers j k).isLE = true := second
      have whole : (compareIdentifiers i k).isLE = true := Std.TransCmp.isLE_trans earlier later
      exact whole
    | .preRelease _, _, .release | .release, .release, .release => rfl
    | .release, .preRelease _, _ => exact absurd first Bool.false_ne_true
    | _, .release, .preRelease _ => exact absurd second Bool.false_ne_true

instance : Std.LawfulEqCmp Stage.compare where
  compare_self {a} := by
    match a with
    | .preRelease identifiers =>
      have itself : compareIdentifiers identifiers identifiers = .eq := Std.ReflCmp.compare_self
      exact itself
    | .release => rfl
  eq_of_compare {a b} same := by
    match a, b with
    | .preRelease left, .preRelease right =>
      have equal : compareIdentifiers left right = .eq := same
      exact congrArg Stage.preRelease (Std.LawfulEqCmp.eq_of_compare equal)
    | .release, .release => rfl

/-- Places are compared by one part after the other. -/
theorem compare_precedence_eq :
    Precedence.compare = compareLex (compareOn Precedence.major) (compareLex
      (compareOn Precedence.minor) (compareLex (compareOn Precedence.patch)
        fun a b => a.stage.compare b.stage)) := rfl

instance : Std.TransCmp fun a b : Precedence => a.stage.compare b.stage where
  eq_swap := Std.OrientedCmp.eq_swap
  isLE_trans := Std.TransCmp.isLE_trans

instance : Std.TransCmp Precedence.compare := compare_precedence_eq ▸ inferInstance

instance : Std.LawfulEqCmp Precedence.compare where
  compare_self {p} := by simp [Precedence.compare, Std.ReflCmp.compare_self]
  eq_of_compare {p q} same := by
    obtain ⟨major, minor, patch, stage⟩ := p
    simp only [Precedence.compare, Ordering.then_eq_eq, Nat.compare_eq_eq] at same
    obtain ⟨rfl, rfl, rfl, stages⟩ := same
    rw [Std.LawfulEqCmp.eq_of_compare stages]

/-! ### Comparing versions -/

/-- How a version compares with another passes a test. Versions without a place compare in no way.
-/
def Compares (a : Version) (test : Ordering → Bool) (b : Version) : Prop :=
  ∃ order, a.compare b = .ok order ∧ test order = true

/-- The numbers of a version are smaller than those of another, the first ones that differ counting.
-/
def NumbersBelow (a b : Version) : Prop :=
  a.major < b.major ∨ a.major = b.major ∧
    (a.minor < b.minor ∨ a.minor = b.minor ∧ a.patch < b.patch)

/-- The release for which a version prepares. -/
def IsReleaseOf (release a : Version) : Prop :=
  release.preRelease = none ∧ release.major = a.major ∧ release.minor = a.minor ∧
    release.patch = a.patch

/-- What the order of versions says of three of them. -/
structure OrderLaws (a b c : Version) : Prop where
  /-- A version is below another, equal to it or above it, and only one of these. -/
  trichotomy :
    (a.Compares Ordering.isLT b ∧ ¬a.Compares Ordering.isEq b ∧ ¬a.Compares Ordering.isGT b) ∨
    (¬a.Compares Ordering.isLT b ∧ a.Compares Ordering.isEq b ∧ ¬a.Compares Ordering.isGT b) ∨
    (¬a.Compares Ordering.isLT b ∧ ¬a.Compares Ordering.isEq b ∧ a.Compares Ordering.isGT b)
  above_iff : a.Compares Ordering.isGT b ↔ b.Compares Ordering.isLT a
  below_trans : a.Compares Ordering.isLT b → b.Compares Ordering.isLT c →
    a.Compares Ordering.isLT c
  equal_refl : a.Compares Ordering.isEq a
  equal_symm : a.Compares Ordering.isEq b → b.Compares Ordering.isEq a
  equal_trans : a.Compares Ordering.isEq b → b.Compares Ordering.isEq c →
    a.Compares Ordering.isEq c
  /-- Equal versions stand in one place to every other. -/
  equal_respected : a.Compares Ordering.isEq b →
    (a.Compares Ordering.isLT c ↔ b.Compares Ordering.isLT c) ∧
      (c.Compares Ordering.isLT a ↔ c.Compares Ordering.isLT b)
  atMost_iff : a.Compares Ordering.isLE b ↔
    a.Compares Ordering.isLT b ∨ a.Compares Ordering.isEq b
  atLeast_iff : a.Compares Ordering.isGE b ↔
    a.Compares Ordering.isGT b ∨ a.Compares Ordering.isEq b
  different_iff : a.Compares Ordering.isNe b ↔ ¬a.Compares Ordering.isEq b
  /-- The comparison that sorting uses is the order. -/
  comesBefore_iff : a.comesBefore b = true ↔ a.Compares Ordering.isLT b
  /-- So is the comparison with the first version that can do something. -/
  isAtLeast_iff : a.isAtLeast b = .ok true ↔ a.Compares Ordering.isGE b
  hash_eq : a.Compares Ordering.isEq b → ∃ hash, a.hash = .ok hash ∧ b.hash = .ok hash
  /-- The distribution shows in no comparison and in no hash. -/
  distribution : ∀ name test,
    (({ a with distribution := name }).Compares test b ↔ a.Compares test b) ∧
      (b.Compares test { a with distribution := name } ↔ b.Compares test a) ∧
      ({ a with distribution := name }).hash = a.hash
  /-- A pre-release is below its release. -/
  below_release : ∀ pre, a.preRelease = some pre → ∀ release : Version, release.IsReleaseOf a →
    a.Compares Ordering.isLT release
  /-- A version is above all with smaller numbers, pre-release or not. -/
  above_numbers : b.NumbersBelow a → b.Compares Ordering.isLT a

section

variable {a b c : Version} {p q r : Precedence} {test : Ordering → Bool}

/-- Versions compare as their places do. -/
theorem compare_of_placed (placed : a.precedence = .ok p) (other : b.precedence = .ok q) :
    a.compare b = .ok (p.compare q) := by
  rw [compare, placed, other]
  rfl

/-- How versions compare is a matter of their places. -/
theorem compares_iff (placed : a.precedence = .ok p) (other : b.precedence = .ok q) :
    a.Compares test b ↔ test (p.compare q) = true := by
  rw [Compares, compare_of_placed placed other]
  constructor
  · rintro ⟨order, same, passes⟩
    rw [Except.ok.inj same]
    exact passes
  · intro passes
    exact ⟨_, rfl, passes⟩

/-- Versions that compare in some way have places. -/
theorem exists_places_of_compares (compares : a.Compares test b) :
    ∃ p q, a.precedence = .ok p ∧ b.precedence = .ok q ∧ test (p.compare q) = true := by
  obtain ⟨order, compared, passes⟩ := compares
  cases placed : a.precedence with
  | error fault =>
    rw [compare, placed] at compared
    cases compared
  | ok p =>
    cases other : b.precedence with
    | error fault =>
      rw [compare, placed, other] at compared
      cases compared
    | ok q =>
      rw [compare_of_placed placed other] at compared
      exact ⟨p, q, rfl, rfl, Except.ok.inj compared ▸ passes⟩

/-- The place of a release is its numbers, and that of a pre-release has its identifiers besides. -/
theorem precedence_cases (placed : a.precedence = .ok p) :
    (a.preRelease = none ∧ p = ⟨a.major, a.minor, a.patch, .release⟩) ∨
      ∃ pre row, a.preRelease = some pre ∧ p = ⟨a.major, a.minor, a.patch, .preRelease row⟩ := by
  cases written : a.preRelease with
  | none =>
    rw [precedence_of_release written] at placed
    exact Or.inl ⟨rfl, (Except.ok.inj placed).symm⟩
  | some pre =>
    simp only [precedence, written] at placed
    cases found : identifiers pre with
    | error fault =>
      rw [found] at placed
      cases placed
    | ok row =>
      rw [found] at placed
      exact Or.inr ⟨pre, row, rfl, (Except.ok.inj placed).symm⟩

/-- The numbers of a version are those of its place. -/
theorem numbers_of_placed (placed : a.precedence = .ok p) :
    p.major = a.major ∧ p.minor = a.minor ∧ p.patch = a.patch := by
  obtain ⟨-, rfl⟩ | ⟨pre, row, -, rfl⟩ := precedence_cases placed <;> exact ⟨rfl, rfl, rfl⟩

/-- Smaller numbers make a lower place. -/
theorem compare_of_numbersBelow (placed : a.precedence = .ok p) (other : b.precedence = .ok q)
    (below : a.NumbersBelow b) : p.compare q = .lt := by
  obtain ⟨major, minor, patch⟩ := numbers_of_placed placed
  obtain ⟨otherMajor, otherMinor, otherPatch⟩ := numbers_of_placed other
  simp only [Precedence.compare, Ordering.then_eq_lt, Nat.compare_eq_lt, Nat.compare_eq_eq, major,
    minor, patch, otherMajor, otherMinor, otherPatch]
  obtain smaller | ⟨same, smaller | ⟨alike, smaller⟩⟩ := below
  · exact Or.inl smaller
  · exact Or.inr ⟨same, Or.inl smaller⟩
  · exact Or.inr ⟨same, Or.inr ⟨alike, Or.inl smaller⟩⟩

/-- A pre-release has a lower place than its release. -/
theorem compare_of_isReleaseOf {pre : Text} (written : a.preRelease = some pre)
    (placed : a.precedence = .ok p) (isRelease : b.IsReleaseOf a) :
    ∃ place, b.precedence = .ok place ∧ p.compare place = .lt := by
  obtain ⟨final, major, minor, patch⟩ := isRelease
  refine ⟨_, precedence_of_release final, ?_⟩
  obtain ⟨absent, -⟩ | ⟨-, row, -, rfl⟩ := precedence_cases placed
  · rw [written] at absent
    cases absent
  · simp only [Precedence.compare, major, minor, patch, Std.ReflOrd.compare_self, Ordering.eq_then]
    rfl

/-- Versions with equal places have one hash. -/
theorem hash_of_placed (placed : a.precedence = .ok p) : a.hash = .ok p.hash := by
  rw [hash, placed]
  rfl

/-- Whether a version comes before another is whether its place does. -/
theorem comesBefore_of_placed (placed : a.precedence = .ok p) (other : b.precedence = .ok q) :
    a.comesBefore b = (p.compare q).isLT := by
  rw [comesBefore, compare_of_placed placed other]
  cases p.compare q <;> rfl

/-- Whether a version is at least another is whether its place is not before the other's. -/
theorem isAtLeast_of_placed (placed : a.precedence = .ok p) (other : b.precedence = .ok q) :
    a.isAtLeast b = .ok (p.compare q).isGE := by
  rw [isAtLeast, compare_of_placed placed other]
  cases p.compare q <;> rfl

end

/-- Versions whose runs of digits are numbers are totally ordered. -/
theorem versions_are_totally_ordered {a b c : Version} (countable : a.Countable)
    (comparable : b.Countable) (third : c.Countable) : OrderLaws a b c := by
  obtain ⟨p, placed⟩ := countable.precedence_eq
  obtain ⟨q, other⟩ := comparable.precedence_eq
  obtain ⟨r, last⟩ := third.precedence_eq
  have forth {test : Ordering → Bool} : a.Compares test b ↔ test (p.compare q) = true :=
    compares_iff placed other
  have back {test : Ordering → Bool} : b.Compares test a ↔ test (q.compare p) = true :=
    compares_iff other placed
  have onward {test : Ordering → Bool} : b.Compares test c ↔ test (q.compare r) = true :=
    compares_iff other last
  have across {test : Ordering → Bool} : a.Compares test c ↔ test (p.compare r) = true :=
    compares_iff placed last
  exact
    { trichotomy := by
        simp only [forth]
        cases p.compare q <;> simp
      above_iff := by
        rw [forth, back, Ordering.isGT_iff_eq_gt, Ordering.isLT_iff_eq_lt]
        exact Std.OrientedCmp.gt_iff_lt
      below_trans := by
        rw [forth, onward, across]
        simp only [Ordering.isLT_iff_eq_lt]
        exact Std.TransCmp.lt_trans
      equal_refl := by
        rw [compares_iff placed placed, Ordering.isEq_iff_eq_eq]
        exact Std.ReflCmp.compare_self
      equal_symm := by
        rw [forth, back, Ordering.isEq_iff_eq_eq, Ordering.isEq_iff_eq_eq]
        exact Std.OrientedCmp.eq_symm
      equal_trans := by
        rw [forth, onward, across]
        simp only [Ordering.isEq_iff_eq_eq]
        exact Std.TransCmp.eq_trans
      equal_respected := fun equal => by
        have same : p = q := by simpa [forth] using equal
        subst same
        rw [across, onward, compares_iff last placed, compares_iff last other]
        exact ⟨Iff.rfl, Iff.rfl⟩
      atMost_iff := by
        rw [forth, forth, forth]
        cases p.compare q <;> simp
      atLeast_iff := by
        rw [forth, forth, forth]
        cases p.compare q <;> simp
      different_iff := by
        rw [forth, forth]
        cases p.compare q <;> simp
      comesBefore_iff := by rw [comesBefore_of_placed placed other, forth]
      isAtLeast_iff := by rw [isAtLeast_of_placed placed other, forth, Except.ok.injEq]
      hash_eq := fun equal => by
        have same : p = q := by simpa [forth] using equal
        exact ⟨p.hash, hash_of_placed placed, same ▸ hash_of_placed other⟩
      distribution := fun name test => ⟨Iff.rfl, Iff.rfl, rfl⟩
      below_release := fun pre written release isRelease => by
        obtain ⟨place, standing, below⟩ := compare_of_isReleaseOf written placed isRelease
        rw [compares_iff placed standing, below]
        rfl
      above_numbers := fun smaller => by
        rw [back, compare_of_numbersBelow other placed smaller]
        rfl }

/-- Whether a version can be compared shows in the runs of its pre-release text. -/
theorem countable_of_runs {version : Version} {pre : Text} {rows : List (CharKind × List Char)}
    (written : version.preRelease = some pre) (cut : runs (preReleaseChars pre) = rows)
    (short : (rows.all fun row => row.2.length ≤ Decimal.digitLimit) = true) :
    version.Countable := by
  intro other same run member
  obtain rfl := Option.some.inj (written.symm.trans same)
  rw [cut] at member
  exact of_decide_eq_true (List.all_eq_true.1 short _ member)

/-- A first alpha, in one spelling. -/
def alphaSpelled : Version := { major := 5, minor := 0, preRelease := some "Alpha01" }

/-- A first alpha of a fork, in another spelling. -/
def alphaDotted : Version :=
  { major := 5, minor := 0, preRelease := some "alpha.1", distribution := "opensearch" }

/-- Both spellings are of equal versions with one hash, below the release and above all before. -/
theorem alphas_are_equal :
    let release : Version := { major := 5, minor := 0 }
    let before : Version := { major := 4, minor := 9, patch := 9 }
    alphaSpelled.Countable ∧ alphaDotted.Countable ∧ release.Countable ∧
      alphaSpelled.Compares Ordering.isEq alphaDotted ∧
      (∃ hash, alphaSpelled.hash = .ok hash ∧ alphaDotted.hash = .ok hash) ∧
      alphaSpelled.Compares Ordering.isLT release ∧ before.Compares Ordering.isLT alphaSpelled := by
  intro release before
  have spelled : alphaSpelled.Countable := countable_of_runs rfl rfl rfl
  have dotted : alphaDotted.Countable := countable_of_runs rfl rfl rfl
  have final : release.Countable := countable_of_release rfl
  have equal : alphaSpelled.Compares Ordering.isEq alphaDotted := ⟨.eq, rfl, rfl⟩
  have laws := versions_are_totally_ordered spelled dotted final
  have past : before.Countable := countable_of_release rfl
  have older := versions_are_totally_ordered spelled past final
  exact ⟨spelled, dotted, final, equal, laws.hash_eq equal,
    laws.below_release _ rfl release ⟨rfl, rfl, rfl, rfl⟩,
    older.above_numbers (Or.inl (by decide))⟩

end EngineGateway.Version
