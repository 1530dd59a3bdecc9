import EngineGateway.Proofs.Version.Ordering
import EngineGateway.Proofs.Version.Spelling

/-!
# The precedence of semantic versions

Semantic versions have a precedence of their own, which is said here without the comparison of
versions: the numbers first, pre-releases below their release, and pre-releases by the identifiers
between their points, the first that differ counting. Where every identifier is a run of digits or a
word in lower case, the runs into which a pre-release text is cut are these identifiers with points
between them, and versions compare as semantic versions do. An identifier with more digits than a
number may have has its rank among semantic versions, but cannot be compared.
-/

namespace EngineGateway.Version

/-! ### Precedence -/

/-- A word of lower-case ASCII letters. -/
def IsLowerWord (identifier : List Char) : Prop :=
  identifier ≠ [] ∧ ∀ c ∈ identifier, 'a' ≤ c ∧ c ≤ 'z'

/-- An identifier of a semantic version. -/
def IsIdentifier (identifier : List Char) : Prop := IsDigitRun identifier ∨ IsLowerWord identifier

/-- What the lower-case letters are. -/
theorem isLower_iff {c : Char} : c.isLower = true ↔ 'a' ≤ c ∧ c ≤ 'z' := by
  delta Char.isLower
  simp only [Bool.and_eq_true, decide_eq_true_eq, ge_iff_le, Char.le_def]

instance : DecidablePred IsLowerWord := fun identifier =>
  decidable_of_iff ((!identifier.isEmpty && identifier.all Char.isLower) = true) (by
    simp [IsLowerWord, isLower_iff])

instance : DecidablePred IsIdentifier := fun _ => inferInstanceAs (Decidable (_ ∨ _))

/-- One identifier has a lower precedence than another: numbers by their size, words in the order of
ASCII, and a number before a word. -/
inductive IdentifierBelow : List Char → List Char → Prop
  | numbers {m n : List Char} (numeric : IsDigitRun m) (alsoNumeric : IsDigitRun n)
      (smaller : Text.decimalValue m < Text.decimalValue n) : IdentifierBelow m n
  | numberFirst {m s : List Char} (numeric : IsDigitRun m) (word : IsLowerWord s) :
      IdentifierBelow m s
  | words {s t : List Char} (word : IsLowerWord s) (alsoWord : IsLowerWord t)
      (earlier : List.Lex (fun c d : Char => c.toNat < d.toNat) s t) : IdentifierBelow s t

/-- Two identifiers have one precedence: the same number, or the same word. -/
inductive IdentifierAlike : List Char → List Char → Prop
  | numbers {m n : List Char} (numeric : IsDigitRun m) (alsoNumeric : IsDigitRun n)
      (same : Text.decimalValue m = Text.decimalValue n) : IdentifierAlike m n
  | words {s : List Char} (word : IsLowerWord s) : IdentifierAlike s s

/-- One row of identifiers has a lower precedence than another: it ends where the other goes on, or
has the lower identifier in the first place where they differ. -/
inductive IdentifiersBelow : List (List Char) → List (List Char) → Prop
  | ends {j : List Char} {right : List (List Char)} : IdentifiersBelow [] (j :: right)
  | here {i j : List Char} {left right : List (List Char)} (below : IdentifierBelow i j) :
      IdentifiersBelow (i :: left) (j :: right)
  | later {i j : List Char} {left right : List (List Char)} (alike : IdentifierAlike i j)
      (below : IdentifiersBelow left right) : IdentifiersBelow (i :: left) (j :: right)

/-- What semantic versioning sees of a version: its numbers and the identifiers of a pre-release. -/
structure SemanticVersion where
  major : Nat
  minor : Nat
  patch : Nat
  identifiers : Option (List (List Char))

namespace SemanticVersion

/-- A version is a semantic version: its pre-release text is the identifiers with points between
them, each a number or a word in lower case. -/
structure Describes (s : SemanticVersion) (v : Version) : Prop where
  major : v.major = s.major
  minor : v.minor = s.minor
  patch : v.patch = s.patch
  preRelease : v.preRelease =
    s.identifiers.map fun identifiers => Text.ofChars (Text.joinWith '.' identifiers)
  valid : ∀ identifiers ∈ s.identifiers, ∀ identifier ∈ identifiers, IsIdentifier identifier

/-- No numeric identifier has more digits than a number may have. -/
def Short (s : SemanticVersion) : Prop :=
  ∀ identifiers ∈ s.identifiers, ∀ identifier ∈ identifiers, IsDigitRun identifier →
    identifier.length ≤ Decimal.digitLimit

/-- With equal numbers, one version has a lower precedence than another: it is a pre-release and the
other is the release, or it is the lower pre-release. -/
inductive StageBelow : Option (List (List Char)) → Option (List (List Char)) → Prop
  | release {identifiers : List (List Char)} : StageBelow (some identifiers) none
  | preReleases {left right : List (List Char)} (below : IdentifiersBelow left right) :
      StageBelow (some left) (some right)

/-- One version has a lower precedence than another. -/
def Precedes (s t : SemanticVersion) : Prop :=
  s.major < t.major ∨ s.major = t.major ∧ (s.minor < t.minor ∨ s.minor = t.minor ∧
    (s.patch < t.patch ∨ s.patch = t.patch ∧ StageBelow s.identifiers t.identifiers))

/-- Two versions have one precedence. -/
def Alike (s t : SemanticVersion) : Prop :=
  s.major = t.major ∧ s.minor = t.minor ∧ s.patch = t.patch ∧
    Option.Rel (List.Forall₂ IdentifierAlike) s.identifiers t.identifiers

end SemanticVersion

/-! ### Identifiers in a pre-release text -/

/-- The kind of all characters of an identifier. -/
def kindOf (identifier : List Char) : CharKind :=
  if identifier.all Text.isDigit then .digit else .letter

/-- An identifier as it is compared. -/
def identifierOf (identifier : List Char) : Identifier :=
  if identifier.all Text.isDigit then .number (Text.decimalValue identifier)
  else .word (String.ofList identifier)

section

variable {i j : List Char} {left right : List (List Char)}

/-- No digit is a lower-case letter. -/
theorem isDigit_of_lower {c : Char} (lower : 'a' ≤ c ∧ c ≤ 'z') : Text.isDigit c = false := by
  simp only [Char.le_def, UInt32.le_iff_toNat_le] at lower
  have low : 97 ≤ c.toNat := lower.1
  have high : c.toNat ≤ 122 := lower.2
  simp [Text.isDigit, Text.digitValue?, show c.toNat < 128 by omega, show ¬c.toNat ≤ 57 by omega]

/-- A lower-case letter is a letter. -/
theorem charKind_of_lower {c : Char} (lower : 'a' ≤ c ∧ c ≤ 'z') : charKind c = .letter := by
  have isAlpha : c.isAlpha = true := Bool.or_eq_true_iff.2 (Or.inr (isLower_iff.2 lower))
  rw [charKind, isDigit_of_lower lower, if_neg Bool.false_ne_true, if_pos isAlpha]

/-- A lower-case letter is its own lower-case form. -/
theorem toLower_of_lower {c : Char} (lower : 'a' ≤ c ∧ c ≤ 'z') : c.toLower = c := by
  delta Char.toLower
  refine dif_neg ?_
  rintro ⟨-, upper⟩
  simp only [Char.le_def, UInt32.le_iff_toNat_le] at lower upper
  have low : 97 ≤ c.val.toNat := lower.1
  have high : c.val.toNat ≤ 90 := upper
  omega

/-- A run of digits holds digits only. -/
theorem IsDigitRun.all_isDigit (numeric : IsDigitRun i) : i.all Text.isDigit = true :=
  List.all_eq_true.2 numeric.2

/-- A word in lower case is no run of digits. -/
theorem IsLowerWord.all_isDigit (word : IsLowerWord i) : i.all Text.isDigit = false := by
  obtain ⟨c, rest, rfl⟩ := List.exists_cons_of_ne_nil word.1
  simp [isDigit_of_lower (word.2 c List.mem_cons_self)]

/-- An identifier is not empty. -/
theorem IsIdentifier.ne_nil (valid : IsIdentifier i) : i ≠ [] := valid.elim And.left And.left

/-- The characters of a run of digits are digits. -/
theorem kindOf_of_digits (numeric : IsDigitRun i) : kindOf i = .digit := if_pos numeric.all_isDigit

/-- The characters of a word are letters. -/
theorem kindOf_of_word (word : IsLowerWord i) : kindOf i = .letter :=
  if_neg (by simp [word.all_isDigit])

/-- A run of digits is compared as its number. -/
theorem identifierOf_of_digits (numeric : IsDigitRun i) :
    identifierOf i = .number (Text.decimalValue i) := if_pos numeric.all_isDigit

/-- A word is compared as it is. -/
theorem identifierOf_of_word (word : IsLowerWord i) : identifierOf i = .word (String.ofList i) :=
  if_neg (by simp [word.all_isDigit])

/-- All characters of an identifier are of one kind. -/
theorem IsIdentifier.charKind_eq (valid : IsIdentifier i) : ∀ c ∈ i, charKind c = kindOf i := by
  intro c member
  obtain numeric | word := valid
  · rw [kindOf_of_digits numeric, charKind, if_pos (numeric.2 c member)]
  · rw [kindOf_of_word word, charKind_of_lower (word.2 c member)]

/-- No identifier is a separator. -/
theorem kindOf_ne_separator (identifier : List Char) : kindOf identifier ≠ .separator := by
  unfold kindOf
  split <;> decide

/-- The first run has the kind of the first character. -/
theorem runs_cons (c : Char) (rest : List Char) :
    ∃ run more, runs (c :: rest) = (charKind c, run) :: more := by
  rw [runs]
  split
  · exact ⟨_, _, rfl⟩
  · split
    next same => exact ⟨_, _, by rw [same]⟩
    next => exact ⟨_, _, rfl⟩

/-- A row of characters of one kind, before one of another kind, is the first run. -/
theorem runs_append {kind : CharKind} {row rest : List Char} (some : row ≠ [])
    (same : ∀ c ∈ row, charKind c = kind) (stops : ∀ c ∈ rest.head?, charKind c ≠ kind) :
    runs (row ++ rest) = (kind, row) :: runs rest := by
  induction row with
  | nil => exact absurd rfl some
  | cons c row inductionHypothesis =>
    have first : charKind c = kind := same c List.mem_cons_self
    cases row with
    | nil =>
      cases rest with
      | nil => simp [runs, first]
      | cons d more =>
        obtain ⟨run, others, cut⟩ := runs_cons d more
        -- what follows is of another kind, so the run that `c` begins ends with it
        have differ : ¬charKind c = charKind d := fun equal => stops d rfl (equal ▸ first)
        rw [List.singleton_append, runs, cut, first.symm]
        exact if_neg differ
    | cons d more =>
      have cut := inductionHypothesis (List.cons_ne_nil d more)
        fun x member => same x (List.mem_cons_of_mem c member)
      rw [List.cons_append, runs, cut]
      exact if_pos first

/-- An identifier is one run. -/
theorem runs_of_isIdentifier (valid : IsIdentifier i) : runs i = [(kindOf i, i)] := by
  have cut : runs (i ++ []) = (kindOf i, i) :: runs [] :=
    runs_append valid.ne_nil valid.charKind_eq nofun
  rw [List.append_nil] at cut
  exact cut

/-- Identifiers with points between them begin with the first one. -/
theorem head?_joinWith (some : i ≠ []) (more : List (List Char)) :
    (Text.joinWith '.' (i :: more)).head? = i.head? := by
  cases more with
  | nil => rfl
  | cons next more => rw [Text.joinWith_cons_cons, List.head?_append_of_ne_nil _ some]

/-- An identifier at the front is read as it is compared. -/
theorem identifiersOfRuns_cons {rows : List (CharKind × List Char)} {found : List Identifier}
    (valid : IsIdentifier i) (short : IsDigitRun i → i.length ≤ Decimal.digitLimit)
    (read : identifiersOfRuns rows = .ok found) :
    identifiersOfRuns ((kindOf i, i) :: rows) = .ok (identifierOf i :: found) := by
  obtain numeric | word := valid
  · rw [kindOf_of_digits numeric, identifierOf_of_digits numeric, identifiersOfRuns,
      number_of_short (short numeric), Text.digitsValue_eq_decimalValue, read]
    rfl
  · have lower : i.map Char.toLower = i :=
      (List.map_congr_left fun c member => toLower_of_lower (word.2 c member)).trans i.map_id
    rw [kindOf_of_word word, identifierOf_of_word word, identifiersOfRuns, read, lower]
    rfl

/-- The runs of identifiers with points between them are read as these identifiers. -/
theorem identifiersOfRuns_joinWith (valid : ∀ k ∈ left, IsIdentifier k)
    (short : ∀ k ∈ left, IsDigitRun k → k.length ≤ Decimal.digitLimit) :
    identifiersOfRuns (runs (Text.joinWith '.' left)) = .ok (left.map identifierOf) := by
  induction left with
  | nil => rfl
  | cons k rest inductionHypothesis =>
    have first : IsIdentifier k := valid k List.mem_cons_self
    have others := inductionHypothesis (fun x member => valid x (List.mem_cons_of_mem k member))
      fun x member => short x (List.mem_cons_of_mem k member)
    have shortFirst := short k List.mem_cons_self
    cases rest with
    | nil =>
      rw [Text.joinWith, runs_of_isIdentifier first]
      exact identifiersOfRuns_cons first shortFirst rfl
    | cons next more =>
      have second : IsIdentifier next := valid next (by simp)
      have point : charKind '.' = .separator := by decide
      have afterFirst : runs (k ++ '.' :: Text.joinWith '.' (next :: more)) =
          (kindOf k, k) :: runs ('.' :: Text.joinWith '.' (next :: more)) := by
        refine runs_append first.ne_nil first.charKind_eq ?_
        rintro c ⟨⟩
        exact point ▸ (kindOf_ne_separator k).symm
      -- the point is a run of its own between the two identifiers, and no identifier itself
      have afterPoint : runs ('.' :: Text.joinWith '.' (next :: more)) =
          (.separator, ['.']) :: runs (Text.joinWith '.' (next :: more)) := by
        refine runs_append (List.cons_ne_nil '.' []) (by simpa using point) ?_
        intro c atFront
        rw [head?_joinWith second.ne_nil] at atFront
        rw [second.charKind_eq c (List.mem_of_head? atFront)]
        exact kindOf_ne_separator next
      rw [Text.joinWith_cons_cons, afterFirst, afterPoint]
      exact identifiersOfRuns_cons first shortFirst others

/-- The characters of a text are those it is made of. -/
theorem preReleaseChars_ofChars (cs : List Char) : preReleaseChars (Text.ofChars cs) = cs := by
  rw [preReleaseChars, Text.ofChars, Text.pointsOf, List.flatMap_map]
  exact List.flatMap_singleton' cs

/-- A text of identifiers with points between them is read as these identifiers. -/
theorem identifiers_joinWith (valid : ∀ k ∈ left, IsIdentifier k)
    (short : ∀ k ∈ left, IsDigitRun k → k.length ≤ Decimal.digitLimit) :
    identifiers (Text.ofChars (Text.joinWith '.' left)) = .ok (left.map identifierOf) := by
  rw [identifiers, preReleaseChars_ofChars, identifiersOfRuns_joinWith valid short]

/-- A run of digits that is longer than a number may be has no place in the order. -/
theorem precedence_of_long {v : Version} (numeric : IsDigitRun i)
    (long : Decimal.digitLimit < i.length) (written : v.preRelease = some (Text.ofChars i)) :
    v.precedence = .error (.tooLong i.length) := by
  have single := runs_of_isIdentifier (.inl numeric)
  rw [kindOf_of_digits numeric] at single
  simp only [precedence, written, identifiers, preReleaseChars_ofChars, single, identifiersOfRuns,
    number_of_long long]
  rfl

/-! ### Comparing identifiers -/

/-- A run of digits is no word. -/
theorem IsDigitRun.not_isLowerWord (numeric : IsDigitRun i) : ¬IsLowerWord i := fun word =>
  Bool.false_ne_true (word.all_isDigit.symm.trans numeric.all_isDigit)

/-- Words are compared by their characters, the first that differ counting. -/
theorem compare_words_eq_lt_iff (s t : List Char) :
    Ord.compare (String.ofList s) (String.ofList t) = .lt ↔
      List.Lex (fun c d : Char => c.toNat < d.toNat) s t := by
  have order : (fun c d : Char => c.toNat < d.toNat) = (· < ·) := by
    funext c d
    exact propext UInt32.lt_iff_toNat_lt.symm
  refine compareOfLessAndEq_eq_lt.trans ?_
  rw [order]
  change (String.ofList s).toList < (String.ofList t).toList ↔ _
  rw [String.toList_ofList, String.toList_ofList]
  exact Iff.rfl

/-- The identifiers of semantic versions compare as their precedence is. -/
theorem compare_identifierOf_eq_lt_iff (valid : IsIdentifier i) (alsoValid : IsIdentifier j) :
    (identifierOf i).compare (identifierOf j) = .lt ↔ IdentifierBelow i j := by
  obtain numeric | word := valid <;> obtain alsoNumeric | alsoWord := alsoValid
  · rw [identifierOf_of_digits numeric, identifierOf_of_digits alsoNumeric]
    refine Nat.compare_eq_lt.trans ⟨.numbers numeric alsoNumeric, ?_⟩
    rintro (⟨-, -, smaller⟩ | ⟨-, word⟩ | ⟨word, -⟩)
    · exact smaller
    · exact absurd word alsoNumeric.not_isLowerWord
    · exact absurd word numeric.not_isLowerWord
  · rw [identifierOf_of_digits numeric, identifierOf_of_word alsoWord]
    exact iff_of_true rfl (.numberFirst numeric alsoWord)
  · rw [identifierOf_of_word word, identifierOf_of_digits alsoNumeric]
    refine iff_of_false nofun ?_
    rintro (⟨numeric, -⟩ | ⟨numeric, -⟩ | ⟨-, alsoWord⟩)
    · exact numeric.not_isLowerWord word
    · exact numeric.not_isLowerWord word
    · exact alsoNumeric.not_isLowerWord alsoWord
  · rw [identifierOf_of_word word, identifierOf_of_word alsoWord]
    refine (compare_words_eq_lt_iff i j).trans ⟨.words word alsoWord, ?_⟩
    rintro (⟨numeric, -⟩ | ⟨numeric, -⟩ | ⟨-, -, earlier⟩)
    · exact absurd word numeric.not_isLowerWord
    · exact absurd word numeric.not_isLowerWord
    · exact earlier

/-- They compare as equal where they have one precedence. -/
theorem compare_identifierOf_eq_eq_iff (valid : IsIdentifier i) (alsoValid : IsIdentifier j) :
    (identifierOf i).compare (identifierOf j) = .eq ↔ IdentifierAlike i j := by
  rw [Std.LawfulEqCmp.compare_eq_iff_eq]
  obtain numeric | word := valid <;> obtain alsoNumeric | alsoWord := alsoValid
  · rw [identifierOf_of_digits numeric, identifierOf_of_digits alsoNumeric, Identifier.number.injEq]
    refine ⟨.numbers numeric alsoNumeric, ?_⟩
    rintro (⟨-, -, same⟩ | -)
    · exact same
    · rfl
  · rw [identifierOf_of_digits numeric, identifierOf_of_word alsoWord]
    refine iff_of_false nofun ?_
    rintro (⟨-, alsoNumeric, -⟩ | word)
    · exact alsoNumeric.not_isLowerWord alsoWord
    · exact numeric.not_isLowerWord word
  · rw [identifierOf_of_word word, identifierOf_of_digits alsoNumeric]
    refine iff_of_false nofun ?_
    rintro (⟨numeric, -, -⟩ | alsoWord)
    · exact numeric.not_isLowerWord word
    · exact alsoNumeric.not_isLowerWord alsoWord
  · rw [identifierOf_of_word word, identifierOf_of_word alsoWord, Identifier.word.injEq,
      String.ofList_inj]
    constructor
    · rintro rfl
      exact .words word
    · rintro (⟨numeric, -, -⟩ | -)
      · exact absurd word numeric.not_isLowerWord
      · rfl

/-- Rows of identifiers compare as their precedence is. -/
theorem compareIdentifiers_eq_lt_iff (valid : ∀ k ∈ left, IsIdentifier k)
    (alsoValid : ∀ k ∈ right, IsIdentifier k) :
    compareIdentifiers (left.map identifierOf) (right.map identifierOf) = .lt ↔
      IdentifiersBelow left right := by
  induction left generalizing right with
  | nil =>
    cases right with
    | nil => exact iff_of_false nofun nofun
    | cons j right => exact iff_of_true rfl .ends
  | cons i left inductionHypothesis =>
    cases right with
    | nil => exact iff_of_false nofun nofun
    | cons j right =>
      obtain ⟨first, others⟩ := List.forall_mem_cons.1 valid
      obtain ⟨alsoFirst, alsoOthers⟩ := List.forall_mem_cons.1 alsoValid
      rw [List.map_cons, List.map_cons, compareIdentifiers, Ordering.then_eq_lt,
        compare_identifierOf_eq_lt_iff first alsoFirst,
        compare_identifierOf_eq_eq_iff first alsoFirst, inductionHypothesis others alsoOthers]
      constructor
      · rintro (below | ⟨alike, below⟩)
        · exact .here below
        · exact .later alike below
      · rintro (_ | below | ⟨alike, below⟩)
        · exact Or.inl below
        · exact Or.inr ⟨alike, below⟩

/-- Rows of identifiers compare as equal where they have one precedence. -/
theorem compareIdentifiers_eq_eq_iff (valid : ∀ k ∈ left, IsIdentifier k)
    (alsoValid : ∀ k ∈ right, IsIdentifier k) :
    compareIdentifiers (left.map identifierOf) (right.map identifierOf) = .eq ↔
      List.Forall₂ IdentifierAlike left right := by
  induction left generalizing right with
  | nil =>
    cases right with
    | nil => exact iff_of_true rfl .nil
    | cons j right => exact iff_of_false nofun nofun
  | cons i left inductionHypothesis =>
    cases right with
    | nil => exact iff_of_false nofun nofun
    | cons j right =>
      obtain ⟨first, others⟩ := List.forall_mem_cons.1 valid
      obtain ⟨alsoFirst, alsoOthers⟩ := List.forall_mem_cons.1 alsoValid
      rw [List.map_cons, List.map_cons, compareIdentifiers, Ordering.then_eq_eq,
        compare_identifierOf_eq_eq_iff first alsoFirst, inductionHypothesis others alsoOthers,
        List.forall₂_cons]

end

/-! ### Comparing versions -/

namespace SemanticVersion

/-- The stage of a semantic version. -/
def stage (s : SemanticVersion) : Stage :=
  match s.identifiers with
  | none => .release
  | some row => .preRelease (row.map identifierOf)

/-- Where a semantic version stands in the order of versions. -/
def place (s : SemanticVersion) : Precedence := ⟨s.major, s.minor, s.patch, s.stage⟩

/-- Two versions compare as semantic versions do. -/
def Agrees (s t : SemanticVersion) (a b : Version) : Prop :=
  ∃ order, a.compare b = .ok order ∧ (order = .lt ↔ s.Precedes t) ∧ (order = .eq ↔ s.Alike t) ∧
    (order = .gt ↔ t.Precedes s)

section

variable {s t : SemanticVersion} {a b : Version}

/-- A semantic version with short identifiers stands at its place. -/
theorem Describes.precedence_eq (described : s.Describes a) (short : s.Short) :
    a.precedence = .ok s.place := by
  obtain ⟨major, minor, patch, written, valid⟩ := described
  cases found : s.identifiers with
  | none =>
    rw [found] at written
    rw [precedence_of_release written, place, stage, found, major, minor, patch]
  | some row =>
    rw [found] at written
    simp only [precedence, written, Option.map_some,
      identifiers_joinWith (valid row found) (short row found), place, stage, found, major, minor,
      patch]
    rfl

/-- Stages compare as releases and pre-releases do. -/
theorem compare_stage_eq_lt_iff (described : s.Describes a) (alsoDescribed : t.Describes b) :
    s.stage.compare t.stage = .lt ↔ StageBelow s.identifiers t.identifiers := by
  unfold stage
  cases left : s.identifiers with
  | none =>
    refine iff_of_false ?_ nofun
    cases t.identifiers <;> exact nofun
  | some row =>
    cases right : t.identifiers with
    | none => exact iff_of_true rfl .release
    | some other =>
      refine (compareIdentifiers_eq_lt_iff (described.valid row left)
        (alsoDescribed.valid other right)).trans ⟨.preReleases, ?_⟩
      intro stageBelow
      cases stageBelow with
      | preReleases below => exact below

/-- Stages compare as equal where they have one precedence. -/
theorem compare_stage_eq_eq_iff (described : s.Describes a) (alsoDescribed : t.Describes b) :
    s.stage.compare t.stage = .eq ↔
      Option.Rel (List.Forall₂ IdentifierAlike) s.identifiers t.identifiers := by
  unfold stage
  cases left : s.identifiers with
  | none =>
    cases t.identifiers with
    | none => exact iff_of_true rfl .none
    | some other => exact iff_of_false nofun nofun
  | some row =>
    cases right : t.identifiers with
    | none => exact iff_of_false nofun nofun
    | some other =>
      refine (compareIdentifiers_eq_eq_iff (described.valid row left)
        (alsoDescribed.valid other right)).trans ⟨.some, ?_⟩
      intro related
      cases related with
      | some alike => exact alike

/-- Places compare as the precedence of semantic versions is. -/
theorem compare_place_eq_lt_iff (described : s.Describes a) (alsoDescribed : t.Describes b) :
    s.place.compare t.place = .lt ↔ s.Precedes t := by
  simp only [Precedence.compare, place, Ordering.then_eq_lt, Nat.compare_eq_lt, Nat.compare_eq_eq,
    compare_stage_eq_lt_iff described alsoDescribed, Precedes]

/-- Places compare as equal where semantic versions have one precedence. -/
theorem compare_place_eq_eq_iff (described : s.Describes a) (alsoDescribed : t.Describes b) :
    s.place.compare t.place = .eq ↔ s.Alike t := by
  simp only [Precedence.compare, place, Ordering.then_eq_eq, Nat.compare_eq_eq,
    compare_stage_eq_eq_iff described alsoDescribed, Alike]

end

/-- Versions whose pre-releases are numbers and words between points compare as semantic versions
do. -/
theorem versions_compare_semantically {s t : SemanticVersion} {a b : Version}
    (described : s.Describes a) (alsoDescribed : t.Describes b) (short : s.Short)
    (alsoShort : t.Short) : s.Agrees t a b := by
  refine ⟨s.place.compare t.place, compare_of_placed (described.precedence_eq short)
    (alsoDescribed.precedence_eq alsoShort), compare_place_eq_lt_iff described alsoDescribed,
    compare_place_eq_eq_iff described alsoDescribed, ?_⟩
  rw [Std.OrientedCmp.gt_iff_lt]
  exact compare_place_eq_lt_iff alsoDescribed described

/-- The ninth alpha of a release. -/
def ninthAlpha : SemanticVersion := ⟨5, 0, 0, some [['a', 'l', 'p', 'h', 'a'], ['9']]⟩

/-- A fix of the tenth alpha. -/
def tenthAlphaFixed : SemanticVersion :=
  ⟨5, 0, 0, some [['a', 'l', 'p', 'h', 'a'], ['1', '0'], ['f', 'i', 'x']]⟩

/-- The ninth alpha is below a fix of the tenth, for its number is the smaller one. -/
theorem ninth_alpha_is_below_the_tenth :
    ninthAlpha.Describes { major := 5, minor := 0, preRelease := some "alpha.9" } ∧
      tenthAlphaFixed.Describes { major := 5, minor := 0, preRelease := some "alpha.10.fix" } ∧
      ninthAlpha.Short ∧ tenthAlphaFixed.Short ∧ ninthAlpha.Precedes tenthAlphaFixed ∧
      Version.compare { major := 5, minor := 0, preRelease := some "alpha.9" }
        { major := 5, minor := 0, preRelease := some "alpha.10.fix" } = .ok .lt := by
  have described : ninthAlpha.Describes
      { major := 5, minor := 0, preRelease := some "alpha.9" } :=
    { major := rfl
      minor := rfl
      patch := rfl
      preRelease := by decide
      valid := by
        rintro _ ⟨⟩
        exact List.forall_mem_cons.2 ⟨by decide, List.forall_mem_singleton.2 (by decide)⟩ }
  have alsoDescribed : tenthAlphaFixed.Describes
      { major := 5, minor := 0, preRelease := some "alpha.10.fix" } :=
    { major := rfl
      minor := rfl
      patch := rfl
      preRelease := by decide
      valid := by
        rintro _ ⟨⟩
        exact List.forall_mem_cons.2 ⟨by decide, List.forall_mem_cons.2 ⟨by decide,
          List.forall_mem_singleton.2 (by decide)⟩⟩ }
  have short : ninthAlpha.Short := by
    rintro _ ⟨⟩
    exact List.forall_mem_cons.2 ⟨fun _ => by decide,
      List.forall_mem_singleton.2 fun _ => by decide⟩
  have alsoShort : tenthAlphaFixed.Short := by
    rintro _ ⟨⟩
    exact List.forall_mem_cons.2 ⟨fun _ => by decide, List.forall_mem_cons.2 ⟨fun _ => by decide,
      List.forall_mem_singleton.2 fun _ => by decide⟩⟩
  have below : ninthAlpha.Precedes tenthAlphaFixed := by
    refine .inr ⟨rfl, .inr ⟨rfl, .inr ⟨rfl, .preReleases ?_⟩⟩⟩
    exact .later (.words (by decide)) (.here (.numbers (by decide) (by decide) (by decide)))
  obtain ⟨order, compared, below_iff, -, -⟩ :=
    versions_compare_semantically described alsoDescribed short alsoShort
  exact ⟨described, alsoDescribed, short, alsoShort, below, below_iff.2 below ▸ compared⟩

/-- A number with one digit too many. -/
def longNumber : List Char := List.replicate (Decimal.digitLimit + 1) '1'

/-- A semantic version whose one identifier has a digit too many. -/
def longBuild : SemanticVersion := ⟨1, 0, 0, some [longNumber]⟩

/-- Such a version is below its release among semantic versions, but is not compared with it. -/
theorem long_build_is_not_compared :
    longBuild.Describes { major := 1, minor := 0, preRelease := some (Text.ofChars longNumber) } ∧
      SemanticVersion.Describes ⟨1, 0, 0, none⟩ { major := 1, minor := 0 } ∧
      longBuild.Precedes ⟨1, 0, 0, none⟩ ∧
      Version.compare { major := 1, minor := 0, preRelease := some (Text.ofChars longNumber) }
        { major := 1, minor := 0 } = .error (.tooLong (Decimal.digitLimit + 1)) ∧
      ¬longBuild.Agrees ⟨1, 0, 0, none⟩
        { major := 1, minor := 0, preRelease := some (Text.ofChars longNumber) }
        { major := 1, minor := 0 } := by
  have numeric : IsDigitRun longNumber := by
    refine ⟨List.cons_ne_nil _ _, fun c member => ?_⟩
    rw [List.eq_of_mem_replicate member]
    decide
  have size : longNumber.length = Decimal.digitLimit + 1 := List.length_replicate
  have failed : Version.compare
      { major := 1, minor := 0, preRelease := some (Text.ofChars longNumber) }
      { major := 1, minor := 0 } = .error (.tooLong (Decimal.digitLimit + 1)) := by
    rw [Version.compare, precedence_of_long numeric (size ▸ Nat.lt_succ_self _) rfl, size]
    rfl
  refine ⟨⟨rfl, rfl, rfl, rfl, ?_⟩, ⟨rfl, rfl, rfl, rfl, ?_⟩,
    .inr ⟨rfl, .inr ⟨rfl, .inr ⟨rfl, .release⟩⟩⟩, failed, ?_⟩
  · rintro _ ⟨⟩ identifier member
    rw [List.mem_singleton.1 member]
    exact .inl numeric
  · intro _ absent
    exact (Option.not_mem_none _ absent).elim
  · rintro ⟨order, compared, -⟩
    rw [failed] at compared
    cases compared

end SemanticVersion

end EngineGateway.Version
