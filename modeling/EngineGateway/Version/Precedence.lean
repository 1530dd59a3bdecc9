import EngineGateway.Version.Grammar

/-!
# The order of versions

Versions are ordered by their three numbers, and with equal numbers every pre-release comes before
the release. Pre-releases are ordered by their identifiers from left to right: the runs of digits,
which count as numbers, and the runs of ASCII letters, which count in lower case. A number comes
before a word, and a text that runs out of identifiers comes before one that goes on. Everything
else in a pre-release text only separates identifiers, and the distribution does not matter at all.
-/

namespace EngineGateway.Version

/-- One identifier of a pre-release. -/
inductive Identifier where
  | number (n : Nat)
  | word (letters : String)
  deriving Repr, DecidableEq, Hashable

/-- Whether a version is a release. -/
inductive Stage where
  | preRelease (identifiers : List Identifier)
  | release
  deriving Repr, DecidableEq, Hashable

/-- What the order of versions looks at. -/
structure Precedence where
  major : Nat
  minor : Nat
  patch : Nat
  stage : Stage
  deriving Repr, DecidableEq, Hashable

/-- Numbers by size, words by their characters, and numbers first. -/
def Identifier.compare : Identifier → Identifier → Ordering
  | .number m, .number n => Ord.compare m n
  | .number _, .word _ => .lt
  | .word _, .number _ => .gt
  | .word s, .word t => Ord.compare s t

/-- Identifiers from left to right; the list that ends first comes first. -/
def compareIdentifiers : List Identifier → List Identifier → Ordering
  | [], [] => .eq
  | [], _ :: _ => .lt
  | _ :: _, [] => .gt
  | i :: left, j :: right => (i.compare j).then (compareIdentifiers left right)

/-- Every pre-release before the release. -/
def Stage.compare : Stage → Stage → Ordering
  | .preRelease left, .preRelease right => compareIdentifiers left right
  | .preRelease _, .release => .lt
  | .release, .preRelease _ => .gt
  | .release, .release => .eq

/-- The numbers first, then the stage. -/
def Precedence.compare (a b : Precedence) : Ordering :=
  (Ord.compare a.major b.major).then <| (Ord.compare a.minor b.minor).then <|
    (Ord.compare a.patch b.patch).then (a.stage.compare b.stage)

/-- The kinds of characters in a pre-release text. -/
inductive CharKind where
  | digit
  | letter
  | separator
  deriving Repr, DecidableEq

/-- The kind of a character. -/
def charKind (c : Char) : CharKind :=
  if Text.isDigit c then .digit else if c.isAlpha then .letter else .separator

/-- Cuts a row of characters into its longest runs of one kind. -/
def runs : List Char → List (CharKind × List Char)
  | [] => []
  | c :: rest =>
    match runs rest with
    | [] => [(charKind c, [c])]
    | (kind, run) :: more =>
      if charKind c = kind then (kind, c :: run) :: more
      else (charKind c, [c]) :: (kind, run) :: more

/-- The characters of a pre-release text. A half of a pair separates, as what is shown for it does.
-/
def preReleaseChars (pre : Text) : List Char := pre.points.flatMap Text.Point.shown

/-- The identifiers among the runs of a text. -/
def identifiersOfRuns : List (CharKind × List Char) → Except Fault (List Identifier)
  | [] => .ok []
  | (.separator, _) :: rest => identifiersOfRuns rest
  | (.letter, run) :: rest => do
    let identifiers ← identifiersOfRuns rest
    return .word (String.ofList (run.map Char.toLower)) :: identifiers
  | (.digit, run) :: rest => do
    let n ← number run
    let identifiers ← identifiersOfRuns rest
    return .number n :: identifiers

/-- The identifiers of a pre-release text. -/
def identifiers (pre : Text) : Except Fault (List Identifier) :=
  identifiersOfRuns (runs (preReleaseChars pre))

/-- Where a version stands in the order. It fails only for a pre-release text with a run of digits
beyond the limit. -/
def precedence (v : Version) : Except Fault Precedence :=
  match v.preRelease with
  | none => .ok ⟨v.major, v.minor, v.patch, .release⟩
  | some pre => do return ⟨v.major, v.minor, v.patch, .preRelease (← identifiers pre)⟩

/-- What numbers are reduced by before they are hashed. -/
def hashModulus : Nat := Nat.pow 2 61 - 1

/-- An identifier as it is hashed. -/
def Identifier.reduced : Identifier → Identifier
  | .number n => .number (n % hashModulus)
  | .word letters => .word letters

/-- A stage as it is hashed. -/
def Stage.reduced : Stage → Stage
  | .preRelease identifiers => .preRelease (identifiers.map Identifier.reduced)
  | .release => .release

/-- The hash of a place in the order. -/
def Precedence.hash (p : Precedence) : UInt64 :=
  Hashable.hash (⟨p.major % hashModulus, p.minor % hashModulus, p.patch % hashModulus,
    p.stage.reduced⟩ : Precedence)

/-- The hash of a version. Versions at one place in the order have one hash. -/
def hash (v : Version) : Except Fault UInt64 := return (← v.precedence).hash

/-- How two versions compare. -/
def compare (a b : Version) : Except Fault Ordering := do
  let left ← a.precedence
  let right ← b.precedence
  return left.compare right

/-- Whether `v` is at least `least`. -/
def isAtLeast (v least : Version) : Except Fault Bool := do
  return (← v.compare least) != .lt

/-- Whether a version comes before another. One without a place comes before none. -/
def comesBefore (a b : Version) : Bool :=
  match a.compare b with
  | .ok order => order == .lt
  | .error _ => false

/-- How many versions go on in order after `last`: each of them comes before the one in front of it
if the run is descending, and none does if it is not. -/
def runLength (descending : Bool) (last : Version) : List Version → Nat
  | [] => 0
  | next :: rest =>
    if comesBefore next last == descending then runLength descending next rest + 1 else 0

/-- The versions in the order in which sorting looks at them. They are cut into runs that are in
order already; a run that is shorter than `shortest` takes in what follows it up to that length. In
each run the second version is looked at first, and the version that ends a run before the next run
begins. -/
def looks (shortest : Nat) : List Version → List Version
  | first :: second :: rest =>
    let inOrder := runLength (comesBefore second first) second rest
    let taken := max inOrder (shortest - 2)
    second :: first :: rest.take taken ++ (rest.drop inOrder).take 1 ++
      looks shortest (rest.drop taken)
  | few => few
termination_by versions => versions.length
decreasing_by
  simp only [List.length_cons, List.length_drop]
  omega

/-- The bound below which versions are one run. -/
def shortestRunBound : Nat := 64

/-- The least length of a run among so many versions: the number is halved until it is below the
bound, and rounded up if anything was lost. -/
def shortestRun (lost count : Nat) : Nat :=
  if count < shortestRunBound then count + lost
  else shortestRun (max lost (count % 2)) (count / 2)
termination_by count
decreasing_by
  simp only [shortestRunBound] at *
  omega

/-- Versions in the order in which they are looked at when they are sorted. In descending order
sorting begins at the end. -/
def sortingOrder (reverse : Bool) (versions : List Version) : List Version :=
  looks (shortestRun 0 versions.length) (if reverse then versions.reverse else versions)

/-- Versions in ascending order, or in descending order if `reverse`; equal versions keep their
places either way. A list of fewer than two is in order as it is. Of several versions that have no
place the one that is looked at first is complained about. -/
def sort (reverse : Bool) (versions : List Version) : Except Fault (List Version) :=
  if versions.length < 2 then .ok versions
  else do
    let _ ← (sortingOrder reverse versions).mapM precedence
    let placed ← versions.mapM fun v => do return (v, ← v.precedence)
    let ordered := placed.mergeSort fun a b =>
      (if reverse then b.2.compare a.2 else a.2.compare b.2) != .gt
    return ordered.map Prod.fst

/-- A release stands at its numbers. -/
theorem precedence_of_release {v : Version} (release : v.preRelease = none) :
    v.precedence = .ok ⟨v.major, v.minor, v.patch, .release⟩ := by
  simp [precedence, release]

end EngineGateway.Version
