import EngineGateway.Proofs.Search.Leaves
import Mathlib.Data.List.Basic

/-!
# Keys with points

A key with points in it denotes a chain of nested objects, with one object for each step of the key.
Where every key of a document is opened up into its chain, a path leads to the values that the
document writes along it, whatever steps its keys take together. It leads to nothing else unless it
ends within a key: there the chain has an object that the document does not write.
-/

namespace EngineGateway.Search

/-! ### Opening keys -/

/-- A value at the end of a chain of objects. -/
def nested : List Text → Json → Json
  | [], value => value
  | step :: rest, value => .obj [(.name step, nested rest value)]

/-- A field with the chain that its key denotes. -/
def opened (key : Key) (value : Json) : Key × Json :=
  match key.name?.map pathSteps with
  | some (first :: rest) => (.name first, nested rest value)
  | _ => (key, value)

mutual

/-- A value with every key in it opened. -/
def expand : Json → Json
  | .arr items => .arr (expandEach items)
  | .obj fields => .obj (expandFields fields)
  | value => value

/-- The items of a list with every key in them opened. -/
def expandEach : List Json → List Json
  | [] => []
  | item :: rest => expand item :: expandEach rest

/-- Fields with every key opened. -/
def expandFields : List (Key × Json) → List (Key × Json)
  | [] => []
  | (key, value) :: rest => opened key (expand value) :: expandFields rest

end

/-- The first step of a key that is a text. -/
def firstStep? (key : Key) : Option Text := key.name?.bind fun text => (pathSteps text).head?

mutual

/-- Whether no two keys of one object have the same first step, however deep the object stands. -/
def apart : Json → Bool
  | .arr items => apartEach items
  | .obj fields => apartFields fields
  | _ => true

/-- The items of a list, as `apart` asks. -/
def apartEach : List Json → Bool
  | [] => true
  | item :: rest => apart item && apartEach rest

/-- The fields of an object, as `apart` asks. -/
def apartFields : List (Key × Json) → Bool
  | [] => true
  | (key, value) :: rest =>
    ((firstStep? key).isNone || rest.all fun other => firstStep? other.1 != firstStep? key) &&
      apart value && apartFields rest

end

/-! ### What is written along a path -/

/-- What is left of a path behind a key whose steps it begins with. -/
def behind? (key : Key) (steps : List Text) : Option (List Text) :=
  key.name?.bind fun text => steps.dropPrefix? (pathSteps text)

mutual

/-- The values that are written at the end of a path, where a key may take several steps. -/
def written : List Text → Json → List Json
  | _, .null => []
  | steps, .arr items => writtenInEach steps items
  | [], .obj fields => [.obj fields]
  | step :: steps, .obj fields => writtenUnder (step :: steps) fields
  | [], value => [value]
  | _ :: _, _ => []

/-- The values that are written at the end of a path in each item. -/
def writtenInEach (steps : List Text) : List Json → List Json
  | [] => []
  | item :: rest => written steps item ++ writtenInEach steps rest

/-- The values that are written at the end of a path under each key that it begins with. -/
def writtenUnder (steps : List Text) : List (Key × Json) → List Json
  | [] => []
  | (key, value) :: more =>
    match behind? key steps with
    | some rest => written rest value ++ writtenUnder steps more
    | none => writtenUnder steps more

end

mutual

/-- Whether a path meets, on its way, a key where something holds of the steps of the key, what is
left of the path, and the value of the key. -/
def meets (holds : List Text → List Text → Json → Bool) (steps : List Text) : Json → Bool
  | .arr items => meetsInEach holds steps items
  | .obj fields => meetsUnder holds steps fields
  | _ => false

/-- The items of a list, as `meets` asks. -/
def meetsInEach (holds : List Text → List Text → Json → Bool) (steps : List Text) :
    List Json → Bool
  | [] => false
  | item :: rest => meets holds steps item || meetsInEach holds steps rest

/-- The fields of an object, as `meets` asks. -/
def meetsUnder (holds : List Text → List Text → Json → Bool) (steps : List Text) :
    List (Key × Json) → Bool
  | [] => false
  | (key, value) :: more =>
    (key.name?.map fun text => holds (pathSteps text) steps value).getD false ||
      (match behind? key steps with
        | some rest => meets holds rest value
        | none => false) ||
      meetsUnder holds steps more

end

/-- A path ends within a key. -/
def endsWithin (keySteps steps : List Text) (_ : Json) : Bool :=
  !steps.isEmpty && steps.length < keySteps.length && steps.isPrefixOf keySteps

section

variable {holds : List Text → List Text → Json → Bool} {steps rest : List Text} {text : Text}

/-- A path meets the first field. -/
theorem meetsUnder_here {value : Json} (met : holds (pathSteps text) steps value = true)
    (more : List (Key × Json)) : meetsUnder holds steps ((.name text, value) :: more) = true := by
  rw [meetsUnder, Key.name?, Option.map_some, Option.getD_some, met, Bool.true_or, Bool.true_or]

/-- What a path meets behind the first field it meets. -/
theorem meetsUnder_behind {key : Key} (goesOn : behind? key steps = some rest) {value : Json}
    (met : meets holds rest value = true) (more : List (Key × Json)) :
    meetsUnder holds steps ((key, value) :: more) = true := by
  simp only [meetsUnder, goesOn, met, Bool.or_true, Bool.true_or]

/-- So is what it meets in a later one. -/
theorem meetsUnder_later {more : List (Key × Json)} (met : meetsUnder holds steps more = true)
    (field : Key × Json) : meetsUnder holds steps (field :: more) = true := by
  rw [meetsUnder, met, Bool.or_true]

end

/-- Values are found among others in their order, all of them unless there is a loss. -/
structure FoundAmong (lost : Prop) (found all : List Json) : Prop where
  sublist : found.Sublist all
  complete : ¬lost → found = all

namespace FoundAmong

variable {lost other : Prop} {found all more others : List Json}

/-- All values are found. -/
theorem of_eq (same : found = all) : FoundAmong lost found all :=
  ⟨same ▸ List.Sublist.refl found, fun _ => same⟩

/-- Nothing is found, which is a loss if there is something. -/
theorem nothing (loss : all ≠ [] → lost) : FoundAmong lost [] all :=
  ⟨List.nil_sublist all, fun kept => (Decidable.not_not.1 (mt loss kept)).symm⟩

/-- A loss may be put down to more. -/
theorem mono (among : FoundAmong lost found all) (weaker : lost → other) :
    FoundAmong other found all :=
  ⟨among.sublist, fun kept => among.complete (mt weaker kept)⟩

/-- What is found in two parts is found in the whole. -/
theorem append (first : FoundAmong lost found all) (second : FoundAmong other more others) :
    FoundAmong (lost ∨ other) (found ++ more) (all ++ others) where
  sublist := first.sublist.append second.sublist
  complete := by
    intro kept
    rw [first.complete (mt Or.inl kept), second.complete (mt Or.inr kept)]

end FoundAmong

/-! ### Steps of keys -/

/-- A text has a first step. -/
theorem exists_steps (text : Text) : ∃ first inner, pathSteps text = first :: inner :=
  List.exists_cons_of_ne_nil fun none =>
    Text.splitBy_ne_nil _ text.points (List.map_eq_nil_iff.1 none)

/-- No step has a point in it. -/
theorem point_not_mem_step {text step : Text} (member : step ∈ pathSteps text) :
    Text.Point.char '.' ∉ step.points := by
  obtain ⟨part, isPart, rfl⟩ := List.mem_map.1 member
  intro inside
  have apart := Text.not_separator_of_mem_splitBy isPart inside
  rw [beq_self_eq_true] at apart
  cases apart

/-- Steps are spelled with a point between each two. -/
theorem points_spelled (steps : List Text) :
    (spelled steps).points = Text.joinWith (.char '.') (steps.map Text.points) := by
  induction steps with
  | nil => rfl
  | cons step rest inductionHypothesis =>
    cases rest with
    | nil => rfl
    | cons next more =>
      rw [List.map_cons, List.map_cons, Text.joinWith_cons_cons, ← List.map_cons,
        ← inductionHypothesis]
      simp [spelled, Text.joined, Text.ofString, Text.ofChars, Text.pointsOf]

/-- Steps without points are found again where they are spelled. -/
theorem pathSteps_spelled {steps : List Text} (some : steps ≠ [])
    (whole : ∀ step ∈ steps, Text.Point.char '.' ∉ step.points) :
    pathSteps (spelled steps) = steps := by
  rw [pathSteps, Text.split, points_spelled, Text.splitBy_joinWith, List.map_map]
  · exact List.map_id steps
  · exact mt List.map_eq_nil_iff.1 some
  · intro part member
    obtain ⟨step, among, rfl⟩ := List.mem_map.1 member
    exact whole step among

/-- A text without points is its only step. -/
theorem pathSteps_of_whole {text : Text} (whole : Text.Point.char '.' ∉ text.points) :
    pathSteps text = [text] :=
  pathSteps_spelled (List.cons_ne_nil text []) (List.forall_mem_singleton.2 whole)

/-- The steps of a text spell it. -/
theorem spelled_pathSteps (text : Text) : spelled (pathSteps text) = text := by
  have same : (spelled (pathSteps text)).points = text.points := by
    rw [points_spelled, pathSteps, Text.split, List.map_map]
    exact (congrArg _ (List.map_id _)).trans (Text.joinWith_splitBy _ text.points)
  exact congrArg Text.mk same

/-- A path goes on behind a key if it begins with the steps of the key. -/
theorem behind?_eq_some_iff {key : Key} {steps rest : List Text} :
    behind? key steps = some rest ↔ ∃ text, key = .name text ∧ steps = pathSteps text ++ rest := by
  cases key with
  | name text => simp [behind?, Key.name?, List.dropPrefix?_eq_some_iff]
  | _ => simp [behind?, Key.name?]

/-- A key is no text, or begins with a step. -/
theorem firstStep?_eq_some_iff {key : Key} {first : Text} :
    firstStep? key = some first ↔
      ∃ text inner, key = .name text ∧ pathSteps text = first :: inner := by
  cases key with
  | name text =>
    obtain ⟨step, inner, steps⟩ := exists_steps text
    simp [firstStep?, Key.name?, steps]
  | _ => simp [firstStep?, Key.name?]

/-- A path that begins with another step does not go on behind a key. -/
theorem behind?_eq_none {key : Key} {first : Text} (other : firstStep? key ≠ some first)
    (rest : List Text) : behind? key (first :: rest) = none := by
  rw [Option.eq_none_iff_forall_ne_some]
  intro left goesOn
  obtain ⟨text, rfl, same⟩ := behind?_eq_some_iff.1 goesOn
  obtain ⟨step, inner, steps⟩ := exists_steps text
  rw [steps, List.cons_append, List.cons.injEq] at same
  exact other (firstStep?_eq_some_iff.2 ⟨text, inner, rfl, same.1 ▸ steps⟩)

/-- Where keys are apart and one begins with a step, no later one does. -/
theorem apart_later {key : Key} {value : Json} {more : List (Key × Json)} {first : Text}
    (separate : apartFields ((key, value) :: more) = true) (begins : firstStep? key = some first) :
    ∀ field ∈ more, firstStep? field.1 ≠ some first := by
  simp only [apartFields, begins, Option.isNone_some, Bool.false_or, Bool.and_eq_true,
    List.all_eq_true, bne_iff_ne] at separate
  exact separate.1.1

/-- Under keys that begin with other steps nothing is written. -/
theorem writtenUnder_eq_nil {fields : List (Key × Json)} {first : Text}
    (others : ∀ field ∈ fields, firstStep? field.1 ≠ some first) (rest : List Text) :
    writtenUnder (first :: rest) fields = [] := by
  induction fields with
  | nil => rw [writtenUnder]
  | cons field more inductionHypothesis =>
    obtain ⟨other, later⟩ := List.forall_mem_cons.1 others
    rw [writtenUnder, behind?_eq_none other rest, inductionHypothesis later]

/-- Of fields whose keys are apart, what is written along a path is written under the one key that
begins as the path does. -/
theorem writtenUnder_of_begins {key : Key} {value : Json} {more : List (Key × Json)} {first : Text}
    (separate : apartFields ((key, value) :: more) = true) (begins : firstStep? key = some first)
    (rest : List Text) : writtenUnder (first :: rest) ((key, value) :: more) =
      ((behind? key (first :: rest)).map fun left => written left value).getD [] := by
  rw [writtenUnder, writtenUnder_eq_nil (apart_later separate begins) rest]
  cases behind? key (first :: rest) with
  | none => rfl
  | some left => exact List.append_nil _

/-- A field whose key begins with another step does not count. -/
theorem writtenUnder_of_other {key : Key} {first : Text} (other : firstStep? key ≠ some first)
    (value : Json) (more : List (Key × Json)) (rest : List Text) :
    writtenUnder (first :: rest) ((key, value) :: more) = writtenUnder (first :: rest) more := by
  rw [writtenUnder, behind?_eq_none other rest]

/-! ### Opened keys -/

/-- A chain of steps without points around a value without points in its keys has none either. -/
theorem undotted_nested {steps : List Text}
    (whole : ∀ step ∈ steps, Text.Point.char '.' ∉ step.points) {value : Json}
    (plain : undotted value = true) : undotted (nested steps value) = true := by
  induction steps with
  | nil => exact plain
  | cons step rest inductionHypothesis =>
    obtain ⟨first, others⟩ := List.forall_mem_cons.1 whole
    simp [nested, undotted, undottedFields, undottedKey, first, inductionHypothesis others]

/-- Neither has a field that was opened. -/
theorem undottedFields_opened (key : Key) {value : Json} (plain : undotted value = true)
    {more : List (Key × Json)} (others : undottedFields more = true) :
    undottedFields (opened key value :: more) = true := by
  cases key with
  | name text =>
    obtain ⟨first, inner, steps⟩ := exists_steps text
    have whole : ∀ step ∈ first :: inner, Text.Point.char '.' ∉ step.points :=
      fun step member => point_not_mem_step (steps ▸ member)
    obtain ⟨firstWhole, innerWhole⟩ := List.forall_mem_cons.1 whole
    simp [opened, Key.name?, steps, undottedFields, undottedKey, firstWhole,
      undotted_nested innerWhole plain, others]
  | _ => simp [opened, Key.name?, undottedFields, undottedKey, plain, others]

mutual

/-- Where every key was opened, no key has a point in it. -/
theorem undotted_expand (value : Json) : undotted (expand value) = true := by
  match value with
  | .arr items => rw [expand, undotted, undottedEach_expandEach items]
  | .obj fields => rw [expand, undotted, undottedFields_expandFields fields]
  | .null | .bool b | .int i | .float x | .str text => simp only [expand, undotted]

/-- The items of a list, as `undotted_expand` says. -/
theorem undottedEach_expandEach (items : List Json) : undottedEach (expandEach items) = true := by
  match items with
  | [] => simp only [expandEach, undottedEach]
  | item :: rest =>
    rw [expandEach, undottedEach, undotted_expand item, undottedEach_expandEach rest, Bool.and_self]

/-- The fields of an object, as `undotted_expand` says. -/
theorem undottedFields_expandFields (fields : List (Key × Json)) :
    undottedFields (expandFields fields) = true := by
  match fields with
  | [] => simp only [expandFields, undottedFields]
  | (key, value) :: rest =>
    rw [expandFields]
    exact undottedFields_opened key (undotted_expand value) (undottedFields_expandFields rest)

end

/-- Without a point in it a key is opened to itself. -/
theorem opened_of_undotted {key : Key} (plain : undottedKey key = true) (value : Json) :
    opened key value = (key, value) := by
  cases key with
  | name text =>
    simp only [undottedKey, Bool.not_eq_true', List.contains_eq_mem,
      decide_eq_false_iff_not] at plain
    simp [opened, Key.name?, pathSteps_of_whole plain, nested]
  | _ => rfl

mutual

/-- Without points in its keys a value is what it is after opening them. -/
theorem expand_of_undotted {value : Json} (plain : undotted value = true) :
    expand value = value := by
  match value with
  | .arr items =>
    rw [undotted] at plain
    rw [expand, expandEach_of_undotted plain]
  | .obj fields =>
    rw [undotted] at plain
    rw [expand, expandFields_of_undotted plain]
  | .null | .bool b | .int i | .float x | .str text => simp only [expand]

/-- The items of a list, as `expand_of_undotted` says. -/
theorem expandEach_of_undotted {items : List Json} (plain : undottedEach items = true) :
    expandEach items = items := by
  match items with
  | [] => simp only [expandEach]
  | item :: rest =>
    simp only [undottedEach, Bool.and_eq_true] at plain
    rw [expandEach, expand_of_undotted plain.1, expandEach_of_undotted plain.2]

/-- The fields of an object, as `expand_of_undotted` says. -/
theorem expandFields_of_undotted {fields : List (Key × Json)}
    (plain : undottedFields fields = true) : expandFields fields = fields := by
  match fields with
  | [] => simp only [expandFields]
  | (key, value) :: rest =>
    simp only [undottedFields, Bool.and_eq_true] at plain
    rw [expandFields, expand_of_undotted plain.1.2, expandFields_of_undotted plain.2,
      opened_of_undotted plain.1.1]

end

/-- A path that begins with the steps of a chain goes on behind it. -/
theorem leaves_nested (inner rest : List Text) (value : Json) :
    leaves (inner ++ rest) (nested inner value) = leaves rest value := by
  induction inner with
  | nil => rfl
  | cons step inner inductionHypothesis =>
    simp [nested, leaves, leavesUnder, inductionHypothesis]

/-- A path leads to nothing in a chain unless one of them begins with the other. -/
theorem leaves_nested_eq_nil {inner steps : List Text} (notWithin : ¬steps <+: inner)
    (notBelow : ¬inner <+: steps) (value : Json) : leaves steps (nested inner value) = [] := by
  induction inner generalizing steps with
  | nil => exact absurd (List.nil_prefix) notBelow
  | cons step inner inductionHypothesis =>
    cases steps with
    | nil => exact absurd (List.nil_prefix) notWithin
    | cons first rest =>
      by_cases same : step = first
      · subst same
        simp only [List.cons_prefix_cons, true_and] at notWithin notBelow
        simp [nested, leaves, leavesUnder, inductionHypothesis notWithin notBelow]
      · simp [nested, leaves, leavesUnder, same]

/-! ### Opening keys makes up objects for paths that end within them -/

/-- A field whose key begins with another step is not entered after it was opened. -/
theorem leavesUnder_opened_of_other {key : Key} {first : Text} (other : firstStep? key ≠ some first)
    (value : Json) (more : List (Key × Json)) (rest : List Text) :
    leavesUnder first rest (opened key value :: more) = leavesUnder first rest more := by
  cases key with
  | name text =>
    obtain ⟨step, inner, steps⟩ := exists_steps text
    have different : step ≠ first := fun same =>
      other (firstStep?_eq_some_iff.2 ⟨text, inner, rfl, same ▸ steps⟩)
    simp [opened, Key.name?, steps, leavesUnder, different]
  | _ => simp [opened, Key.name?, leavesUnder, Key.isName]

/-- A field whose key begins as the path does is entered after it was opened. -/
theorem leavesUnder_opened {text first : Text} {inner : List Text}
    (steps : pathSteps text = first :: inner) (value : Json) (more : List (Key × Json))
    (rest : List Text) : leavesUnder first rest (opened (.name text) value :: more) =
      leaves rest (nested inner value) := by
  simp [opened, Key.name?, steps, leavesUnder]

mutual

/-- What is written along a path is found where every key was opened, and nothing else is found
there unless the path ends within a key. -/
theorem written_foundAmong_leaves {value : Json} (separate : apart value = true)
    (steps : List Text) :
    FoundAmong (meets endsWithin steps value = true) ((written steps value).map expand)
      (leaves steps (expand value)) := by
  match value with
  | .null => exact .of_eq (by simp [written, expand, leaves])
  | .arr items =>
    rw [apart] at separate
    rw [written, expand, leaves]
    exact writtenInEach_foundAmong_leaves separate steps
  | .obj fields =>
    rw [apart] at separate
    cases steps with
    | nil => exact .of_eq (by simp [written, expand, leaves])
    | cons first rest =>
      rw [written, expand, leaves]
      exact writtenUnder_foundAmong_leaves separate first rest
  | .bool b | .int i | .float x | .str text =>
    exact .of_eq (by cases steps <;> simp [written, expand, leaves])

/-- The items of a list, as `written_foundAmong_leaves` says. -/
theorem writtenInEach_foundAmong_leaves {items : List Json} (separate : apartEach items = true)
    (steps : List Text) :
    FoundAmong (meetsInEach endsWithin steps items = true)
      ((writtenInEach steps items).map expand) (leavesOfEach steps (expandEach items)) := by
  match items with
  | [] => exact .of_eq (by simp [writtenInEach, expandEach, leavesOfEach])
  | item :: rest =>
    simp only [apartEach, Bool.and_eq_true] at separate
    rw [writtenInEach, expandEach, leavesOfEach, List.map_append]
    have first := written_foundAmong_leaves separate.1 steps
    have others := writtenInEach_foundAmong_leaves separate.2 steps
    refine (first.append others).mono fun lost => ?_
    simpa [meetsInEach] using lost

/-- The fields of an object, as `written_foundAmong_leaves` says. -/
theorem writtenUnder_foundAmong_leaves {fields : List (Key × Json)}
    (separate : apartFields fields = true) (first : Text) (rest : List Text) :
    FoundAmong (meetsUnder endsWithin (first :: rest) fields = true)
      ((writtenUnder (first :: rest) fields).map expand)
      (leavesUnder first rest (expandFields fields)) := by
  match fields with
  | [] => exact .of_eq (by simp [writtenUnder, expandFields, leavesUnder])
  | (key, value) :: more =>
    have parts := separate
    simp only [apartFields, Bool.and_eq_true] at parts
    rw [expandFields]
    by_cases begins : firstStep? key = some first
    · obtain ⟨text, inner, rfl, spelling⟩ := firstStep?_eq_some_iff.1 begins
      rw [writtenUnder_of_begins separate begins, leavesUnder_opened spelling]
      cases goesOn : behind? (.name text) (first :: rest) with
      | some left =>
        obtain ⟨_, ⟨⟩, same⟩ := behind?_eq_some_iff.1 goesOn
        have inside := written_foundAmong_leaves parts.1.2 left
        rw [spelling, List.cons_append, List.cons.injEq] at same
        rw [same.2, leaves_nested, ← same.2]
        exact inside.mono fun lost => meetsUnder_behind goesOn lost more
      | none =>
        -- the path does not begin with the key, so it finds at most a part of its chain
        refine .nothing fun some => ?_
        have notBelow : ¬inner <+: rest := by
          rintro ⟨left, rfl⟩
          rw [← List.cons_append, ← spelling, behind?_eq_some_iff.2 ⟨text, rfl, rfl⟩] at goesOn
          cases goesOn
        have within : rest <+: inner := Decidable.not_not.1 fun notWithin =>
          some (leaves_nested_eq_nil notWithin notBelow (expand value))
        obtain ⟨tail, rfl⟩ := within
        have goesFurther : tail ≠ [] := by
          rintro rfl
          rw [List.append_nil] at notBelow
          exact notBelow List.prefix_rfl
        refine meetsUnder_here ?_ more
        have longer : (first :: rest).length < (first :: (rest ++ tail)).length := by
          have positive := List.length_pos_iff.2 goesFurther
          rw [List.length_cons, List.length_cons, List.length_append]
          omega
        have prefixed : (first :: rest).isPrefixOf (first :: (rest ++ tail)) = true :=
          List.isPrefixOf_iff_prefix.2 ⟨tail, rfl⟩
        simp only [endsWithin, spelling, decide_eq_true longer, prefixed, List.isEmpty_cons,
          Bool.not_false, Bool.and_self]
    · rw [writtenUnder_of_other begins, leavesUnder_opened_of_other begins]
      have later := writtenUnder_foundAmong_leaves parts.2 first rest
      exact later.mono fun lost => meetsUnder_later lost (key, value)

end

end EngineGateway.Search
