import EngineGateway.Search.FieldValues

/-!
# Leaves of a document

What a path leads to in a document, said without regard to how it is read: lists are gone through at
every level, objects are entered by key, and what is at the end of the path is a leaf unless it is
`null`. In a document without points in its keys no key can spell more than one step of a path, and
then the values of a field are the leaves at the end of its path. Leaves are neither `null` nor
lists, so they stay as they are when they are stored and read again.
-/

namespace EngineGateway.Search

mutual

/-- The leaves of a value at the end of a path. -/
def leaves : List Text → Json → List Json
  | _, .null => []
  | steps, .arr items => leavesOfEach steps items
  | [], .obj fields => [.obj fields]
  | key :: steps, .obj fields => leavesUnder key steps fields
  | [], value => [value]
  | _ :: _, _ => []

/-- The leaves at the end of a path from each item. -/
def leavesOfEach (steps : List Text) : List Json → List Json
  | [] => []
  | item :: rest => leaves steps item ++ leavesOfEach steps rest

/-- The leaves at the end of a path that begins with a key. -/
def leavesUnder (key : Text) (steps : List Text) : List (Key × Json) → List Json
  | [] => []
  | (k, value) :: more => if k.isName key then leaves steps value else leavesUnder key steps more

end

/-- Whether a key is no text with a point in it. -/
def undottedKey : Key → Bool
  | .name text => !text.points.contains (.char '.')
  | _ => true

mutual

/-- Whether no key in a value has a point in it, however deep it stands. -/
def undotted : Json → Bool
  | .arr items => undottedEach items
  | .obj fields => undottedFields fields
  | _ => true

/-- The items of a list, as `undotted` asks. -/
def undottedEach : List Json → Bool
  | [] => true
  | item :: rest => undotted item && undottedEach rest

/-- The fields of an object, as `undotted` asks. -/
def undottedFields : List (Key × Json) → Bool
  | [] => true
  | (key, value) :: rest => undottedKey key && undotted value && undottedFields rest

end

/-- Where a path begins with a key, it goes on from the first field with that key. -/
theorem leavesUnder_eq (key : Text) (steps : List Text) (fields : Fields) :
    leavesUnder key steps fields = ((Fields.get? fields key).map (leaves steps)).getD [] := by
  induction fields with
  | nil => rfl
  | cons field rest inductionHypothesis =>
    by_cases named : field.1.isName key = true
    · simp [leavesUnder, Fields.get?, named]
    · simp [leavesUnder, Fields.get?, named, inductionHypothesis]

mutual

/-- To flatten a value is to find its leaves where a path ends. -/
theorem flatten_eq_leaves (value : Json) : flatten value = leaves [] value := by
  match value with
  | .arr items =>
    rw [flatten, leaves, flattenItems_eq_leaves]
  | .null | .bool b | .int i | .float x | .str text | .obj fields => simp only [flatten, leaves]

/-- The items of a list, as `flatten_eq_leaves` says. -/
theorem flattenItems_eq_leaves (items : List Json) :
    flattenItems items = leavesOfEach [] items := by
  match items with
  | [] => simp only [flattenItems, leavesOfEach]
  | item :: rest =>
    rw [flattenItems, leavesOfEach, flatten_eq_leaves item, flattenItems_eq_leaves rest]

end

/-- A name of several steps has a point in it, so no field has it. -/
theorem get?_spelled_of_undotted {fields : Fields} (plain : undottedFields fields = true)
    (first second : Text) (more : List Text) :
    Fields.get? fields (spelled (first :: second :: more)) = none := by
  have dotted : Text.Point.char '.' ∈ (spelled (first :: second :: more)).points := by
    simp [spelled, Text.joined, Text.ofString, Text.ofChars, Text.pointsOf]
  induction fields with
  | nil => rfl
  | cons field rest inductionHypothesis =>
    obtain ⟨key, value⟩ := field
    simp only [undottedFields, Bool.and_eq_true] at plain
    obtain ⟨⟨plainKey, -⟩, plainRest⟩ := plain
    have unnamed : key.isName (spelled (first :: second :: more)) = false := by
      cases key with
      | name text =>
        simp only [undottedKey, Bool.not_eq_true', List.contains_eq_mem,
          decide_eq_false_iff_not] at plainKey
        refine decide_eq_false fun same => plainKey ?_
        rw [same]
        exact dotted
      | _ => rfl
    rw [Fields.get?, unnamed, if_neg Bool.false_ne_true]
    exact inductionHypothesis plainRest

mutual

/-- In a value without points in its keys a path leads to its leaves. -/
theorem valuesAt_eq_leaves {value : Json} (plain : undotted value = true) (steps : List Text) :
    valuesAt steps value = leaves steps value := by
  match value with
  | .arr items =>
    rw [undotted] at plain
    cases steps with
    | nil =>
      rw [valuesAt, leaves, flattenItems_eq_leaves]
      rfl
    | cons first rest =>
      rw [valuesAt, leaves, valuesAtEach_eq_leaves plain]
      rfl
  | .obj fields =>
    rw [undotted] at plain
    cases steps with
    | nil => simp only [valuesAt, leaves]
    | cons first rest =>
      have entered := valuesUnder_eq_leaves plain first rest
      rw [leaves]
      cases rest with
      | cons second more =>
        -- no key spells several steps, so the path is entered by its first step
        simp only [valuesAt, get?_spelled_of_undotted plain, entered]
      | nil =>
        -- one step is spelled as itself, so the key that spells the path is the step
        simp only [valuesAt, spelled, Text.joined, entered]
        cases found : Fields.get? fields first with
        | none => rfl
        | some value => simp [leavesUnder_eq, found, flatten_eq_leaves]
  | .null | .bool b | .int i | .float x | .str text =>
    cases steps with
    | nil => simp [valuesAt, leaves, flatten]
    | cons first rest => simp [valuesAt, leaves]

/-- The items of a list, as `valuesAt_eq_leaves` says. -/
theorem valuesAtEach_eq_leaves {items : List Json} (plain : undottedEach items = true)
    (steps : List Text) : valuesAtEach steps items = leavesOfEach steps items := by
  match items with
  | [] => simp only [valuesAtEach, leavesOfEach]
  | item :: rest =>
    simp only [undottedEach, Bool.and_eq_true] at plain
    rw [valuesAtEach, leavesOfEach, valuesAt_eq_leaves plain.1, valuesAtEach_eq_leaves plain.2]

/-- The fields of an object, as `valuesAt_eq_leaves` says. -/
theorem valuesUnder_eq_leaves {fields : List (Key × Json)} (plain : undottedFields fields = true)
    (key : Text) (steps : List Text) :
    valuesUnder key steps fields = leavesUnder key steps fields := by
  match fields with
  | [] => simp only [valuesUnder, leavesUnder]
  | (k, value) :: more =>
    simp only [undottedFields, Bool.and_eq_true] at plain
    rw [valuesUnder, leavesUnder, valuesAt_eq_leaves plain.1.2, valuesUnder_eq_leaves plain.2]

end

mutual

/-- No leaf is `null` or a list. -/
theorem mem_leaves {steps : List Text} {value v : Json} (inside : v ∈ leaves steps value) :
    v ≠ .null ∧ ∀ items, v ≠ .arr items := by
  match value with
  | .null => simp [leaves] at inside
  | .arr items =>
    rw [leaves] at inside
    exact mem_leavesOfEach inside
  | .obj fields =>
    cases steps with
    | nil =>
      simp only [leaves, List.mem_singleton] at inside
      simp [inside]
    | cons key rest =>
      rw [leaves] at inside
      exact mem_leavesUnder inside
  | .bool b | .int i | .float x | .str text =>
    cases steps with
    | nil =>
      simp only [leaves, List.mem_singleton] at inside
      simp [inside]
    | cons key rest => simp [leaves] at inside

/-- The items of a list, as `mem_leaves` says. -/
theorem mem_leavesOfEach {steps : List Text} {items : List Json} {v : Json}
    (inside : v ∈ leavesOfEach steps items) : v ≠ .null ∧ ∀ items, v ≠ .arr items := by
  match items with
  | [] => simp [leavesOfEach] at inside
  | item :: rest =>
    rw [leavesOfEach, List.mem_append] at inside
    rcases inside with first | later
    · exact mem_leaves first
    · exact mem_leavesOfEach later

/-- The fields of an object, as `mem_leaves` says. -/
theorem mem_leavesUnder {key : Text} {steps : List Text} {fields : List (Key × Json)} {v : Json}
    (inside : v ∈ leavesUnder key steps fields) : v ≠ .null ∧ ∀ items, v ≠ .arr items := by
  match fields with
  | [] => simp [leavesUnder] at inside
  | (k, value) :: more =>
    rw [leavesUnder] at inside
    split at inside
    · exact mem_leaves inside
    · exact mem_leavesUnder inside

end

/-- What is neither `null` nor a list is flat already. -/
theorem flattenItems_of_forall {values : List Json}
    (flat : ∀ v ∈ values, v ≠ .null ∧ ∀ items, v ≠ .arr items) : flattenItems values = values := by
  induction values with
  | nil => rw [flattenItems]
  | cons value rest inductionHypothesis =>
    have alone : flatten value = [value] := by
      obtain ⟨present, single⟩ := flat value List.mem_cons_self
      cases value with
      | null => exact absurd rfl present
      | arr items => exact absurd rfl (single items)
      | _ => simp only [flatten]
    have others := inductionHypothesis fun v member => flat v (List.mem_cons_of_mem _ member)
    rw [flattenItems, alone, others, List.singleton_append]

/-- Leaves that are stored are read as they are. -/
theorem flatten_leaves (steps : List Text) (value : Json) :
    flatten (.arr (leaves steps value)) = leaves steps value := by
  rw [flatten]
  exact flattenItems_of_forall fun _ inside => mem_leaves inside

end EngineGateway.Search
