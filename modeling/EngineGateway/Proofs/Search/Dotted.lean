import EngineGateway.Proofs.Search.Opening

/-!
# Reading documents with points in their keys

A document that is written with points in its keys stands for the document where every key is opened
up into the chain of objects that it denotes. What is read of the one along a path is also read of
the other, in the same order, but not the other way round: values are handed out as the document
writes them, and no object is made up for a path that ends within a key. A key with points is
entered only where it spells all that is left of a path, so nothing is said here about a path that
goes on below one.
-/

namespace EngineGateway.Search

/-- A path goes on to a value below a key with points. -/
def goesBelow (keySteps steps : List Text) (value : Json) : Bool :=
  1 < keySteps.length && (steps.dropPrefix? keySteps).any fun rest =>
    !rest.isEmpty && !(written rest value).isEmpty

/-! ### Reading does not follow paths below keys with points -/

/-- What is found along a path in an object: under the key that spells the path, or else from the
key that is its first step. -/
def foundUnder (first : Text) (rest : List Text) (fields : Fields) : List Json :=
  match fields.get? (spelled (first :: rest)) with
  | some value => flatten value
  | none => valuesUnder first rest fields

mutual

/-- What is written where a path has ended are the values in the value. -/
theorem written_nil (value : Json) : written [] value = flatten value := by
  match value with
  | .arr items =>
    rw [written, flatten, writtenInEach_nil]
  | .null | .bool b | .int i | .float x | .str text | .obj fields => simp only [written, flatten]

/-- The items of a list, as `written_nil` says. -/
theorem writtenInEach_nil (items : List Json) : writtenInEach [] items = flattenItems items := by
  match items with
  | [] => simp only [writtenInEach, flattenItems]
  | item :: rest =>
    rw [writtenInEach, flattenItems, written_nil item, writtenInEach_nil rest]

end

section

variable {first : Text} {rest : List Text}

/-- A key that begins with another step is neither the path's spelling nor its first step. -/
theorem not_isName_of_other
    (whole : ∀ step ∈ first :: rest, Text.Point.char '.' ∉ step.points) {key : Key}
    (other : firstStep? key ≠ some first) :
    key.isName (spelled (first :: rest)) = false ∧ key.isName first = false := by
  cases key with
  | name text =>
    constructor
    · refine decide_eq_false fun same => other ?_
      subst same
      exact firstStep?_eq_some_iff.2
        ⟨_, rest, rfl, pathSteps_spelled (List.cons_ne_nil first rest) whole⟩
    · refine decide_eq_false fun same => other ?_
      subst same
      exact firstStep?_eq_some_iff.2
        ⟨text, [], rfl, pathSteps_of_whole (whole text List.mem_cons_self)⟩
  | _ => exact ⟨rfl, rfl⟩

/-- A field whose key begins with another step does not count. -/
theorem foundUnder_of_other
    (whole : ∀ step ∈ first :: rest, Text.Point.char '.' ∉ step.points) {key : Key}
    (other : firstStep? key ≠ some first) (value : Json) (more : List (Key × Json)) :
    foundUnder first rest ((key, value) :: more) = foundUnder first rest more := by
  obtain ⟨unspelled, unnamed⟩ := not_isName_of_other whole other
  simp [foundUnder, Fields.get?, valuesUnder, unspelled, unnamed]

/-- Among keys that begin with other steps none is entered. -/
theorem unentered_of_others
    (whole : ∀ step ∈ first :: rest, Text.Point.char '.' ∉ step.points)
    {fields : List (Key × Json)} (others : ∀ field ∈ fields, firstStep? field.1 ≠ some first) :
    Fields.get? fields (spelled (first :: rest)) = none ∧ valuesUnder first rest fields = [] := by
  induction fields with
  | nil => exact ⟨rfl, by simp only [valuesUnder]⟩
  | cons field more inductionHypothesis =>
    obtain ⟨other, later⟩ := List.forall_mem_cons.1 others
    obtain ⟨unspelled, unnamed⟩ := not_isName_of_other whole other
    simpa [Fields.get?, valuesUnder, unspelled, unnamed] using inductionHypothesis later

/-- Of fields whose keys are apart, the one whose key begins as the path does is entered if its key
is the path's spelling or its first step. -/
theorem foundUnder_of_begins
    (whole : ∀ step ∈ first :: rest, Text.Point.char '.' ∉ step.points) {text : Text} {value : Json}
    {more : List (Key × Json)} {inner : List Text}
    (separate : apartFields ((.name text, value) :: more) = true)
    (steps : pathSteps text = first :: inner) :
    foundUnder first rest ((.name text, value) :: more) =
      if inner = rest then flatten value else if inner = [] then valuesAt rest value else [] := by
  have begins := firstStep?_eq_some_iff.2 ⟨text, inner, rfl, steps⟩
  obtain ⟨unspelled, unentered⟩ := unentered_of_others whole (apart_later separate begins)
  have spells : text = spelled (first :: rest) ↔ inner = rest := by
    constructor
    · rintro rfl
      rw [pathSteps_spelled (List.cons_ne_nil first rest) whole, List.cons.injEq] at steps
      exact steps.2.symm
    · rintro rfl
      rw [← steps, spelled_pathSteps]
  have names : text = first ↔ inner = [] := by
    constructor
    · rintro rfl
      rw [pathSteps_of_whole (whole text List.mem_cons_self), List.cons.injEq] at steps
      exact steps.2.symm
    · rintro rfl
      rw [← spelled_pathSteps text, steps]
      rfl
  simp only [foundUnder, Fields.get?, Key.isName_name, valuesUnder, decide_eq_true_eq, spells,
    names, unspelled, unentered]
  by_cases same : inner = rest
  · simp only [same, if_true]
  · simp only [same, if_false]

end

mutual

/-- What is found along a path is written there, and it is all that is written there unless the path
goes on below a key with points. -/
theorem valuesAt_foundAmong_written {value : Json} (separate : apart value = true)
    {steps : List Text} (whole : ∀ step ∈ steps, Text.Point.char '.' ∉ step.points) :
    FoundAmong (meets goesBelow steps value = true) (valuesAt steps value)
      (written steps value) := by
  match value with
  | .arr items =>
    rw [apart] at separate
    cases steps with
    | nil => exact .of_eq (by simp [valuesAt, written, writtenInEach_nil])
    | cons first rest =>
      rw [valuesAt, written]
      exact valuesAtEach_foundAmong_written separate whole
  | .obj fields =>
    rw [apart] at separate
    cases steps with
    | nil => exact .of_eq (by simp [valuesAt, written])
    | cons first rest =>
      have entered := foundUnder_foundAmong_written separate whole
      rw [foundUnder] at entered
      rw [written]
      simp only [valuesAt]
      exact entered
  | .null | .bool b | .int i | .float x | .str text =>
    exact .of_eq (by cases steps <;> simp [valuesAt, written, flatten])

/-- The items of a list, as `valuesAt_foundAmong_written` says. -/
theorem valuesAtEach_foundAmong_written {items : List Json} (separate : apartEach items = true)
    {steps : List Text} (whole : ∀ step ∈ steps, Text.Point.char '.' ∉ step.points) :
    FoundAmong (meetsInEach goesBelow steps items = true) (valuesAtEach steps items)
      (writtenInEach steps items) := by
  match items with
  | [] => exact .of_eq (by simp [valuesAtEach, writtenInEach])
  | item :: rest =>
    simp only [apartEach, Bool.and_eq_true] at separate
    rw [valuesAtEach, writtenInEach]
    have first := valuesAt_foundAmong_written separate.1 whole
    have others := valuesAtEach_foundAmong_written separate.2 whole
    refine (first.append others).mono fun lost => ?_
    simpa [meetsInEach] using lost

/-- The fields of an object, as `valuesAt_foundAmong_written` says. -/
theorem foundUnder_foundAmong_written {fields : List (Key × Json)}
    (separate : apartFields fields = true) {first : Text} {rest : List Text}
    (whole : ∀ step ∈ first :: rest, Text.Point.char '.' ∉ step.points) :
    FoundAmong (meetsUnder goesBelow (first :: rest) fields = true) (foundUnder first rest fields)
      (writtenUnder (first :: rest) fields) := by
  match fields with
  | [] => exact .of_eq (by simp [foundUnder, Fields.get?, valuesUnder, writtenUnder])
  | (key, value) :: more =>
    have parts := separate
    simp only [apartFields, Bool.and_eq_true] at parts
    by_cases begins : firstStep? key = some first
    · obtain ⟨text, inner, rfl, spelling⟩ := firstStep?_eq_some_iff.1 begins
      rw [writtenUnder_of_begins separate begins, foundUnder_of_begins whole separate spelling]
      split
      case isTrue same =>
        have ends : behind? (.name text) (first :: rest) = some [] :=
          behind?_eq_some_iff.2 ⟨text, rfl, by rw [spelling, same, List.append_nil]⟩
        rw [ends]
        exact .of_eq (written_nil value).symm
      case isFalse different =>
        split
        case isTrue single =>
          have path : first :: rest = pathSteps text ++ rest := by
            rw [spelling, single]
            rfl
          have goesOn := behind?_eq_some_iff.2 ⟨text, rfl, path⟩
          have inside := valuesAt_foundAmong_written parts.1.2 (List.forall_mem_cons.1 whole).2
          rw [goesOn]
          exact inside.mono fun lost => meetsUnder_behind goesOn lost more
        case isFalse several =>
          cases goesOn : behind? (.name text) (first :: rest) with
          | none => exact .of_eq rfl
          | some left =>
            -- the key takes several steps and the path goes on behind it
            obtain ⟨_, ⟨⟩, path⟩ := behind?_eq_some_iff.1 goesOn
            have further : left ≠ [] := by
              rintro rfl
              rw [List.append_nil, spelling, List.cons.injEq] at path
              exact different path.2.symm
            refine .nothing fun lost => meetsUnder_here ?_ more
            have dropped : (first :: rest).dropPrefix? (pathSteps text) = some left := goesOn
            have dotted : 1 < (pathSteps text).length := by
              rw [spelling]
              exact Nat.succ_lt_succ (List.length_pos_iff.2 several)
            have lostValues : written left value ≠ [] := lost
            simp [goesBelow, dropped, dotted, further, lostValues]
    · rw [writtenUnder_of_other begins, foundUnder_of_other whole begins]
      have later := foundUnder_foundAmong_written parts.2 whole
      exact later.mono fun lost => meetsUnder_later lost (key, value)

end

/-! ### Reading a document with points in its keys -/

/-- How what is read of a document along a path relates to what is read of the document with every
key opened. -/
structure ReadsLikeNested (source : Json) (steps : List Text) (read nested : List Json) : Prop where
  /-- Whatever is read is read of the opened document as well, and in the same order. -/
  among : (read.map expand).Sublist nested
  /-- Values are read as they are written, and no object is made up. -/
  asWritten : meets goesBelow steps source = false → read = written steps source
  /-- Everything is read unless the path ends within a key or goes on below one. -/
  alike : meets goesBelow steps source = false → meets endsWithin steps source = false →
    read.map expand = nested
  /-- Then values without points in their keys are the same. -/
  same : meets goesBelow steps source = false → meets endsWithin steps source = false →
    (∀ v ∈ read, undotted v = true) → read = nested

/-- Along a path into a document whose keys are apart, what is read is found among what is read of
the document with every key opened. -/
theorem valuesAt_foundAmong_nested {source : Json} (separate : apart source = true) (field : Text) :
    FoundAmong (meets goesBelow (pathSteps field) source = true ∨
        meets endsWithin (pathSteps field) source = true)
      ((valuesAt (pathSteps field) source).map expand)
      (valuesAt (pathSteps field) (expand source)) := by
  have whole : ∀ step ∈ pathSteps field, Text.Point.char '.' ∉ step.points :=
    fun _ => point_not_mem_step
  have reading := valuesAt_foundAmong_written separate whole
  have opening := written_foundAmong_leaves separate (pathSteps field)
  rw [valuesAt_eq_leaves (undotted_expand source)]
  constructor
  · exact (reading.sublist.map expand).trans opening.sublist
  · intro kept
    rw [reading.complete (mt Or.inl kept), opening.complete (mt Or.inr kept)]

/-- A document whose keys are apart reads like the document with every key opened: what is read of
it is read of the other, and all that is read of the other unless the field's path ends within a key
or goes on below a key with points. -/
theorem dotted_reads_like_nested {source : Json} (separate : apart source = true) (field : Text) :
    ReadsLikeNested source (pathSteps field)
      (fieldValues [("_source", source)] field .typeless)
      (fieldValues [("_source", expand source)] field .typeless) := by
  change ReadsLikeNested source (pathSteps field) (valuesAt (pathSteps field) source)
    (valuesAt (pathSteps field) (expand source))
  have found := valuesAt_foundAmong_nested separate field
  have alike : meets goesBelow (pathSteps field) source = false →
      meets endsWithin (pathSteps field) source = false →
      (valuesAt (pathSteps field) source).map expand =
        valuesAt (pathSteps field) (expand source) := by
    intro notBelow notWithin
    exact found.complete (by simp [notBelow, notWithin])
  refine ⟨found.sublist, ?_, alike, ?_⟩
  · intro notBelow
    have whole : ∀ step ∈ pathSteps field, Text.Point.char '.' ∉ step.points :=
      fun _ => point_not_mem_step
    exact (valuesAt_foundAmong_written separate whole).complete (by simp [notBelow])
  · intro notBelow notWithin plain
    have unchanged := List.map_congr_left fun v member => expand_of_undotted (plain v member)
    rw [← alike notBelow notWithin, unchanged, List.map_id']

/-- A document with keys that take several steps of a path, in a list and by themselves. -/
def dottedDocument : Json :=
  .obj [("a", .arr [.obj [("b.c", .int 1)], .obj [("b.d", .int 2)]]), ("e.f", .str "x")]

/-- What it says below its list is read as from nested objects. -/
theorem dotted_document_reads_like_nested :
    apart dottedDocument = true ∧
    meets goesBelow (pathSteps "a.b.c") dottedDocument = false ∧
    meets endsWithin (pathSteps "a.b.c") dottedDocument = false ∧
    ReadsLikeNested dottedDocument (pathSteps "a.b.c")
      (fieldValues [("_source", dottedDocument)] "a.b.c" .typeless)
      (fieldValues [("_source", expand dottedDocument)] "a.b.c" .typeless) := by
  have separate : apart dottedDocument = true := by decide
  exact ⟨separate, by decide, by decide, dotted_reads_like_nested separate "a.b.c"⟩

/-- One value is found in the list. -/
example : fieldValues [("_source", dottedDocument)] "a.b.c" .typeless = [.int 1] := rfl

/-- A value below a path is not read with its keys opened: it is handed out as it is written. -/
theorem values_are_not_opened :
    ¬∀ (source : Json), apart source = true → ∀ field : Text,
      fieldValues [("_source", source)] field .typeless =
        fieldValues [("_source", expand source)] field .typeless := by
  intro equal
  have same : [Json.obj [("b.c", .int 1)]] = [.obj [("b", .obj [("c", .int 1)])]] :=
    equal (.obj [("a", .obj [("b.c", .int 1)])]) (by decide) "a"
  simp at same

end EngineGateway.Search
