import EngineGateway.Proofs.Session.MalformedAnswer
import Mathlib.Data.List.Nodup

/-!
# What a search keeps of an answer

A search makes one hit of each hit that is answered and keeps their order, and of each hit it keeps
all values of the fields that were asked for. A single value is handed out without a list around it.
Nothing is lost by that, because no value is itself a list or `null`: whether there was a list can
be told from what is handed out.
-/

namespace EngineGateway

open Session Search

namespace Fields

/-- A text is one key with itself only. -/
theorem same_iff_eq (key : Key) {text : Key} (isText : text.isText = true) :
    key.same text = true ↔ key = text := by
  cases text with
  | name text =>
    rw [Key.same_name]
    cases key <;> simp [Key.isName]
  | _ => cases isText

/-- A text is present among the keys when one of them is the same key. -/
theorem any_same_iff_mem (fields : Fields) {text : Key} (isText : text.isText = true) :
    fields.keys.any (·.same text) = true ↔ text ∈ fields.keys := by
  rw [List.any_eq_true]
  constructor
  · rintro ⟨found, member, same⟩
    rw [same_iff_eq found isText] at same
    exact same ▸ member
  · exact fun member => ⟨text, member, (same_iff_eq text isText).2 rfl⟩

/-- Putting a text among the keys adds it to them. -/
theorem mem_keys_put (fields : Fields) {text : Key} (isText : text.isText = true) (value : Json)
    (key : Key) : key ∈ (fields.put text value).keys ↔ key ∈ fields.keys ∨ key = text := by
  rw [keys_put]
  split
  case isTrue present =>
    rw [any_same_iff_mem fields isText] at present
    rw [or_iff_left_of_imp]
    rintro rfl
    exact present
  case isFalse => rw [List.mem_append, List.mem_singleton]

/-- And it keeps them different from each other. -/
theorem nodup_keys_put {fields : Fields} (different : fields.keys.Nodup) {text : Key}
    (isText : text.isText = true) (value : Json) : (fields.put text value).keys.Nodup := by
  rw [keys_put]
  split
  case isTrue => exact different
  case isFalse absent =>
    rw [any_same_iff_mem fields isText] at absent
    exact List.Nodup.append different (List.nodup_singleton text)
      (List.disjoint_singleton.2 absent)

/-- Putting some texts among the keys adds each of them once. -/
theorem keys_foldl_put {assignments : List (Key × Json)}
    (texts : ∀ assignment ∈ assignments, assignment.1.isText = true) (start : Fields)
    (different : start.keys.Nodup) :
    let made := assignments.foldl (fun fields a => fields.put a.1 a.2) start
    made.keys.Nodup ∧
      ∀ key, key ∈ made.keys ↔ key ∈ start.keys ∨ ∃ a ∈ assignments, a.1 = key := by
  induction assignments generalizing start with
  | nil => exact ⟨different, fun _ => by simp⟩
  | cons assignment rest inductionHypothesis =>
    obtain ⟨isText, others⟩ := List.forall_mem_cons.1 texts
    obtain ⟨apart, all⟩ :=
      inductionHypothesis others _ (nodup_keys_put different isText assignment.2)
    refine ⟨apart, fun key => ?_⟩
    rw [List.foldl_cons, all, mem_keys_put start isText, List.exists_mem_cons_iff, or_assoc,
      eq_comm]

/-- Fields made of assignments to texts have each of these for a key once. -/
theorem keys_ofAssignments {assignments : List (Key × Json)}
    (texts : ∀ assignment ∈ assignments, assignment.1.isText = true) :
    (ofAssignments assignments).keys.Nodup ∧
      ∀ key, key ∈ (ofAssignments assignments).keys ↔ ∃ a ∈ assignments, a.1 = key := by
  obtain ⟨different, all⟩ := keys_foldl_put texts [] List.nodup_nil
  exact ⟨different, fun key => (all key).trans (or_iff_right List.not_mem_nil)⟩

end Fields

namespace Search

/-- Values are neither `null` nor lists. -/
def Flat (values : List Json) : Prop := ∀ v ∈ values, v ≠ .null ∧ ∀ items, v ≠ .arr items

/-- The values that are handed out as one value. -/
def recovered : Json → List Json
  | .arr items => items
  | value => [value]

/-- A count in either form: a number, or an object with a number. -/
def Counts (total : Nat) (count : Json) : Prop :=
  count = .int total ∨ ∃ fields, count = .obj fields ∧
    Fields.get? fields "value" = some (.int total)

/-- What is extracted of a hit: the fields that were asked for and have values, each once, with what
their values are recovered from. A list stands for two values or more. -/
structure Extracts (asked : List Text) (values : Text → List Json) (extracted : Fields) : Prop where
  mem_keys_iff : ∀ key,
    key ∈ extracted.keys ↔ ∃ field ∈ asked, key = .name field ∧ values field ≠ []
  nodup_keys : extracted.keys.Nodup
  present : ∀ field value, extracted.get? field = some value → value ≠ .null ∧ value ≠ .arr []
  listed_iff : ∀ field value, extracted.get? field = some value →
    ((∃ items, value = .arr items) ↔ 2 ≤ (values field).length)
  recovered_eq : ∀ field value, extracted.get? field = some value →
    recovered value = values field

/-! ### Values are flat -/

mutual

/-- What a path leads to is flat. -/
theorem flat_valuesAt (steps : List Text) (value : Json) : Flat (valuesAt steps value) := by
  match value with
  | .arr items =>
    rw [valuesAt]
    split
    · exact fun _ => mem_flattenItems
    · exact flat_valuesAtEach steps items
  | .obj fields =>
    cases steps with
    | nil => simp [Flat, valuesAt]
    | cons first rest =>
      simp only [valuesAt]
      split
      · exact fun _ => mem_flatten
      · exact flat_valuesUnder first rest fields
  | .null | .bool b | .int i | .float x | .str text =>
    simp only [valuesAt]
    split
    · exact fun _ => mem_flatten
    · exact fun _ absent => absurd absent List.not_mem_nil

/-- So is what it leads to from each item. -/
theorem flat_valuesAtEach (steps : List Text) (items : List Json) :
    Flat (valuesAtEach steps items) := by
  match items with
  | [] => exact fun _ absent => absurd absent List.not_mem_nil
  | item :: rest =>
    rw [valuesAtEach]
    intro v member
    obtain first | later := List.mem_append.1 member
    · exact flat_valuesAt steps item v first
    · exact flat_valuesAtEach steps rest v later

/-- And what it leads to from a field. -/
theorem flat_valuesUnder (key : Text) (steps : List Text) (fields : List (Key × Json)) :
    Flat (valuesUnder key steps fields) := by
  match fields with
  | [] => exact fun _ absent => absurd absent List.not_mem_nil
  | (k, value) :: more =>
    rw [valuesUnder]
    split
    · exact flat_valuesAt steps value
    · exact flat_valuesUnder key steps more

end

/-- The values of a field are flat, wherever they stand. -/
theorem flat_fieldValues (hit : Fields) (field : Text) (style : MappingStyle) :
    Flat (fieldValues hit field style) := by
  unfold fieldValues
  split
  · exact fun _ => mem_flatten
  · cases style with
    | legacy => exact fun _ absent => absurd absent List.not_mem_nil
    | typeless => exact flat_valuesAt _ _

/-! ### What is handed out of them -/

section

variable {values : List Json} {value : Json}

/-- Nothing is handed out exactly if there are no values. -/
theorem wrapped_eq_none_iff : wrapped values = none ↔ values = [] := by
  match values with
  | [] => simp [wrapped]
  | [first] => simp [wrapped]
  | first :: second :: rest => simp [wrapped]

/-- What is handed out of one value is the value; of more it is their list. -/
theorem wrapped_cases (given : wrapped values = some value) :
    values = [value] ∨ 2 ≤ values.length ∧ value = .arr values := by
  match values with
  | [first] =>
    cases given
    exact Or.inl rfl
  | first :: second :: rest =>
    cases given
    exact Or.inr ⟨by simp, rfl⟩

/-- What is handed out of flat values is not missing, is a list for two values or more, and gives
the values back. -/
theorem wrapped_faithful (flat : Flat values) (given : wrapped values = some value) :
    (value ≠ .null ∧ value ≠ .arr []) ∧ ((∃ items, value = .arr items) ↔ 2 ≤ values.length) ∧
      recovered value = values := by
  obtain rfl | ⟨several, rfl⟩ := wrapped_cases given
  · obtain ⟨notNull, notList⟩ := flat value List.mem_cons_self
    refine ⟨⟨notNull, notList []⟩, ?_, ?_⟩
    · simp [notList]
    · cases value with
      | arr items => exact absurd rfl (notList items)
      | _ => rfl
  · refine ⟨⟨Json.noConfusion, ?_⟩, ?_, rfl⟩
    · rintro ⟨⟩
      cases several
    · exact ⟨fun _ => several, fun _ => ⟨values, rfl⟩⟩

end

/-- The fields that a search hands out when fields with some values are asked for. -/
def handedOut (asked : List Text) (values : Text → List Json) : Fields :=
  Fields.ofAssignments (asked.filterMap fun field => entry field (values field))

/-- What is handed out under a name is handed out of its values. -/
theorem wrapped_of_get?_handedOut {asked : List Text} {values : Text → List Json} {field : Text}
    {value : Json} (found : (handedOut asked values).get? field = some value) :
    wrapped (values field) = some value := by
  have all : (handedOut asked values).get? field = if field ∈ asked then _ else _ :=
    get?_foldl_put (fun field => wrapped (values field)) asked field []
  rw [all, Fields.get?, Option.or_none] at found
  split at found
  case isTrue => exact found
  case isFalse => cases found

/-- A name has an entry when it was asked for and has values. -/
theorem exists_entry_iff (asked : List Text) (values : Text → List Json) (key : Key) :
    (∃ assignment ∈ asked.filterMap fun field => entry field (values field), assignment.1 = key) ↔
      ∃ field ∈ asked, key = .name field ∧ values field ≠ [] := by
  constructor
  · rintro ⟨assignment, member, rfl⟩
    obtain ⟨field, named, given⟩ := List.mem_filterMap.1 member
    obtain ⟨value, made, rfl⟩ := Option.map_eq_some_iff.1 given
    refine ⟨field, named, rfl, fun empty => ?_⟩
    rw [empty] at made
    cases made
  · rintro ⟨field, named, rfl, nonempty⟩
    obtain ⟨value, made⟩ := Option.ne_none_iff_exists'.1 (mt wrapped_eq_none_iff.1 nonempty)
    exact ⟨(.name field, value), List.mem_filterMap.2 ⟨field, named, by rw [entry, made]; rfl⟩, rfl⟩

/-- What is handed out of flat values is all that was asked for, without loss. -/
theorem extracts_handedOut (asked : List Text) {values : Text → List Json}
    (flat : ∀ field, Flat (values field)) : Extracts asked values (handedOut asked values) := by
  have texts : ∀ assignment ∈ asked.filterMap fun field => entry field (values field),
      assignment.1.isText = true := by
    intro assignment member
    obtain ⟨field, -, given⟩ := List.mem_filterMap.1 member
    obtain ⟨value, -, rfl⟩ := Option.map_eq_some_iff.1 given
    rfl
  obtain ⟨different, all⟩ := Fields.keys_ofAssignments texts
  have faithful : ∀ field value, (handedOut asked values).get? field = some value → _ :=
    fun field value found => wrapped_faithful (flat field) (wrapped_of_get?_handedOut found)
  exact {
    mem_keys_iff := fun key => (all key).trans (exists_entry_iff asked values key)
    nodup_keys := different
    present := fun field value found => (faithful field value found).1
    listed_iff := fun field value found => (faithful field value found).2.1
    recovered_eq := fun field value found => (faithful field value found).2.2 }

/-! ### Hits and pages -/

/-- What a search makes of a hit: its id as text, and what was asked for of its fields. -/
def Read (query : SearchQuery) (style : MappingStyle) (raw : Json) (hit : SearchHit) : Prop :=
  ∃ fields, raw = .obj fields ∧ hit.id = (Fields.getD fields "_id" .null).plain ∧
    Extracts query.fields (fun field => fieldValues fields field style) hit.extracted

/-- A hit with an id is read. -/
theorem exists_read {raw : Json} (identified : Identified raw) (query : SearchQuery)
    (style : MappingStyle) :
    ∃ hit, readHit query style raw = .ok hit ∧ Read query style raw hit := by
  obtain ⟨fields, rfl, named⟩ := identified
  have values : query.fields.filterMap (extractedField fields style) =
      query.fields.filterMap fun field => entry field (fieldValues fields field style) :=
    List.filterMap_congr fun field _ => extractedField_eq fields style field
  have read : readHit query style (.obj fields) = .ok {
      id := (Fields.getD fields "_id" .null).plain
      extracted := handedOut query.fields fun field => fieldValues fields field style } := by
    rw [readHit, values]
    split
    case h_1 absent => exact absurd absent named
    case h_2 => rfl
  exact ⟨_, read, fields, rfl, rfl,
    extracts_handedOut query.fields fun field => flat_fieldValues fields field style⟩

/-- A page of hits with ids is read hit by hit. -/
theorem exists_page {raws : List Json} (identified : ∀ raw ∈ raws, Identified raw)
    (query : SearchQuery) (style : MappingStyle) :
    ∃ page, raws.mapM (readHit query style) = .ok page ∧
      List.Forall₂ (Read query style) raws page := by
  induction raws with
  | nil => exact ⟨[], rfl, .nil⟩
  | cons raw rest inductionHypothesis =>
    obtain ⟨first, others⟩ := List.forall_mem_cons.1 identified
    obtain ⟨hit, read, faithful⟩ := exists_read first query style
    obtain ⟨page, readRest, faithfulRest⟩ := inductionHypothesis others
    refine ⟨hit :: page, ?_, .cons faithful faithfulRest⟩
    rw [List.mapM_cons, read, readRest]
    rfl

/-- A count in either form is read. -/
theorem Counts.totalHits_eq {total : Nat} {count : Json} (counts : Counts total count)
    {block : Fields} (found : block.get? "total" = some count) : totalHits block = .ok total := by
  apply totalHits_of_totalOf
  obtain rfl | ⟨fields, rfl, value⟩ := counts
  · simp only [totalOf, found]
  · simp only [totalOf, found, value]

end Search

/-- Whatever the engine's generation: a search that hears a count and hits with ids gives the count
and one hit for each of them, in their order, each with its id as text and with all values of the
fields that were asked for. -/
theorem search_extracts_without_loss {α τ : Type} [Seconds τ] {session : Session α τ}
    {c : Conversation α τ} {style : MappingStyle} {query : SearchQuery} {answer block : Fields}
    {count : Json} {total : Nat} {raws : List Json}
    (hears : session.Hears c style (.str query.index) query.body answer)
    (located : answer.get? "hits" = some (.obj block))
    (counted : block.get? "total" = some count) (counts : Counts total count)
    (listed : block.get? "hits" = some (.arr raws))
    (identified : ∀ raw ∈ raws, Identified raw) :
    ∃ result, ((search session query).run.run c).1 = .ok result ∧ result.total = total ∧
      List.Forall₂ (Read query style) raws result.hits := by
  have hits : hitsBlock answer = .ok block := by
    simp only [hitsBlock, located, Option.bind_some, Json.fields?]
  obtain ⟨page, read, faithful⟩ := exists_page identified query style
  refine ⟨{ total, hits := page }, ?_, rfl, faithful⟩
  rw [hears.search_outcome]
  simp only [resultFrom, hits, readHits, rawHits_of_arr listed, read, counts.totalHits_eq counted,
    resultOf_natCast, bind, Except.bind]

/-- A hit with nothing but a number for its id. -/
def bareHit : Fields := [("_id", .int 2)]

/-- A hit that hands out a document with lists in it. -/
def listedHit : Fields :=
  [("_id", .str "1.5"), ("_source", .obj [
    ("a", .arr [.obj [("b", .arr [.null, .int 1])], .obj [("b", .int 2)]]),
    ("c", .arr [.arr [.str "x"]])])]

/-- An answer with both hits, whose count is a lower bound. -/
def twoHits : Fields :=
  [("hits", .obj [("total", .obj [("value", .int 7), ("relation", .str "gte")]),
    ("hits", .arr [.obj bareHit, .obj listedHit])])]

/-- A search reads both hits without loss. -/
theorem two_hits_are_extracted :
    let query : SearchQuery := { index := "i", fields := ["a.b", "c", "d"] }
    ∃ result,
      ((search throughClient query).run.run (expecting .typeless twoHits)).1 = .ok result ∧
      result.total = 7 ∧
      List.Forall₂ (Read query .typeless) [.obj bareHit, .obj listedHit] result.hits := by
  intro query
  have hears : throughClient.Hears (expecting .typeless twoHits) .typeless (.str query.index)
      query.body twoHits := ⟨_, _, rfl, rfl, rfl⟩
  have counts : Counts 7 (.obj [("value", .int 7), ("relation", .str "gte")]) :=
    Or.inr ⟨_, rfl, rfl⟩
  have identified : ∀ raw ∈ [.obj bareHit, .obj listedHit], Identified raw :=
    List.forall_mem_cons.2 ⟨⟨_, rfl, Json.noConfusion⟩,
      List.forall_mem_singleton.2 ⟨_, rfl, Json.noConfusion⟩⟩
  exact search_extracts_without_loss hears rfl rfl counts rfl identified

/-- Two values are handed out in a list, one by itself, and none under no name. -/
example : ((search throughClient { index := "i", fields := ["a.b", "c", "d"] }).run.run
    (expecting .typeless twoHits)).1.map (·.hits.map (·.extracted)) =
    .ok [[], [("a.b", .arr [.int 1, .int 2]), ("c", .str "x")]] := rfl

end EngineGateway
