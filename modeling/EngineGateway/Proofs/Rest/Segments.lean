import EngineGateway.Proofs.Text.Percent
import EngineGateway.Rest.Backend
import Mathlib.Data.List.Forall2

/-!
# Names in the paths of requests

A call that names something puts each name into one segment of a path. `Addresses` lists the calls
with the names that their paths are made of, fixed ones included. As it is written, a path spells
exactly these names: cut at its slashes and read back it gives them in order. What the library that
sends the request makes of the path is another matter.
-/

namespace EngineGateway.Rest

open Text

/-- The names that a path spells, cut at its slashes. -/
def namesIn? (path : List Char) : Option (List Text) :=
  (splitBy (· == '/') path).mapM fun part =>
    (Percent.decode? (String.ofList part)).map Text.ofString

/-- The names that a path spells behind a prefix. -/
def namesBelow? (front path : List Char) : Option (List Text) :=
  if front.isPrefixOf path then namesIn? (path.drop front.length) else none

/-- The names of which the path of a call is made. -/
inductive Addresses : Call → List Text → Prop where
  | createIndex (index : Text) (body : Json) : Addresses (.createIndex (.str index) body) [index]
  | indexExists (index : Text) : Addresses (.indexExists (.str index)) [index]
  | deleteIndex (index : Text) : Addresses (.deleteIndex (.str index)) [index]
  | health (index : Text) (hold : Json) :
    Addresses (.health (.str index) hold) ["_cluster", "health", index]
  | refresh (index : Text) : Addresses (.refresh (.str index)) [index, "_refresh"]
  | writeDocument (index id : Text) (document : Json) (pipeline : Name) :
    Addresses (.writeDocument (.str index) (.str id) document pipeline) [index, "_doc", id]
  | search (index : Text) (body : Json) : Addresses (.search (.str index) body) [index, "_search"]
  | putPipeline (id : Text) (body : Json) :
    Addresses (.putPipeline (.str id) body) ["_ingest", "pipeline", id]
  | rawWrite {path : String} (index type id : Text) (method body parameters : Json)
    (built : typedPath (.str index) (.str type) (.str id) = .ok path) :
    Addresses (.raw method (.str path) body parameters) [index, type, id]
  | rawProbe {path : String} (id : Text) (method body parameters : Json)
    (built : pipelinePath (.str id) = .ok path) :
    Addresses (.raw method (.str path) body parameters) ["_ingest", "pipeline", id]

/-- A character of a segment: one that may stand for itself there, or a percent sign. -/
def isSegmentChar (c : Char) : Bool :=
  Percent.isUnreserved c || c == '*' || c == ',' || c == '%'

/-- A part of a path is the form of a name. Which characters beside the unreserved ones stand for
themselves may differ from place to place. -/
def Spells (part : List Char) (name : Text) : Prop :=
  ∃ (safe : List Char) (s : String), (∀ c ∈ safe, c = '*' ∨ c = ',') ∧ name = Text.ofString s ∧
    part = Percent.encodeChars (fun c => Percent.isUnreserved c || safe.contains c) s.toList

namespace Spells

variable {part : List Char} {name : Text}

/-- The percent sign never stands for itself. -/
theorem escaped {safe : List Char} (few : ∀ c ∈ safe, c = '*' ∨ c = ',') :
    (Percent.isUnreserved '%' || safe.contains '%') = false := by
  have absent : '%' ∉ safe := fun member => by
    rcases few _ member with same | same <;> exact absurd same (by decide)
  simpa [absent] using (by decide : Percent.isUnreserved '%' = false)

/-- A name reads back from its form. -/
theorem decode (spells : Spells part name) :
    (Percent.decode? (String.ofList part)).map Text.ofString = some name := by
  obtain ⟨safe, s, few, rfl, rfl⟩ := spells
  rw [Percent.decode?_encodeChars (escaped few), Option.map_some, String.ofList_toList]

/-- The form of a name holds nothing that ends a segment. -/
theorem isSegmentChar_of_mem (spells : Spells part name) {c : Char} (member : c ∈ part) :
    isSegmentChar c = true := by
  obtain ⟨safe, s, few, _, rfl⟩ := spells
  rcases Percent.mem_encodeChars member with ⟨_, kept⟩ | rfl | digit
  · rcases Bool.or_eq_true_iff.1 kept with free | allowed
    · simp [isSegmentChar, free]
    · rcases few c (by simpa using allowed) with rfl | rfl <;> decide
  · decide
  · simp [isSegmentChar, Percent.isUnreserved, digit]

/-- A name whose characters all stand for themselves is spelled as it is. -/
theorem self {s : String} (free : s.toList.all Percent.isUnreserved = true) :
    Spells s.toList (Text.ofString s) := by
  refine ⟨[], s, by simp, rfl, (Percent.encodeChars_of_forall fun c member => ?_).symm⟩
  simp [List.all_eq_true.1 free c member]

/-- Such a name is the only one of its form, and has no other form. -/
theorem eq_self_iff (spells : Spells part name) {s : String}
    (free : s.toList.all Percent.isUnreserved = true) :
    part = s.toList ↔ name = Text.ofString s := by
  constructor
  · rintro rfl
    exact Option.some.inj (spells.decode.symm.trans (self free).decode)
  · rintro rfl
    obtain ⟨safe, t, few, same, rfl⟩ := spells
    obtain rfl := Text.ofString_inj.1 same
    refine Percent.encodeChars_of_forall fun c member => ?_
    simp [List.all_eq_true.1 free c member]

end Spells

/-- A text that is written as a segment is spelled there. -/
theorem spells_of_segmentWith {safe : List Char} (few : ∀ c ∈ safe, c = '*' ∨ c = ',') {text : Text}
    {written : String} (segment : segmentWith safe text = .ok written) :
    Spells written.toList text := by
  unfold segmentWith at segment
  split at segment
  case h_1 form encoded =>
    obtain rfl := Except.ok.inj segment
    obtain ⟨s, rfl, rfl⟩ := Percent.encode?_eq_some encoded
    exact ⟨safe, s, few, rfl, String.toList_ofList⟩
  case h_2 => simp at segment

/-- The segment of a name spells it. -/
theorem spells_of_segment {name : Text} {written : String}
    (segment : segment (.str name) = .ok written) : Spells written.toList name :=
  spells_of_segmentWith (by simp) segment

/-- The segment of an index spells its name. -/
theorem spells_of_indexSegment {name : Text} {written : String}
    (segment : indexSegment (.str name) = .ok written) : Spells written.toList name :=
  spells_of_segmentWith (by simp) segment

/-- A computation in two steps has a value if both steps have one. -/
theorem bind_eq_ok {ε α β : Type} {first : Except ε α} {next : α → Except ε β} {value : β} :
    (first >>= next) = .ok value ↔ ∃ middle, first = .ok middle ∧ next middle = .ok value := by
  cases first <;> simp [bind, Except.bind]

/-- A computation whose failures are put otherwise has the values that it had. -/
theorem mapError_eq_ok {ε ε' α : Type} {result : Except ε α} {f : ε → ε'} {value : α} :
    result.mapError f = .ok value ↔ result = .ok value := by
  cases result with
  | ok v =>
    constructor
    all_goals exact fun same => congrArg Except.ok (Except.ok.inj same)
  | error failure => exact ⟨nofun, nofun⟩

/-- A path is made of forms of names, each behind a slash. -/
def MadeOf (path : String) (names : List Text) : Prop :=
  ∃ parts, List.Forall₂ Spells parts names ∧ path.toList = '/' :: joinWith '/' parts

/-- The path of a document with a type is made of its three names. -/
theorem madeOf_of_typedPath {index type id : Text} {path : String}
    (built : typedPath (.str index) (.str type) (.str id) = .ok path) :
    MadeOf path [index, type, id] := by
  simp only [typedPath, bind_eq_ok] at built
  obtain ⟨i, first, t, second, d, third, written⟩ := built
  obtain rfl := Except.ok.inj written
  exact ⟨[i.toList, t.toList, d.toList], .cons (spells_of_segment first) (.cons
    (spells_of_segment second) (.cons (spells_of_segment third) .nil)), by simp [joinWith]⟩

/-- The path of a pipeline is made of two fixed names and its own. -/
theorem madeOf_of_pipelinePath {id : Text} {path : String}
    (built : pipelinePath (.str id) = .ok path) : MadeOf path ["_ingest", "pipeline", id] := by
  simp only [pipelinePath, bind_eq_ok] at built
  obtain ⟨d, spelled, written⟩ := built
  obtain rfl := Except.ok.inj written
  exact ⟨["_ingest".toList, "pipeline".toList, d.toList], .cons (Spells.self rfl) (.cons
    (Spells.self rfl) (.cons (spells_of_segment spelled) .nil)), by simp [joinWith]⟩

/-- The path of an index is made of its name. -/
theorem madeOf_index {index : Text} {i : String} (spelled : indexSegment (.str index) = .ok i) :
    MadeOf ("/" ++ i) [index] :=
  ⟨[i.toList], .cons (spells_of_indexSegment spelled) .nil, by simp [joinWith]⟩

/-- The path of a call is made of the names that the call addresses. -/
theorem Addresses.madeOf {call : Call} {names : List Text} (addresses : Addresses call names)
    {plan : Plan} (planned : Rest.plan call = .ok plan) :
    ∃ path : String, plan.path = .str path ∧ MadeOf path names := by
  cases addresses <;> simp only [Rest.plan, bind_eq_ok] at planned
  case createIndex | indexExists | deleteIndex =>
    obtain ⟨i, spelled, written⟩ := planned
    obtain rfl := Except.ok.inj written
    exact ⟨_, rfl, madeOf_index spelled⟩
  case health index hold =>
    obtain ⟨i, spelled, written⟩ := planned
    obtain rfl := Except.ok.inj written
    exact ⟨_, rfl, ["_cluster".toList, "health".toList, i.toList], .cons (Spells.self rfl)
      (.cons (Spells.self rfl) (.cons (spells_of_indexSegment spelled) .nil)),
      by simp [joinWith]⟩
  case refresh index =>
    obtain ⟨i, spelled, written⟩ := planned
    obtain rfl := Except.ok.inj written
    exact ⟨_, rfl, [i.toList, "_refresh".toList], .cons (spells_of_indexSegment spelled)
      (.cons (Spells.self rfl) .nil), by simp [joinWith]⟩
  case search index body =>
    obtain ⟨i, spelled, written⟩ := planned
    obtain rfl := Except.ok.inj written
    exact ⟨_, rfl, [i.toList, "_search".toList], .cons (spells_of_indexSegment spelled)
      (.cons (Spells.self rfl) .nil), by simp [joinWith]⟩
  case writeDocument index id document pipeline =>
    obtain ⟨i, first, d, second, written⟩ := planned
    obtain rfl := Except.ok.inj written
    exact ⟨_, rfl, [i.toList, "_doc".toList, d.toList], .cons (spells_of_indexSegment first)
      (.cons (Spells.self rfl) (.cons (spells_of_segment second) .nil)), by simp [joinWith]⟩
  case putPipeline id body =>
    obtain ⟨path, built, written⟩ := planned
    obtain rfl := Except.ok.inj written
    exact ⟨_, rfl, madeOf_of_pipelinePath built⟩
  case rawWrite index type id method body parameters built =>
    obtain rfl := Except.ok.inj planned
    exact ⟨_, rfl, madeOf_of_typedPath built⟩
  case rawProbe id method body parameters built =>
    obtain rfl := Except.ok.inj planned
    exact ⟨_, rfl, madeOf_of_pipelinePath built⟩

/-- No form of a name holds a slash. -/
theorem Spells.not_mem_slash {part : List Char} {name : Text} (spells : Spells part name) :
    '/' ∉ part := fun member =>
  absurd (spells.isSegmentChar_of_mem member) (by decide)

/-- Each of some forms of names is the form of one of the names. -/
theorem spells_of_mem {parts : List (List Char)} {names : List Text}
    (spelled : List.Forall₂ Spells parts names) {part : List Char} (member : part ∈ parts) :
    ∃ name ∈ names, Spells part name := by
  induction spelled with
  | nil => simp at member
  | cons first others inductionHypothesis =>
    rcases List.mem_cons.1 member with rfl | later
    · exact ⟨_, List.mem_cons_self, first⟩
    · obtain ⟨name, among, spells⟩ := inductionHypothesis later
      exact ⟨name, List.mem_cons_of_mem _ among, spells⟩

/-- What the forms of names are joined to reads back as the names. -/
theorem namesIn?_joinWith {parts : List (List Char)} {names : List Text}
    (spelled : List.Forall₂ Spells parts names) (present : parts ≠ []) :
    namesIn? (joinWith '/' parts) = some names := by
  have whole : ∀ part ∈ parts, '/' ∉ part := fun part member => by
    obtain ⟨name, _, spells⟩ := spells_of_mem spelled member
    exact spells.not_mem_slash
  rw [namesIn?, splitBy_joinWith present whole]
  clear present whole
  induction spelled with
  | nil => rfl
  | cons first others inductionHypothesis =>
    rw [List.mapM_cons, first.decode, inductionHypothesis]
    rfl

/-- A path reads back as the names of which it is made. -/
theorem MadeOf.namesBelow? {path : String} {names : List Text} (made : MadeOf path names)
    (present : names ≠ []) : namesBelow? ['/'] path.toList = some names := by
  obtain ⟨parts, spelled, written⟩ := made
  have some : parts ≠ [] := by
    rintro rfl
    cases spelled
    exact present rfl
  rw [Rest.namesBelow?, written, if_pos (by simp [List.isPrefixOf])]
  exact namesIn?_joinWith spelled some

end EngineGateway.Rest
