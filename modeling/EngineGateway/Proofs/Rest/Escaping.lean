import EngineGateway.Proofs.Rest.Segments

/-!
# Segments in which everything else is escaped

The segments that a session puts into the paths of its raw requests let no character stand but the
unreserved ones. What such a segment looks like is said here without the encoder (`Escaped`): it is
a row of unreserved characters and of octets, each a percent sign and two digits. So nothing in it
ends it, begins a query or is a percent sign on its own. A path made of such segments is cut at its
slashes into exactly these, and its names read back from them; two names never share a path.
-/

namespace EngineGateway.Rest

open Text

/-- The digits of an escaped octet. -/
def octetDigits : List Char := "0123456789ABCDEF".toList

/-- A row of unreserved characters and of octets, each a percent sign and two digits. -/
inductive Escaped : List Char → Prop where
  | nil : Escaped []
  | unreserved {c : Char} {rest : List Char} (free : Percent.isUnreserved c = true)
      (more : Escaped rest) : Escaped (c :: rest)
  | octet {high low : Char} {rest : List Char} (first : high ∈ octetDigits)
      (second : low ∈ octetDigits) (more : Escaped rest) : Escaped ('%' :: high :: low :: rest)

namespace Escaped

variable {cs : List Char}

/-- Such rows can be joined. -/
theorem append {front back : List Char} (first : Escaped front) (second : Escaped back) :
    Escaped (front ++ back) := by
  induction first with
  | nil => exact second
  | unreserved free more inductionHypothesis => exact .unreserved free inductionHypothesis
  | octet high low more inductionHypothesis => exact .octet high low inductionHypothesis

/-- So can any number of them. -/
theorem flatMap {ι : Type} {f : ι → List Char} (each : ∀ item, Escaped (f item)) (items : List ι) :
    Escaped (items.flatMap f) := by
  induction items with
  | nil => exact .nil
  | cons item rest inductionHypothesis => exact (each item).append inductionHypothesis

/-- An escaped octet is one. -/
theorem escape (octet : UInt8) : Escaped (Percent.escape octet) := by
  have digit : ∀ n, n < 16 → hexDigitUpper n ∈ octetDigits := by decide
  have small := octet.toNat_lt
  exact .octet (digit _ (by omega)) (digit _ (by omega)) .nil

/-- So is a text in which only unreserved characters stand. -/
theorem encodeChars {keep : Char → Bool}
    (strict : ∀ c, keep c = true → Percent.isUnreserved c = true) (cs : List Char) :
    Escaped (Percent.encodeChars keep cs) := by
  refine flatMap (fun c => ?_) cs
  unfold Percent.encodeChar
  split
  · next kept => exact .unreserved (strict c kept) .nil
  · exact flatMap escape _

/-- Each of its characters is unreserved or a percent sign. -/
theorem isUnreserved_of_mem (escaped : Escaped cs) {c : Char} (member : c ∈ cs) :
    Percent.isUnreserved c = true ∨ c = '%' := by
  have digits : octetDigits.all Percent.isUnreserved = true := by decide
  have digit := List.all_eq_true.1 digits
  induction escaped with
  | nil => simp at member
  | unreserved free more inductionHypothesis =>
    rcases List.mem_cons.1 member with rfl | later
    · exact .inl free
    · exact inductionHypothesis later
  | octet first second more inductionHypothesis =>
    simp only [List.mem_cons] at member
    rcases member with rfl | rfl | rfl | later
    · exact .inr rfl
    · exact .inl (digit _ first)
    · exact .inl (digit _ second)
    · exact inductionHypothesis later

/-- Nothing in it ends a segment. -/
theorem not_mem_slash (escaped : Escaped cs) : '/' ∉ cs := fun member =>
  absurd (escaped.isUnreserved_of_mem member) (by decide)

end Escaped

/-- A segment of that form from which a name reads back. -/
structure Encodes (segment : List Char) (name : Text) : Prop where
  escaped : Escaped segment
  decodes : (Percent.decode? (String.ofList segment)).map Text.ofString = some name

/-- No other name reads back from it. -/
theorem Encodes.unique {segment : List Char} {name other : Text} (encodes : Encodes segment name)
    (again : Encodes segment other) : name = other :=
  Option.some.inj (encodes.decodes.symm.trans again.decodes)

/-- The segment of a name is one. -/
theorem encodes_of_segment {name : Text} {written : String}
    (segment : segment (.str name) = .ok written) : Encodes written.toList name := by
  refine ⟨?_, (spells_of_segment segment).decode⟩
  change segmentWith [] name = .ok written at segment
  unfold segmentWith at segment
  split at segment
  case h_1 form encoded =>
    obtain rfl := Except.ok.inj segment
    obtain ⟨s, -, rfl⟩ := Percent.encode?_eq_some encoded
    rw [String.toList_ofList]
    exact Escaped.encodeChars (fun c kept => by simpa using kept) s.toList
  case h_2 => simp at segment

/-- A path is cut at its slashes into nothing and the segments of the three names of a document. -/
def SplitsForDocument (path : String) (index type id : Text) : Prop :=
  ∃ i t d, splitBy (· == '/') path.toList = [[], i, t, d] ∧
    Encodes i index ∧ Encodes t type ∧ Encodes d id

/-- A path is cut at its slashes into nothing, two fixed names and the segment of a pipeline. -/
def SplitsForPipeline (path : String) (id : Text) : Prop :=
  ∃ q, splitBy (· == '/') path.toList = [[], "_ingest".toList, "pipeline".toList, q] ∧ Encodes q id

/-- Segments behind slashes are found again between the slashes. -/
theorem splitBy_slashed {segments : List (List Char)} (present : segments ≠ [])
    (whole : ∀ segment ∈ segments, '/' ∉ segment) :
    splitBy (· == '/') ('/' :: joinWith '/' segments) = [] :: segments := by
  obtain ⟨first, rest, rfl⟩ := List.exists_cons_of_ne_nil present
  change splitBy (· == '/') (joinWith '/' ([] :: first :: rest)) = _
  refine splitBy_joinWith (List.cons_ne_nil _ _) fun part member => ?_
  rcases List.mem_cons.1 member with rfl | among
  · exact List.not_mem_nil
  · exact whole part among

/-- The path of a document with a type is cut into its three names. -/
theorem splitsForDocument_of_typedPath {index type id : Text} {path : String}
    (built : typedPath (.str index) (.str type) (.str id) = .ok path) :
    SplitsForDocument path index type id := by
  simp only [typedPath, bind_eq_ok] at built
  obtain ⟨i, first, t, second, d, third, written⟩ := built
  obtain rfl := Except.ok.inj written
  have first := encodes_of_segment first
  have second := encodes_of_segment second
  have third := encodes_of_segment third
  refine ⟨i.toList, t.toList, d.toList, ?_, first, second, third⟩
  have joined : ("/" ++ i ++ "/" ++ t ++ "/" ++ d).toList =
      '/' :: joinWith '/' [i.toList, t.toList, d.toList] := by simp [joinWith]
  rw [joined]
  refine splitBy_slashed (List.cons_ne_nil _ _) ?_
  simp [first.escaped.not_mem_slash, second.escaped.not_mem_slash, third.escaped.not_mem_slash]

/-- The path of a pipeline is cut into two fixed names and its own. -/
theorem splitsForPipeline_of_pipelinePath {id : Text} {path : String}
    (built : pipelinePath (.str id) = .ok path) : SplitsForPipeline path id := by
  simp only [pipelinePath, bind_eq_ok] at built
  obtain ⟨q, spelled, written⟩ := built
  obtain rfl := Except.ok.inj written
  have encodes := encodes_of_segment spelled
  refine ⟨q.toList, ?_, encodes⟩
  have joined : ("/_ingest/pipeline/" ++ q).toList =
      '/' :: joinWith '/' ["_ingest".toList, "pipeline".toList, q.toList] := by simp [joinWith]
  rw [joined]
  refine splitBy_slashed (List.cons_ne_nil _ _) ?_
  simp [encodes.escaped.not_mem_slash]

/-- A path is that of one document only. -/
theorem SplitsForDocument.unique {path : String} {index type id index' type' id' : Text}
    (splits : SplitsForDocument path index type id)
    (again : SplitsForDocument path index' type' id') :
    index = index' ∧ type = type' ∧ id = id' := by
  obtain ⟨i, t, d, cut, first, second, third⟩ := splits
  obtain ⟨i', t', d', same, first', second', third'⟩ := again
  simp only [cut, List.cons.injEq, true_and, and_true] at same
  obtain ⟨rfl, rfl, rfl⟩ := same
  exact ⟨first.unique first', second.unique second', third.unique third'⟩

/-- And of one pipeline only. -/
theorem SplitsForPipeline.unique {path : String} {id id' : Text}
    (splits : SplitsForPipeline path id) (again : SplitsForPipeline path id') : id = id' := by
  obtain ⟨q, cut, encodes⟩ := splits
  obtain ⟨q', same, encodes'⟩ := again
  simp only [cut, List.cons.injEq, true_and, and_true] at same
  obtain rfl := same
  exact encodes.unique encodes'

end EngineGateway.Rest
