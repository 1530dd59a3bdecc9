import EngineGateway.Proofs.Text.Percent
import EngineGateway.Proofs.Text.Trimming
import EngineGateway.Rest.Backend

/-!
# Plain queries

A query is plain if all its characters stand for themselves and none of them is one by which an
address is taken apart. An address can be given any plain query as well as any other, and whether
the answer to its request can be used does not depend on which one it has.
-/

namespace EngineGateway.Rest

open Text (Point pointsOf)

/-- A query whose characters stand for themselves and end nothing. -/
structure PlainQuery (query : List Char) : Prop where
  short : query.length ≤ addressLimit
  stands : ∀ c ∈ query, standsInQuery c = true
  endless : ∀ c ∈ query, c ≠ ':' ∧ c ≠ '/'

/-- An address with a query put in the place of its own. -/
def Address.asking (address : Address) (query : List Char) : Address :=
  { address with query := some query }

section

variable {query : List Char}

/-- A plain query is its own form. -/
theorem PlainQuery.encoded_eq (plain : PlainQuery query) :
    encoded standsInQuery (pointsOf query) = .ok query := by
  unfold encoded
  rw [Text.Percent.encodePoints?_pointsOf, Text.Percent.encodeChars_of_forall plain.stands]

/-- A fragment cannot begin in a plain query. -/
theorem PlainQuery.not_mem_hash (plain : PlainQuery query) : '#' ∉ query := by
  intro member
  exact absurd (plain.stands '#' member) (by decide)

/-- The form of what is written with a plain query is that of what is written with an empty one, but
for the query. -/
theorem Reference.address_of_plain (r : Reference) (plain : PlainQuery query) :
    Reference.address { r with query := some (pointsOf query) } =
      (fun given => given.asking query) <$>
        Reference.address { r with query := some (pointsOf []) } := by
  have empty : encoded standsInQuery (pointsOf []) = .ok [] := rfl
  unfold Reference.address
  simp only [Option.mapM_some, plain.encoded_eq, empty, map_bind]
  refine bind_congr fun user => bind_congr fun host => bind_congr fun port => ?_
  split
  · rfl
  · simp only [map_bind]
    exact bind_congr fun path => rfl

/-- An address is given a plain query, or not, as it is given an empty one. -/
theorem Address.withQuery_of_plain (address : Address) (plain : PlainQuery query) :
    address.withQuery (some query) =
      (fun given => given.asking query) <$> address.withQuery (some []) := by
  have fits : Reference.isShort { address.reference with query := some (pointsOf query) } =
      Reference.isShort { address.reference with query := some (pointsOf []) } := by
    simp [Reference.isShort, pointsOf, plain.short]
  unfold Address.withQuery Reference.changed
  simp only [Option.map_some, fits, Reference.address_of_plain address.reference plain]
  split <;> rfl

end

/-! ### Where an address is taken apart -/

/-- A row that stops somewhere is taken up to there, whatever follows. -/
theorem takeWhile_append_cons {test : Char → Bool} {mark : Char} (stops : test mark = false)
    (front rest : List Char) : (front ++ mark :: rest).takeWhile test = front.takeWhile test := by
  induction front with
  | nil => simp [stops]
  | cons c front inductionHypothesis =>
    rw [List.cons_append, List.takeWhile_cons, List.takeWhile_cons, inductionHypothesis]

/-- What is left of it goes on behind it. -/
theorem dropWhile_append_cons {test : Char → Bool} {mark : Char} (stops : test mark = false)
    (front rest : List Char) :
    (front ++ mark :: rest).dropWhile test = front.dropWhile test ++ mark :: rest := by
  induction front with
  | nil => simp [stops]
  | cons c front inductionHypothesis =>
    rw [List.cons_append, List.dropWhile_cons, List.dropWhile_cons, inductionHypothesis]
    split <;> rfl

/-- The address up to its query, without the word in front of it, does not depend on the query. -/
theorem Address.bareText_asking (address : Address) :
    ∃ front, ∀ query, (address.asking query).bareText =
      front ++ '?' :: (query ++ marked '#' address.fragment) := by
  obtain ⟨front, written⟩ : ∃ front, ∀ query, (address.asking query).text =
      front ++ '?' :: (query ++ marked '#' address.fragment) := by
    refine ⟨(if address.scheme.isEmpty then [] else address.scheme ++ [':']) ++
      (if address.authority.isEmpty then [] else '/' :: '/' :: address.authority) ++
      address.path, fun query => ?_⟩
    rw [← List.cons_append, ← List.append_assoc]
    rfl
  unfold bareText
  simp only [written]
  by_cases worded : ∃ later, front = 'U' :: 'R' :: 'L' :: ':' :: later
  · obtain ⟨later, rfl⟩ := worded
    exact ⟨later, fun _ => rfl⟩
  · refine ⟨front, fun query => ?_⟩
    split
    · rcases front with _ | ⟨a, _ | ⟨b, _ | ⟨c, _ | ⟨d, later⟩⟩⟩⟩ <;> simp_all
    · rfl

/-- What follows the scheme, up to the query, does not depend on the query. -/
theorem afterScheme_append (front : List Char) :
    ∃ later, ∀ rest, afterScheme (front ++ '?' :: rest) = later ++ '?' :: rest := by
  have scheme : ∀ rest, (front ++ '?' :: rest).takeWhile isSchemeChar =
      front.takeWhile isSchemeChar := takeWhile_append_cons rfl front
  have behind : ∀ rest, (front ++ '?' :: rest).dropWhile isSchemeChar =
      front.dropWhile isSchemeChar ++ '?' :: rest := dropWhile_append_cons rfl front
  unfold afterScheme
  simp only [scheme, behind]
  cases front.takeWhile isSchemeChar with
  | nil => exact ⟨front, fun _ => rfl⟩
  | cons first _ =>
    cases front.dropWhile isSchemeChar with
    | nil => exact ⟨front, fun _ => rfl⟩
    | cons mark later =>
      by_cases colon : mark = ':' ∧ first.isAlpha
      · obtain ⟨rfl, alpha⟩ := colon
        exact ⟨later, fun _ => if_pos alpha⟩
      · refine ⟨front, fun rest => ?_⟩
        split <;> simp_all

/-- The authority does not depend on the query. -/
theorem writtenAuthority_append (front : List Char) :
    ∃ authority, ∀ rest, writtenAuthority (front ++ '?' :: rest) = authority := by
  obtain ⟨later, after⟩ := afterScheme_append front
  unfold writtenAuthority
  simp only [after]
  by_cases placed : ∃ authority, later = '/' :: '/' :: authority
  · obtain ⟨authority, rfl⟩ := placed
    exact ⟨authority.takeWhile (!endsAuthority ·), takeWhile_append_cons rfl authority⟩
  · refine ⟨[], fun rest => ?_⟩
    split
    · rcases later with _ | ⟨a, _ | ⟨b, authority⟩⟩ <;> simp_all
    · rfl

/-! ### What makes an answer useless -/

section

variable {query : List Char}

/-- The brackets in an address are right whatever the query. -/
theorem Address.checkBrackets_asking (address : Address) (query : List Char) :
    (address.asking query).checkBrackets = (address.asking []).checkBrackets := by
  obtain ⟨front, written⟩ := address.bareText_asking
  obtain ⟨authority, taken⟩ := writtenAuthority_append front
  unfold checkBrackets
  rw [written, written, taken, taken]

/-- Before a mark that is among what stands behind, all that stands in front is left. -/
theorem upToLast_append_of_mem {mark : Char} (front : List Char) {behind : List Char}
    (among : mark ∈ behind) : upToLast mark (front ++ behind) = front ++ upToLast mark behind := by
  have left : behind.reverse.dropWhile (· != mark) ≠ [] := by
    intro empty
    simpa using List.dropWhile_eq_nil_iff.1 empty mark (List.mem_reverse.2 among)
  obtain ⟨found, before, stopped⟩ := List.exists_cons_of_ne_nil left
  have both : (front ++ behind).reverse.dropWhile (· != mark) =
      found :: (before ++ front.reverse) := by
    rw [List.reverse_append, List.dropWhile_append, stopped]
    rfl
  unfold upToLast
  rw [both, stopped]
  simp

/-- What stands behind the last of a mark does not matter. -/
theorem upToLast_append_of_not_mem {mark : Char} {front behind : List Char} (among : mark ∈ front)
    (missing : mark ∉ behind) : upToLast mark (front ++ behind) = upToLast mark front := by
  have passed : ∀ c ∈ behind.reverse, (c != mark) = true := by
    intro c member
    rw [bne_iff_ne]
    exact fun same => missing (same ▸ List.mem_reverse.1 member)
  have left : front.reverse.dropWhile (· != mark) ≠ [] := by
    intro empty
    simpa using List.dropWhile_eq_nil_iff.1 empty mark (List.mem_reverse.2 among)
  obtain ⟨found, before, stopped⟩ := List.exists_cons_of_ne_nil left
  have both : (front ++ behind).reverse.dropWhile (· != mark) = found :: before := by
    rw [List.reverse_append, List.dropWhile_append_of_pos passed, stopped]
  unfold upToLast
  rw [both, stopped]

/-- Without a mark there is nothing to stand behind it. -/
theorem upToLast_of_not_mem {mark : Char} {cs : List Char} (missing : mark ∉ cs) :
    upToLast mark cs = cs := by
  have empty : cs.reverse.dropWhile (· != mark) = [] := by
    rw [List.dropWhile_eq_nil_iff]
    intro c member
    rw [bne_iff_ne]
    exact fun same => missing (same ▸ List.mem_reverse.1 member)
  simp [upToLast, empty]

/-- A character that does not end the rules by which an address is to be read. -/
def inRules (c : Char) : Bool := c != ':' && c != '/'

/-- Whether a text begins with rules and a colon. -/
def BeginsWithRules (cs : List Char) : Prop :=
  cs.head?.any inRules = true ∧ (cs.dropWhile inRules).head? = some ':'

/-- An address says how it is to be read if it begins with rules and a colon. -/
theorem Address.saysHow_iff (address : Address) :
    address.saysHow = true ↔ BeginsWithRules (upToLast '#' address.bareText) := by
  have said : ∀ cs : List Char, (!(cs.takeWhile inRules).isEmpty &&
      (cs.drop (cs.takeWhile inRules).length).head? == some ':') = true ↔ BeginsWithRules cs := by
    intro cs
    have dropped : cs.drop (cs.takeWhile inRules).length = cs.dropWhile inRules :=
      calc cs.drop (cs.takeWhile inRules).length
          = (cs.takeWhile inRules ++ cs.dropWhile inRules).drop
              (cs.takeWhile inRules).length := by rw [List.takeWhile_append_dropWhile]
        _ = cs.dropWhile inRules := List.drop_left
    have begun : (cs.takeWhile inRules).isEmpty = !cs.head?.any inRules := by
      cases cs with
      | nil => rfl
      | cons c rest =>
        cases first : inRules c <;> simp [first]
    rw [dropped, begun, Bool.not_not, Bool.and_eq_true, beq_iff_eq, BeginsWithRules]
  exact said _

/-- Rules do not end in a query that has neither colon nor slash. -/
theorem beginsWithRules_append (front : List Char) {query tail : List Char}
    (endless : ∀ c ∈ query, c ≠ ':' ∧ c ≠ '/') :
    BeginsWithRules (front ++ '?' :: (query ++ tail)) ↔
      BeginsWithRules (front ++ '?' :: tail) := by
  have passes : ∀ c ∈ query, inRules c = true := by
    intro c member
    simp [inRules, endless c member]
  have skipped : ('?' :: (query ++ tail)).dropWhile inRules =
      ('?' :: tail).dropWhile inRules := by
    change (query ++ tail).dropWhile inRules = tail.dropWhile inRules
    exact List.dropWhile_append_of_pos passes
  have first : (front ++ '?' :: (query ++ tail)).head? = (front ++ '?' :: tail).head? := by
    cases front <;> rfl
  unfold BeginsWithRules
  rw [first, List.dropWhile_append, List.dropWhile_append, skipped]
  cases front.dropWhile inRules <;> rfl

/-- An address says by which rules it is to be read whatever plain query it has. -/
theorem Address.saysHow_asking (address : Address) (plain : PlainQuery query) :
    (address.asking query).saysHow = (address.asking []).saysHow := by
  obtain ⟨front, written⟩ := address.bareText_asking
  rw [Bool.eq_iff_iff, saysHow_iff, saysHow_iff, written, written, List.nil_append]
  generalize marked '#' address.fragment = behind
  by_cases later : '#' ∈ behind
  · have cut : ∀ query, upToLast '#' (front ++ '?' :: (query ++ behind)) =
        front ++ '?' :: (query ++ upToLast '#' behind) := by
      intro query
      have joined := upToLast_append_of_mem (front ++ '?' :: query) later
      rwa [List.append_assoc, List.append_assoc] at joined
    rw [cut, ← List.nil_append behind, cut]
    exact beginsWithRules_append front plain.endless
  · have missing : ∀ query : List Char, '#' ∉ query → '#' ∉ '?' :: (query ++ behind) := by
      intro query absent
      simp [absent, later]
    have absent := missing query plain.not_mem_hash
    have absentToo := missing [] List.not_mem_nil
    rw [List.nil_append] at absentToo
    by_cases earlier : '#' ∈ front
    · rw [upToLast_append_of_not_mem earlier absent, upToLast_append_of_not_mem earlier absentToo]
    · rw [upToLast_of_not_mem (by simp [earlier, plain.not_mem_hash, later]),
        upToLast_of_not_mem (by simp [earlier, later])]
      exact beginsWithRules_append front plain.endless

/-- Whether the answer to a request can be used does not depend on the plain query that it has. Only
the words for an address that does not say how it is to be read do. -/
theorem Address.fault?_asking (address : Address) (plain : PlainQuery query)
    {other : List Char} (also : PlainQuery other) :
    (address.asking query).fault? = (address.asking other).fault? ∨
      ∃ url another, (address.asking query).fault? = some (.unknownScheme url) ∧
        (address.asking other).fault? = some (.unknownScheme another) := by
  unfold fault?
  rw [address.saysHow_asking plain, address.saysHow_asking also,
    address.checkBrackets_asking query, address.checkBrackets_asking other]
  split
  · exact Or.inr ⟨_, _, rfl, rfl⟩
  · exact Or.inl rfl

end

end EngineGateway.Rest
