/-!
# Parts of a list

Cutting a list at a separator and joining it again. `splitBy` never loses anything: joining the
parts with the separator gives the list back, no part holds the separator, and there is always at
least one part.
-/

namespace EngineGateway.Text

variable {α : Type}

/-- The parts of a list between the elements that satisfy `separator`. -/
def splitBy (separator : α → Bool) : List α → List (List α)
  | [] => [[]]
  | c :: rest =>
    if separator c then [] :: splitBy separator rest
    else
      match splitBy separator rest with
      | [] => [[c]]
      | part :: more => (c :: part) :: more

/-- The parts of a list with one element between each two. -/
def joinWith (separator : α) : List (List α) → List α
  | [] => []
  | [part] => part
  | part :: rest => part ++ separator :: joinWith separator rest

/-- The first of several parts stands before the first separator. -/
theorem joinWith_cons_cons (separator : α) (part next : List α) (more : List (List α)) :
    joinWith separator (part :: next :: more) =
      part ++ separator :: joinWith separator (next :: more) := rfl

/-- There is always a part. -/
theorem splitBy_ne_nil (separator : α → Bool) (cs : List α) : splitBy separator cs ≠ [] := by
  induction cs with
  | nil => simp [splitBy]
  | cons c rest inductionHypothesis =>
    unfold splitBy
    split
    · simp
    · split <;> simp

/-- No part holds a separator. -/
theorem not_separator_of_mem_splitBy {separator : α → Bool} {cs part : List α}
    (isPart : part ∈ splitBy separator cs) {c : α} (inside : c ∈ part) : separator c = false := by
  induction cs generalizing part with
  | nil =>
    simp only [splitBy, List.mem_singleton] at isPart
    simp [isPart] at inside
  | cons head rest inductionHypothesis =>
    by_cases cut : separator head = true
    · simp only [splitBy, cut, if_true, List.mem_cons] at isPart
      rcases isPart with rfl | later
      · simp at inside
      · exact inductionHypothesis later inside
    · simp only [splitBy, cut, if_false, Bool.false_eq_true] at isPart
      cases parts : splitBy separator rest with
      | nil => exact absurd parts (splitBy_ne_nil separator rest)
      | cons first more =>
        rw [parts] at isPart inductionHypothesis
        simp only [List.mem_cons] at isPart
        rcases isPart with rfl | later
        · rcases List.mem_cons.1 inside with rfl | further
          · simpa using cut
          · exact inductionHypothesis List.mem_cons_self further
        · exact inductionHypothesis (List.mem_cons_of_mem _ later) inside

/-- Joining the parts gives the whole back. -/
theorem joinWith_splitBy [BEq α] [LawfulBEq α] (separator : α) (cs : List α) :
    joinWith separator (splitBy (· == separator) cs) = cs := by
  induction cs with
  | nil => rfl
  | cons c rest inductionHypothesis =>
    cases parts : splitBy (· == separator) rest with
    | nil => exact absurd parts (splitBy_ne_nil _ rest)
    | cons part more =>
      rw [parts] at inductionHypothesis
      by_cases cut : (c == separator) = true
      · have same : c = separator := by simpa using cut
        simp [splitBy, parts, same, joinWith, inductionHypothesis]
      · simp only [splitBy, cut, parts, Bool.false_eq_true, if_false]
        cases more with
        | nil => simpa [joinWith] using inductionHypothesis
        | cons next later => simpa [joinWith] using inductionHypothesis

/-- A part without separators before a separator is the first part. -/
theorem splitBy_append_cons {separator : α → Bool} {part : List α} {c : α}
    (whole : ∀ x ∈ part, separator x = false) (cut : separator c = true) (rest : List α) :
    splitBy separator (part ++ c :: rest) = part :: splitBy separator rest := by
  induction part with
  | nil => simp [splitBy, cut]
  | cons head tail inductionHypothesis =>
    have first : separator head = false := whole head List.mem_cons_self
    have others := inductionHypothesis fun x member => whole x (List.mem_cons_of_mem _ member)
    simp [splitBy, first, others]

/-- A list without separators is its only part. -/
theorem splitBy_of_forall {separator : α → Bool} {part : List α}
    (whole : ∀ x ∈ part, separator x = false) : splitBy separator part = [part] := by
  induction part with
  | nil => rfl
  | cons head tail inductionHypothesis =>
    have first : separator head = false := whole head List.mem_cons_self
    have others := inductionHypothesis fun x member => whole x (List.mem_cons_of_mem _ member)
    simp [splitBy, first, others]

/-- Parts that hold no separator are found again where they were joined. -/
theorem splitBy_joinWith [BEq α] [LawfulBEq α] {separator : α} {parts : List (List α)}
    (some : parts ≠ []) (whole : ∀ part ∈ parts, separator ∉ part) :
    splitBy (· == separator) (joinWith separator parts) = parts := by
  have apart {part : List α} (missing : separator ∉ part) : ∀ x ∈ part, (x == separator) = false :=
    fun x member => beq_eq_false_iff_ne.2 fun same => missing (same ▸ member)
  induction parts with
  | nil => exact absurd rfl some
  | cons part rest inductionHypothesis =>
    have first := apart (whole part List.mem_cons_self)
    have others := fun x member => whole x (List.mem_cons_of_mem _ member)
    cases rest with
    | nil => exact splitBy_of_forall first
    | cons next more =>
      rw [joinWith_cons_cons, splitBy_append_cons first (beq_self_eq_true separator),
        inductionHypothesis (List.cons_ne_nil next more) others]

end EngineGateway.Text
