import EngineGateway.Rest.Address

/-!
# Steps of a path

What resolving a path does to its steps. It keeps no step of one or two points, invents none, and
gives back a path that is resolved already. It never adds a slash, and it takes one away for every
step of points that it meets, so a path that is as long after it as before had no such step.
-/

namespace EngineGateway.Text

variable {α : Type}

/-- Cutting at a separator leaves the parts on both sides. -/
theorem splitBy_append_separator [BEq α] [LawfulBEq α] (separator : α) (left right : List α) :
    splitBy (· == separator) (left ++ separator :: right) =
      splitBy (· == separator) left ++ splitBy (· == separator) right := by
  induction left with
  | nil => simp [splitBy]
  | cons head tail inductionHypothesis =>
    rw [List.cons_append, splitBy, inductionHypothesis]
    by_cases first : (head == separator) = true
    · simp [splitBy, first]
    · cases parts : splitBy (· == separator) tail with
      | nil => exact absurd parts (splitBy_ne_nil _ tail)
      | cons part more => simp [splitBy, first, parts]

/-- What is in a part is in the whole. -/
theorem mem_of_mem_splitBy {separator : α → Bool} {cs part : List α} {c : α}
    (isPart : part ∈ splitBy separator cs) (inside : c ∈ part) : c ∈ cs := by
  induction cs generalizing part with
  | nil =>
    rw [splitBy, List.mem_singleton] at isPart
    simp [isPart] at inside
  | cons head rest inductionHypothesis =>
    by_cases cut : separator head = true
    · simp only [splitBy, cut, if_true, List.mem_cons] at isPart
      rcases isPart with rfl | later
      · simp at inside
      · exact List.mem_cons_of_mem _ (inductionHypothesis later inside)
    · simp only [splitBy, cut, if_false, Bool.false_eq_true] at isPart
      cases parts : splitBy separator rest with
      | nil => exact absurd parts (splitBy_ne_nil separator rest)
      | cons first more =>
        rw [parts] at isPart inductionHypothesis
        rcases List.mem_cons.1 isPart with rfl | later
        · rcases List.mem_cons.1 inside with rfl | further
          · exact List.mem_cons_self
          · exact List.mem_cons_of_mem _ (inductionHypothesis List.mem_cons_self further)
        · exact List.mem_cons_of_mem _
            (inductionHypothesis (List.mem_cons_of_mem _ later) inside)

/-- What is in the whole is in a part, or separates. -/
theorem mem_joinWith {separator c : α} {parts : List (List α)}
    (inside : c ∈ joinWith separator parts) :
    c = separator ∨ ∃ part ∈ parts, c ∈ part := by
  induction parts with
  | nil => simp [joinWith] at inside
  | cons part rest inductionHypothesis =>
    cases rest with
    | nil => exact .inr ⟨part, List.mem_cons_self, inside⟩
    | cons next more =>
      rw [joinWith_cons_cons, List.mem_append, List.mem_cons] at inside
      rcases inside with first | rfl | later
      · exact .inr ⟨part, List.mem_cons_self, first⟩
      · exact .inl rfl
      · rcases inductionHypothesis later with same | ⟨other, among, within⟩
        · exact .inl same
        · exact .inr ⟨other, List.mem_cons_of_mem _ among, within⟩

/-- There is one part more than there are separators. -/
theorem length_splitBy [BEq α] [LawfulBEq α] (separator : α) (cs : List α) :
    (splitBy (· == separator) cs).length = cs.count separator + 1 := by
  induction cs with
  | nil => rfl
  | cons head rest inductionHypothesis =>
    by_cases cut : (head == separator) = true
    · simp [splitBy, cut, inductionHypothesis, List.count_cons]
    · cases parts : splitBy (· == separator) rest with
      | nil => exact absurd parts (splitBy_ne_nil _ rest)
      | cons part more =>
        rw [parts] at inductionHypothesis
        simpa [splitBy, cut, parts, List.count_cons] using inductionHypothesis

/-- A path that ends in a separator ends in an empty part. -/
theorem joinWith_concat_nil (separator : α) {parts : List (List α)} (present : parts ≠ []) :
    joinWith separator (parts ++ [[]]) = joinWith separator parts ++ [separator] := by
  induction parts with
  | nil => exact absurd rfl present
  | cons part rest inductionHypothesis =>
    cases rest with
    | nil => simp [joinWith]
    | cons next more =>
      have tail := inductionHypothesis (List.cons_ne_nil next more)
      rw [List.cons_append, List.cons_append, joinWith_cons_cons, ← List.cons_append, tail,
        joinWith_cons_cons, List.append_assoc, List.cons_append]

end EngineGateway.Text

namespace EngineGateway.Rest

open Text

/-- A step of one or two points. -/
def IsDots (step : List Point) : Prop := step = [.char '.'] ∨ step = [.char '.', .char '.']

instance (step : List Point) : Decidable (IsDots step) := inferInstanceAs (Decidable (_ ∨ _))

/-- A path without steps of one or two points. -/
def Settled (path : List Point) : Prop := ∀ step ∈ splitBy (· == .char '/') path, ¬IsDots step

/-- What is kept when a step of two points is met is what was kept, perhaps without its latest
step. -/
theorem back_sublist (kept : List (List Point)) :
    (if kept == [[]] then kept else kept.tail).Sublist kept := by
  split
  · exact List.Sublist.refl kept
  · exact List.tail_sublist kept

/-- A step of points keeps no more than was kept before. -/
theorem resolveSteps_dots {step : List Point} (dots : IsDots step) (kept rest : List (List Point)) :
    ∃ fewer, fewer.Sublist kept ∧ resolveSteps kept (step :: rest) = resolveSteps fewer rest := by
  rcases dots with rfl | rfl
  · exact ⟨kept, List.Sublist.refl kept, rfl⟩
  · exact ⟨_, back_sublist kept, rfl⟩

/-- Any other step is kept. -/
theorem resolveSteps_plain {step : List Point} (plain : ¬IsDots step)
    (kept rest : List (List Point)) :
    resolveSteps kept (step :: rest) = resolveSteps (step :: kept) rest := by
  rw [resolveSteps]
  · rintro rfl
    exact plain (.inl rfl)
  · rintro rfl
    exact plain (.inr rfl)

/-- What is kept in the end was kept before, or is a step that is none of points. -/
theorem mem_resolveSteps {kept steps : List (List Point)} {step : List Point}
    (member : step ∈ resolveSteps kept steps) : step ∈ kept ∨ step ∈ steps ∧ ¬IsDots step := by
  induction steps generalizing kept with
  | nil => exact .inl (List.mem_reverse.1 member)
  | cons first rest inductionHypothesis =>
    by_cases dots : IsDots first
    · obtain ⟨fewer, sub, same⟩ := resolveSteps_dots dots kept rest
      rcases inductionHypothesis (same ▸ member) with before | ⟨later, plain⟩
      · exact .inl (sub.subset before)
      · exact .inr ⟨List.mem_cons_of_mem _ later, plain⟩
    · rw [resolveSteps_plain dots] at member
      rcases inductionHypothesis member with before | ⟨later, plain⟩
      · rcases List.mem_cons.1 before with rfl | earlier
        · exact .inr ⟨List.mem_cons_self, dots⟩
        · exact .inl earlier
      · exact .inr ⟨List.mem_cons_of_mem _ later, plain⟩

/-- Resolving adds no step. -/
theorem length_resolveSteps_le (kept steps : List (List Point)) :
    (resolveSteps kept steps).length ≤ kept.length + steps.length := by
  induction steps generalizing kept with
  | nil => simp [resolveSteps]
  | cons first rest inductionHypothesis =>
    by_cases dots : IsDots first
    · obtain ⟨fewer, sub, same⟩ := resolveSteps_dots dots kept rest
      have bound := inductionHypothesis fewer
      have short := sub.length_le
      rw [same, List.length_cons]
      omega
    · have bound := inductionHypothesis (first :: kept)
      rw [resolveSteps_plain dots, List.length_cons]
      simp only [List.length_cons] at bound
      omega

/-- Resolving takes steps away where there is a step of points. -/
theorem length_resolveSteps_lt {steps : List (List Point)} {step : List Point}
    (member : step ∈ steps) (dots : IsDots step) (kept : List (List Point)) :
    (resolveSteps kept steps).length < kept.length + steps.length := by
  induction steps generalizing kept with
  | nil => simp at member
  | cons first rest inductionHypothesis =>
    by_cases points : IsDots first
    · obtain ⟨fewer, sub, same⟩ := resolveSteps_dots points kept rest
      have bound := length_resolveSteps_le fewer rest
      have short := sub.length_le
      rw [same, List.length_cons]
      omega
    · have later : step ∈ rest := by
        rcases List.mem_cons.1 member with rfl | later
        · exact absurd dots points
        · exact later
      have bound := inductionHypothesis later (first :: kept)
      rw [resolveSteps_plain points, List.length_cons]
      simp only [List.length_cons] at bound
      omega

/-- A last step that is none of points stays the last one. -/
theorem resolveSteps_concat {last : List Point} (plain : ¬IsDots last)
    (kept steps : List (List Point)) :
    resolveSteps kept (steps ++ [last]) = resolveSteps kept steps ++ [last] := by
  induction steps generalizing kept with
  | nil =>
    rw [List.nil_append, resolveSteps_plain plain]
    simp [resolveSteps]
  | cons first rest inductionHypothesis =>
    rw [List.cons_append]
    by_cases dots : IsDots first
    · rcases dots with rfl | rfl <;> exact inductionHypothesis _
    · rw [resolveSteps_plain dots, resolveSteps_plain dots, inductionHypothesis]

/-- No step of a resolved path holds a slash. -/
theorem not_mem_slash_of_mem_resolveSteps {path step : List Point}
    (member : step ∈ resolveSteps [] (splitBy (· == .char '/') path)) : .char '/' ∉ step := by
  intro inside
  rcases mem_resolveSteps member with before | ⟨isStep, _⟩
  · simp at before
  · have none := not_separator_of_mem_splitBy isStep inside
    simp at none

/-- The steps of a resolved path are the steps that were kept. -/
theorem splitBy_resolve {path : List Point} (some : resolve path ≠ []) :
    splitBy (· == .char '/') (resolve path) =
      resolveSteps [] (splitBy (· == .char '/') path) := by
  refine splitBy_joinWith ?_ fun step member => not_mem_slash_of_mem_resolveSteps member
  intro none
  exact some (by rw [resolve, none, joinWith])

/-- A resolved path is resolved already. -/
theorem settled_resolve (path : List Point) : Settled (resolve path) := by
  by_cases none : resolve path = []
  · rw [none]
    intro step member
    rw [splitBy, List.mem_singleton] at member
    subst member
    simp [IsDots]
  · intro step member
    rw [splitBy_resolve none] at member
    rcases mem_resolveSteps member with before | ⟨_, plain⟩
    · simp at before
    · exact plain

/-- A settled path stays as it is. -/
theorem Settled.resolve_eq {path : List Point} (settled : Settled path) : resolve path = path :=
  resolve_of_forall fun step member => not_or.1 (settled step member)

/-- A path in front of another, with a slash between them, is settled with it. -/
theorem settled_append_slash {left right : List Point} :
    Settled (left ++ .char '/' :: right) ↔ Settled left ∧ Settled right := by
  simp only [Settled, splitBy_append_separator, List.mem_append, or_imp, forall_and]

/-- Nothing comes into a path that is resolved but slashes. -/
theorem mem_resolve {path : List Point} {point : Point} (member : point ∈ resolve path) :
    point = .char '/' ∨ point ∈ path := by
  rcases mem_joinWith member with slash | ⟨step, isStep, within⟩
  · exact .inl slash
  · rcases mem_resolveSteps isStep with before | ⟨original, _⟩
    · simp at before
    · exact .inr (mem_of_mem_splitBy original within)

/-- A path that ends in a slash still does when it is resolved, unless nothing is left of it. -/
theorem resolve_concat_slash (path : List Point) :
    resolve (path ++ [.char '/']) = [] ∨
      ∃ front, resolve (path ++ [.char '/']) = front ++ [.char '/'] := by
  have plain : ¬IsDots [] := by simp [IsDots]
  have steps : splitBy (· == .char '/') (path ++ [.char '/']) =
      splitBy (· == .char '/') path ++ [[]] := splitBy_append_separator _ _ _
  rw [resolve, steps, resolveSteps_concat plain]
  by_cases none : resolveSteps [] (splitBy (· == .char '/') path) = []
  · rw [none]
    exact .inl rfl
  · exact .inr ⟨_, joinWith_concat_nil _ none⟩

/-- The steps of a row of characters, as points. -/
theorem splitBy_pointsOf (cs : List Char) :
    splitBy (· == .char '/') (pointsOf cs) = (splitBy (· == '/') cs).map pointsOf := by
  induction cs with
  | nil => rfl
  | cons c rest inductionHypothesis =>
    have head : (Point.char c == .char '/') = (c == '/') := by
      rw [Bool.eq_iff_iff, beq_iff_eq, beq_iff_eq, Point.char.injEq]
    change splitBy (· == .char '/') (.char c :: pointsOf rest) = _
    rw [splitBy, splitBy, head, inductionHypothesis]
    by_cases cut : (c == '/') = true
    · simp [cut, pointsOf]
    · cases parts : splitBy (· == '/') rest with
      | nil => exact absurd parts (splitBy_ne_nil _ rest)
      | cons part more => simp [cut, pointsOf]

/-- Resolving adds no slash. -/
theorem count_resolve_le (path : List Point) :
    (resolve path).count (.char '/') ≤ path.count (.char '/') := by
  by_cases none : resolve path = []
  · simp [none]
  · have steps := congrArg List.length (splitBy_resolve none)
    have bound := length_resolveSteps_le [] (splitBy (· == .char '/') path)
    rw [length_splitBy] at steps bound
    simp only [List.length_nil] at bound
    omega

/-- A path that is not settled loses slashes, unless nothing is left of it. -/
theorem count_resolve_lt {path : List Point} (unsettled : ¬Settled path)
    (some : resolve path ≠ []) :
    (resolve path).count (.char '/') < path.count (.char '/') := by
  have steps := congrArg List.length (splitBy_resolve some)
  obtain ⟨step, member, dots⟩ : ∃ step ∈ splitBy (· == .char '/') path, IsDots step := by
    simpa [Settled] using unsettled
  have bound := length_resolveSteps_lt member dots []
  rw [length_splitBy] at steps bound
  simp only [List.length_nil] at bound
  omega

end EngineGateway.Rest
