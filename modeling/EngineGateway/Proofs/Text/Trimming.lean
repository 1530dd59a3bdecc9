import EngineGateway.Text.Blank
import Mathlib.Data.List.DropRight

/-!
# Texts between blanks

Trimming takes a row of blanks off either end of a text. What stands between two such rows is what
is left, as long as no blank stands in it, and every text is what is left of it between two such
rows.
-/

namespace EngineGateway.Text

section

variable {α : Type} {test : α → Bool} {row rest before body after : List α}

/-- A row of what passes a test, before something that does not, is what is taken. -/
theorem takeWhile_append_of_stop (passes : ∀ x ∈ row, test x = true)
    (stops : ∀ x ∈ rest.head?, test x = false) : (row ++ rest).takeWhile test = row := by
  rw [List.takeWhile_append_of_pos passes]
  cases rest with
  | nil => simp
  | cons x more => simp [stops x rfl]

/-- And what follows it is what is left. -/
theorem dropWhile_append_of_stop (passes : ∀ x ∈ row, test x = true)
    (stops : ∀ x ∈ rest.head?, test x = false) : (row ++ rest).dropWhile test = rest := by
  rw [List.dropWhile_append_of_pos passes]
  cases rest with
  | nil => rfl
  | cons x more => simp [stops x rfl]

/-- A list is what is left of it between two rows of what is dropped. -/
theorem exists_around_strip (drop : α → Bool) (list : List α) :
    ∃ before after, list = before ++ strip drop list ++ after ∧
      (∀ x ∈ before, drop x = true) ∧ ∀ x ∈ after, drop x = true := by
  refine ⟨list.takeWhile drop, (list.dropWhile drop).rtakeWhile drop, ?_,
    fun _ => List.mem_takeWhile_imp, fun _ => List.mem_rtakeWhile_imp⟩
  have left : strip drop list = (list.dropWhile drop).rdropWhile drop := rfl
  rw [left, List.append_assoc, List.rdropWhile_append_rtakeWhile, List.takeWhile_append_dropWhile]

/-- Between two rows of what is dropped, something that holds nothing to drop is left. -/
theorem strip_append_of_kept {drop : α → Bool} (some : body ≠ [])
    (front : ∀ x ∈ before, drop x = true) (kept : ∀ x ∈ body, drop x = false)
    (back : ∀ x ∈ after, drop x = true) : strip drop (before ++ body ++ after) = body := by
  have begins : (before ++ body ++ after).dropWhile drop = body ++ after := by
    rw [List.append_assoc]
    refine dropWhile_append_of_stop front fun x first => kept x ?_
    rw [List.head?_append_of_ne_nil _ some] at first
    exact List.mem_of_mem_head? first
  have ends : (after.reverse ++ body.reverse).dropWhile drop = body.reverse :=
    dropWhile_append_of_stop (fun x member => back x (List.mem_reverse.1 member))
      fun x first => kept x (List.mem_reverse.1 (List.mem_of_mem_head? first))
  rw [strip, begins, List.reverse_append, ends, List.reverse_reverse]

end

/-- No ASCII character that shows is a blank. -/
theorem isBlank_of_visible {c : Char} (low : 0x20 < c.toNat) (high : c.toNat < 0x7F) :
    isBlank c = false := by
  refine Bool.eq_false_iff.2 fun blank => ?_
  simp only [isBlank, isSpace, Bool.or_eq_true, Bool.and_eq_true, decide_eq_true_eq,
    beq_iff_eq] at blank
  omega

/-- Points that pass a test of characters are characters that do. -/
theorem exists_pointsOf_of_passes {test : Char → Bool} {points : List Point}
    (pass : ∀ point ∈ points, point.passes test = true) :
    ∃ cs, points = pointsOf cs ∧ ∀ c ∈ cs, test c = true := by
  induction points with
  | nil => exact ⟨[], rfl, by simp⟩
  | cons point rest inductionHypothesis =>
    obtain ⟨cs, rfl, others⟩ := inductionHypothesis fun p member =>
      pass p (List.mem_cons_of_mem _ member)
    have first := pass point List.mem_cons_self
    cases point with
    | half unit => exact absurd first Bool.false_ne_true
    | char c => exact ⟨c :: cs, rfl, List.forall_mem_cons.2 ⟨first, others⟩⟩

/-- Characters between two rows of blanks are what is left of them when they are trimmed. -/
theorem trim_ofChars_append {before body after : List Char} (some : body ≠ [])
    (front : ∀ c ∈ before, isBlank c = true) (kept : ∀ c ∈ body, isBlank c = false)
    (back : ∀ c ∈ after, isBlank c = true) :
    (ofChars (before ++ body ++ after)).trim = ofChars body := by
  have passes {cs : List Char} {verdict : Bool} (all : ∀ c ∈ cs, isBlank c = verdict) :
      ∀ point ∈ pointsOf cs, point.passes isBlank = verdict := List.forall_mem_map.2 all
  have rows : pointsOf (before ++ body ++ after) = pointsOf before ++ pointsOf body ++
      pointsOf after := by simp [pointsOf]
  simp only [trim, ofChars, rows, strip_append_of_kept (by simpa [pointsOf] using some)
    (passes front) (passes kept) (passes back)]

/-- A text of which characters are left when it is trimmed has them between two rows of blanks. -/
theorem exists_around_trim {text : Text} {body : List Char} (left : text.trim.chars? = some body) :
    ∃ before after, text = ofChars (before ++ body ++ after) ∧
      (∀ c ∈ before, isBlank c = true) ∧ ∀ c ∈ after, isBlank c = true := by
  obtain ⟨points⟩ := text
  obtain ⟨front, back, whole, blankFront, blankBack⟩ :=
    exists_around_strip (Point.passes isBlank) points
  obtain ⟨before, rfl, blankBefore⟩ := exists_pointsOf_of_passes blankFront
  obtain ⟨after, rfl, blankAfter⟩ := exists_pointsOf_of_passes blankBack
  refine ⟨before, after, ?_, blankBefore, blankAfter⟩
  have kept : strip (Point.passes isBlank) points = pointsOf body := eq_pointsOf_of_charsOf? left
  rw [kept] at whole
  rw [whole]
  simp [ofChars, pointsOf]

end EngineGateway.Text
