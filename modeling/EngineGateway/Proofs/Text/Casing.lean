import EngineGateway.Proofs.Text.Trimming
import EngineGateway.Text.Lower

/-!
# Words in any case

A text in lower case is a word of plain letters exactly if the text is that word, each letter of it
small or capital. Beyond ASCII a single character has a single ASCII letter for its lower case, the
Kelvin sign, so `k` is no plain letter.
-/

namespace EngineGateway.Text

/-- A small ASCII letter that is the lower case of nothing but ASCII letters. -/
def isPlain (c : Char) : Bool := 0x61 ≤ c.toNat && c.toNat ≤ 0x7A && c != 'k'

/-- Where the lower case is a plain letter, an ASCII letter stood before. -/
theorem isAscii_of_isPlain_toLower {c : Char} (plain : isPlain c.toLower = true) :
    0x41 ≤ c.toNat ∧ c.toNat ≤ 0x7A := by
  unfold Char.toLower at plain
  split at plain
  case isTrue capital =>
    obtain ⟨low, high⟩ := capital
    simp only [ge_iff_le, UInt32.le_iff_toNat_le] at low high
    have first : 65 ≤ c.toNat := low
    have last : c.toNat ≤ 90 := high
    omega
  case isFalse =>
    simp only [isPlain, Bool.and_eq_true, decide_eq_true_eq] at plain
    omega

/-- The lower case of a single ASCII character is a single one. -/
theorem lowerChar_of_ascii {c : Char} (ascii : c.toNat < 0x80) : lowerChar c = [c.toLower] := by
  simp [lowerChar, ascii]

/-- No run of characters beyond ASCII leads into ASCII, but for the Kelvin sign. -/
theorem runs_stay_beyond_ascii : (lowerRuns.all fun run => decide (run.last < 0x80) ||
    (decide (0x80 ≤ run.first) && decide ((0x80 : Int) ≤ run.first + run.distance)) ||
    (run.first == 0x212A && run.last == 0x212A && run.distance == -8383)) = true := by
  decide

/-- A number that is the code point of a plain letter lies in ASCII and is not that of `k`. -/
theorem bounds_of_isPlain_ofNat {n : Nat} (plain : isPlain (Char.ofNat n) = true) :
    n < 0x80 ∧ n ≠ 0x6B := by
  by_cases valid : n.isValidChar
  · have code : (Char.ofNat n).toNat = n := congrArg Char.toNat (dif_pos valid)
    simp only [isPlain, code, Bool.and_eq_true, decide_eq_true_eq, bne_iff_ne] at plain
    refine ⟨by omega, ?_⟩
    rintro rfl
    exact plain.2 rfl
  · have invalid : Char.ofNat n = '\x00' := dif_neg valid
    rw [invalid] at plain
    exact absurd plain (by decide)

/-- A lower case of plain letters only is that of an ASCII letter. -/
theorem lowerChar_of_plain {c : Char} (plain : ∀ d ∈ lowerChar c, isPlain d = true) :
    lowerChar c = [c.toLower] := by
  by_cases ascii : c.toNat < 0x80
  · exact lowerChar_of_ascii ascii
  exfalso
  unfold lowerChar at plain
  simp only [ascii, if_false] at plain
  split at plain
  case isTrue => exact absurd (plain (Char.ofNat 0x307) (by simp)) (by decide)
  case isFalse =>
    split at plain
    case h_1 run found =>
      obtain ⟨small, noKelvin⟩ := bounds_of_isPlain_ofNat (plain _ List.mem_cons_self)
      have within := List.find?_some found
      have listed := List.all_eq_true.1 runs_stay_beyond_ascii run (List.mem_of_find?_eq_some found)
      simp only [Bool.and_eq_true, Bool.or_eq_true, decide_eq_true_eq, beq_iff_eq] at within listed
      omega
    case h_2 =>
      have letter := plain c List.mem_cons_self
      simp only [isPlain, Bool.and_eq_true, decide_eq_true_eq] at letter
      omega

/-- ASCII characters are put in lower case one by one. -/
theorem lowerAfter_pointsOf {word : List Char} (ascii : ∀ c ∈ word, c.toNat < 0x80)
    (before : List Point) :
    lowerAfter before (pointsOf word) = pointsOf (word.map Char.toLower) := by
  induction word generalizing before with
  | nil => rfl
  | cons c rest inductionHypothesis =>
    obtain ⟨first, others⟩ := List.forall_mem_cons.1 ascii
    have noSigma : (Point.char c).passes (fun d => d.toNat == 0x3A3) = false := by
      simp only [Point.passes, Point.char?, Option.any_some, beq_eq_false_iff_ne]
      omega
    change lowerAfter before (.char c :: pointsOf rest) = _
    unfold lowerAfter
    simp only [noSigma, Bool.false_eq_true, if_false, inductionHypothesis others, Point.mapChar,
      lowerChar_of_ascii first]
    rfl

/-- Points whose lower case are plain letters are ASCII letters, one for each. -/
theorem exists_word_of_lowerAfter {points before : List Point} {name : List Char}
    (plain : ∀ d ∈ name, isPlain d = true) (lowered : lowerAfter before points = pointsOf name) :
    ∃ word, points = pointsOf word ∧ word.map Char.toLower = name := by
  induction points generalizing before name with
  | nil =>
    obtain rfl : name = [] := List.map_eq_nil_iff.1 lowered.symm
    exact ⟨[], rfl, rfl⟩
  | cons point rest inductionHypothesis =>
    unfold lowerAfter at lowered
    obtain ⟨here, later, rfl, first, others⟩ := List.map_eq_append_iff.1 lowered.symm
    obtain ⟨plainHere, plainLater⟩ := List.forall_mem_append.1 plain
    obtain ⟨word, rfl, spelled⟩ := inductionHypothesis plainLater others.symm
    cases point with
    | half unit =>
      -- a half stays a half, and no character is one
      cases here with
      | nil => cases first
      | cons c more => cases first
    | char c =>
      split at first
      case isTrue =>
        -- neither form of sigma is a plain letter
        cases here with
        | nil => cases first
        | cons d more =>
          obtain rfl := Point.char.inj (List.cons.inj first).1
          have small := (bounds_of_isPlain_ofNat (plainHere _ List.mem_cons_self)).1
          split at small <;> omega
      case isFalse =>
        have same : here = lowerChar c :=
          (List.map_inj_right fun _ _ => Point.char.inj).1 first
        subst same
        rw [lowerChar_of_plain plainHere, ← spelled]
        exact ⟨c :: word, rfl, rfl⟩

/-- A text is a word in any case, with blanks around it. -/
def Spells (text : Text) (name : List Char) : Prop :=
  ∃ before word after, text = ofChars (before ++ word ++ after) ∧ word.map Char.toLower = name ∧
    (∀ c ∈ before, isBlank c = true) ∧ ∀ c ∈ after, isBlank c = true

/-- Trimmed and in lower case a text is a word of plain letters exactly if it spells that word. -/
theorem lower_trim_eq_iff {name : List Char} (lettered : name ≠ [])
    (plain : ∀ d ∈ name, isPlain d = true) (text : Text) :
    text.trim.lower = ofChars name ↔ text.Spells name := by
  constructor
  · intro lowered
    obtain ⟨word, points, spelled⟩ :=
      exists_word_of_lowerAfter plain (congrArg Text.points lowered)
    have left : text.trim.chars? = some word := by
      rw [chars?, points, charsOf?_pointsOf]
    obtain ⟨before, after, whole, front, back⟩ := exists_around_trim left
    exact ⟨before, word, after, whole, spelled, front, back⟩
  · rintro ⟨before, word, after, rfl, rfl, front, back⟩
    have ascii (c : Char) (member : c ∈ word) : 0x41 ≤ c.toNat ∧ c.toNat ≤ 0x7A :=
      isAscii_of_isPlain_toLower (plain _ (List.mem_map_of_mem member))
    have kept (c : Char) (member : c ∈ word) : isBlank c = false := by
      obtain ⟨low, high⟩ := ascii c member
      exact isBlank_of_visible (by omega) (by omega)
    have small (c : Char) (member : c ∈ word) : c.toNat < 0x80 := by
      obtain ⟨-, high⟩ := ascii c member
      omega
    have body : word ≠ [] := by
      rintro rfl
      exact lettered rfl
    rw [trim_ofChars_append body front kept back]
    exact congrArg Text.mk (lowerAfter_pointsOf small [])

end EngineGateway.Text
