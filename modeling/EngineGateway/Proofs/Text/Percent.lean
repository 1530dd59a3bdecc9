import EngineGateway.Proofs.Text.Octets
import EngineGateway.Text.Percent
import Mathlib.Tactic.ByContra

/-!
# Percent-encoding read back

Whatever may stand for itself beside the unreserved characters, a text reads back from its
percent-encoded form, as long as the percent sign is always escaped. So two texts with one form are
one text. The form holds nothing but what may stand for itself, percent signs and digits.
-/

namespace EngineGateway.Text.Percent

/-- An escaped octet is that octet. -/
theorem octets_escape (octet : UInt8) (rest : List Char) :
    octets (escape octet ++ rest) = octet :: octets rest := by
  have small := octet.toNat_lt
  have high := hexValue?_hexDigitUpper (n := octet.toNat / 16) (by omega)
  have low := hexValue?_hexDigitUpper (n := octet.toNat % 16) (by omega)
  have whole : 16 * (octet.toNat / 16) + octet.toNat % 16 = octet.toNat := Nat.div_add_mod _ _
  simp only [escape, List.cons_append, List.nil_append, octets, high, low, whole,
    UInt8.ofNat_toNat]

/-- A row of escaped octets is that row. -/
theorem octets_flatMap_escape (row : List UInt8) (rest : List Char) :
    octets (row.flatMap escape ++ rest) = row ++ octets rest := by
  induction row with
  | nil => rfl
  | cons octet more inductionHypothesis =>
    rw [List.flatMap_cons, List.append_assoc, octets_escape, inductionHypothesis, List.cons_append]

/-- A character other than the percent sign stands for its octets. -/
theorem octets_cons_of_ne {c : Char} (other : c ≠ '%') (rest : List Char) :
    octets (c :: rest) = Octets.encodeChar c ++ octets rest := by
  rw [octets]
  rintro high low more rfl
  exact absurd rfl other

/-- What was encoded stands for the octets of the text, if every percent sign was escaped. -/
theorem octets_encodeChars {keep : Char → Bool} (escaped : keep '%' = false) (cs : List Char) :
    octets (encodeChars keep cs) = Octets.encode cs := by
  induction cs with
  | nil => rfl
  | cons c rest inductionHypothesis =>
    rw [encodeChars, List.flatMap_cons, Octets.encode, List.flatMap_cons]
    change octets (encodeChar keep c ++ encodeChars keep rest) =
      Octets.encodeChar c ++ Octets.encode rest
    cases kept : keep c with
    | true =>
      have other : c ≠ '%' := by
        rintro rfl
        simp [escaped] at kept
      rw [encodeChar_of_keep kept, List.singleton_append, octets_cons_of_ne other,
        inductionHypothesis]
    | false =>
      have whole : encodeChar keep c = (Octets.encodeChar c).flatMap escape := by
        simp [encodeChar, kept]
      rw [whole, octets_flatMap_escape, inductionHypothesis]

/-- A text reads back from its percent-encoded form. -/
theorem decode?_encodeChars {keep : Char → Bool} (escaped : keep '%' = false) (cs : List Char) :
    decode? (String.ofList (encodeChars keep cs)) = some (String.ofList cs) := by
  rw [decode?, String.toList_ofList, octets_encodeChars escaped, Octets.decode?_encode,
    Option.map_some]

/-- Characters that all stand for themselves are their own form. -/
theorem encodeChars_of_forall {keep : Char → Bool} {cs : List Char}
    (kept : ∀ c ∈ cs, keep c = true) : encodeChars keep cs = cs := by
  induction cs with
  | nil => rfl
  | cons c rest inductionHypothesis =>
    have first : encodeChar keep c = [c] := encodeChar_of_keep (kept c List.mem_cons_self)
    rw [encodeChars, List.flatMap_cons, first, List.singleton_append]
    exact congrArg (c :: ·) (inductionHypothesis fun x member =>
      kept x (List.mem_cons_of_mem _ member))

/-- A character of an escaped octet is a percent sign or a letter or digit. -/
theorem mem_escape {c : Char} {octet : UInt8} (member : c ∈ escape octet) :
    c = '%' ∨ c.isAlphanum = true := by
  have digit (n : Nat) (small : n < 16) : (hexDigitUpper n).isAlphanum = true := by
    revert n
    decide
  have small := octet.toNat_lt
  simp only [escape, List.mem_cons, List.not_mem_nil, or_false] at member
  rcases member with rfl | rfl | rfl
  · exact .inl rfl
  · exact .inr (digit _ (by omega))
  · exact .inr (digit _ (by omega))

/-- A character of a form is one of the text that stands for itself, or a percent sign, or a letter
or digit. -/
theorem mem_encodeChars {keep : Char → Bool} {c : Char} {cs : List Char}
    (member : c ∈ encodeChars keep cs) :
    c ∈ cs ∧ keep c = true ∨ c = '%' ∨ c.isAlphanum = true := by
  obtain ⟨origin, among, inside⟩ := List.mem_flatMap.1 member
  unfold encodeChar at inside
  split at inside
  case isTrue kept =>
    rw [List.mem_singleton.1 inside]
    exact .inl ⟨among, kept⟩
  case isFalse =>
    obtain ⟨octet, _, written⟩ := List.mem_flatMap.1 inside
    exact .inr (mem_escape written)

/-- A form without percent signs is the text itself. -/
theorem encodeChars_of_not_mem {keep : Char → Bool} {cs : List Char}
    (plain : '%' ∉ encodeChars keep cs) : encodeChars keep cs = cs := by
  refine encodeChars_of_forall fun c member => ?_
  by_contra escaped
  have whole : encodeChar keep c = (Octets.encodeChar c).flatMap escape := by
    simp [encodeChar, escaped]
  obtain ⟨b, more, octets, _⟩ := Octets.firstChar_encodeChar c []
  refine plain (List.mem_flatMap.2 ⟨c, member, ?_⟩)
  rw [whole, octets, List.flatMap_cons, escape]
  exact List.mem_cons_self

/-- The form of parts with kept separators between them is that of the parts. -/
theorem encodeChars_joinWith {keep : Char → Bool} {separator : Char} (kept : keep separator = true)
    (parts : List (List Char)) :
    encodeChars keep (joinWith separator parts) =
      joinWith separator (parts.map (encodeChars keep)) := by
  induction parts with
  | nil => rfl
  | cons part rest inductionHypothesis =>
    cases rest with
    | nil => rfl
    | cons next more =>
      have behind (cs : List Char) :
          encodeChars keep (separator :: cs) = separator :: encodeChars keep cs := by
        rw [encodeChars, List.flatMap_cons, encodeChar_of_keep kept]
        rfl
      rw [joinWith_cons_cons, encodeChars_append, behind, inductionHypothesis]
      rfl

/-- Points that have a form are characters. -/
theorem eq_pointsOf_of_encodePoints? {keep : Char → Bool} {points : List Point} {form : List Char}
    (written : encodePoints? keep points = some form) : ∃ cs, points = pointsOf cs := by
  obtain ⟨parts, each, flat⟩ := Option.map_eq_some_iff.1 written
  clear written flat
  induction points generalizing parts with
  | nil => exact ⟨[], rfl⟩
  | cons point rest inductionHypothesis =>
    cases point with
    | half unit => simp [encodePoint?, Point.char?] at each
    | char c =>
      simp only [List.mapM_cons, Option.bind_eq_bind, Option.bind_eq_some_iff] at each
      obtain ⟨_, _, others, more, _⟩ := each
      obtain ⟨cs, rfl⟩ := inductionHypothesis _ more
      exact ⟨c :: cs, rfl⟩

/-- A text that has a form is a string. -/
theorem encode?_eq_some {safe : List Char} {text : Text} {written : String}
    (encoded : encode? safe text = some written) :
    ∃ s : String, text = Text.ofString s ∧ written =
      String.ofList (encodeChars (fun c => isUnreserved c || safe.contains c) s.toList) := by
  obtain ⟨form, formed, rfl⟩ := Option.map_eq_some_iff.1 encoded
  obtain ⟨cs, characters⟩ := eq_pointsOf_of_encodePoints? formed
  rw [characters, encodePoints?_pointsOf, Option.some.injEq] at formed
  refine ⟨String.ofList cs, ?_, by rw [String.toList_ofList, formed]⟩
  obtain ⟨points⟩ := text
  rw [Text.ofString, String.toList_ofList, Text.ofChars]
  exact congrArg Text.mk characters

end EngineGateway.Text.Percent
