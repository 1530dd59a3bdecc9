import EngineGateway.Text.Basic
import EngineGateway.Text.CharacterSet
import EngineGateway.Text.Octets

/-!
# Percent-encoding

A text becomes a part of a URL by writing each octet of its UTF-8 form as `%` and two upper-case
digits, except for the characters that stand for themselves: the unreserved ones and those that the
place allows besides. `decode?` undoes this. A text with half a pair in it has no such form.
-/

namespace EngineGateway.Text.Percent

/-- Characters that need no encoding anywhere in a URL. -/
def isUnreserved (c : Char) : Bool :=
  c.isAlphanum || c == '-' || c == '.' || c == '_' || c == '~'

/-- An octet as `%` and two digits. -/
def escape (octet : UInt8) : List Char :=
  ['%', hexDigitUpper (octet.toNat / 16), hexDigitUpper (octet.toNat % 16)]

/-- A character, escaped unless `keep` lets it stand. -/
def encodeChar (keep : Char → Bool) (c : Char) : List Char :=
  if keep c then [c] else (Octets.encodeChar c).flatMap escape

/-- A list of characters, each escaped unless `keep` lets it stand. -/
def encodeChars (keep : Char → Bool) (cs : List Char) : List Char := cs.flatMap (encodeChar keep)

/-- A point, escaped unless `keep` lets it stand; a half has no octets to be escaped. -/
def encodePoint? (keep : Char → Bool) (point : Point) : Option (List Char) :=
  point.char?.map (encodeChar keep)

/-- A row of points, each escaped unless `keep` lets it stand. -/
def encodePoints? (keep : Char → Bool) (points : List Point) : Option (List Char) :=
  (points.mapM (encodePoint? keep)).map List.flatten

/-- A text as one segment of a path. Besides the unreserved characters those of `safe` stand for
themselves; a slash does not unless `safe` holds it, so the text cannot leave its segment. -/
def encode? (safe : List Char) (text : Text) : Option String :=
  (encodePoints? (fun c => isUnreserved c || safe.contains c) text.points).map String.ofList

/-- The octets that a percent-encoded text denotes. A `%` without two digits stands for itself. -/
def octets : List Char → List UInt8
  | [] => []
  | '%' :: high :: low :: rest =>
    match hexValue? high, hexValue? low with
    | some h, some l => UInt8.ofNat (16 * h + l) :: octets rest
    | _, _ => Octets.encodeChar '%' ++ octets (high :: low :: rest)
  | c :: rest => Octets.encodeChar c ++ octets rest

/-- The text that was percent-encoded; `none` if the octets are no UTF-8. -/
def decode? (s : String) : Option String :=
  (Octets.decode? (octets s.toList)).map String.ofList

/-- Characters that stand for themselves stay one character. -/
theorem encodeChar_of_keep {keep : Char → Bool} {c : Char} (kept : keep c = true) :
    encodeChar keep c = [c] := by
  simp [encodeChar, kept]

/-- Points that are all characters are encoded as these. -/
theorem encodePoints?_pointsOf (keep : Char → Bool) (cs : List Char) :
    encodePoints? keep (pointsOf cs) = some (encodeChars keep cs) := by
  have each : (pointsOf cs).mapM (encodePoint? keep) = some (cs.map (encodeChar keep)) := by
    induction cs with
    | nil => rfl
    | cons c rest inductionHypothesis =>
      simp only [pointsOf] at inductionHypothesis
      simp [pointsOf, encodePoint?, Point.char?, inductionHypothesis]
  simp [encodePoints?, each, encodeChars, List.flatMap_def]

/-- Encoding works character by character. -/
theorem encodeChars_append (keep : Char → Bool) (left right : List Char) :
    encodeChars keep (left ++ right) = encodeChars keep left ++ encodeChars keep right :=
  List.flatMap_append

end EngineGateway.Text.Percent
