import EngineGateway.Text.Basic

/-!
# Engine versions

A version names a release of an engine by three numbers, or a build that came before that release by
a text besides. The distribution tells who numbered it; it takes no part in the order.
-/

namespace EngineGateway

/-- A version of an engine. -/
structure Version where
  major : Nat
  minor : Nat
  patch : Nat := 0
  preRelease : Option Text := none
  distribution : Text := "elasticsearch"
  deriving Repr, DecidableEq

namespace Version

/-- The distribution of a version that names none. -/
def defaultDistribution : Text := "elasticsearch"

/-- The text of a version. A pre-release text that is empty is left out. -/
def text (v : Version) : Text :=
  let numbers : Text := toString v.major ++ "." ++ toString v.minor ++ "." ++ toString v.patch
  match v.preRelease with
  | none => numbers
  | some pre => if pre.isEmpty then numbers else numbers ++ "-" ++ pre

/-- A release is written as its three numbers. -/
theorem text_of_release (v : Version) (release : v.preRelease = none) :
    v.text =
      Text.ofString (toString v.major ++ "." ++ toString v.minor ++ "." ++ toString v.patch) := by
  simp [text, release, Text.ofString_append]

end Version

end EngineGateway
