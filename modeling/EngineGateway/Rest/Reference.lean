import EngineGateway.Text.Point

/-!
# Addresses as they are written

An address is a scheme, an authority, a path, a query and a fragment, and all but the path may be
missing. The authority names a host, and before it perhaps who asks and behind it perhaps a port.
Every text can be taken apart so; whether it is an address is another question.
-/

namespace EngineGateway.Rest

open Text (Point)

/-- The parts of an address as they are written. -/
structure Reference where
  scheme : List Char
  authority : List Point
  path : List Point
  query : Option (List Point)
  fragment : Option (List Point)
  deriving Repr, DecidableEq

/-- A character of a scheme after its first letter. -/
def isSchemeChar (c : Char) : Bool := c.isAlphanum || c == '+' || c == '.' || c == '-'

/-- The scheme before a colon, and what follows the colon. -/
def splitScheme (points : List Point) : List Char × List Point :=
  let scheme := (points.takeWhile (Point.passes isSchemeChar)).filterMap Point.char?
  match scheme, points.dropWhile (Point.passes isSchemeChar) with
  | [], .char ':' :: rest => ([], rest)
  | first :: _, .char ':' :: rest => if first.isAlpha then (scheme, rest) else ([], points)
  | _, _ => ([], points)

/-- What ends an authority. -/
def endsAuthority (c : Char) : Bool := c == '/' || c == '?' || c == '#'

/-- The authority after two slashes, and what follows it. -/
def splitAuthority : List Point → List Point × List Point
  | .char '/' :: .char '/' :: rest =>
    (rest.takeWhile (!Point.passes endsAuthority ·), rest.dropWhile (!Point.passes endsAuthority ·))
  | points => ([], points)

section

variable {α : Type} [BEq α]

/-- What stands before a mark, and what stands behind it if it is there. -/
def splitAt (mark : α) (list : List α) : List α × Option (List α) :=
  match list.dropWhile (· != mark) with
  | _ :: rest => (list.takeWhile (· != mark), some rest)
  | [] => (list, none)

/-- What stands before the last of a mark, and what stands behind it; all stands behind a mark that
is missing. -/
def splitAtLast (mark : α) (list : List α) : List α × List α :=
  match list.reverse.dropWhile (· != mark) with
  | _ :: before => (before.reverse, (list.reverse.takeWhile (· != mark)).reverse)
  | [] => ([], list)

end

/-- Takes an address apart. -/
def Reference.ofPoints (points : List Point) : Reference :=
  let (scheme, rest) := splitScheme points
  let (authority, rest) := splitAuthority rest
  let (sent, fragment) := splitAt (.char '#') rest
  let (path, query) := splitAt (.char '?') sent
  { scheme, authority, path, query, fragment }

/-- The parts of an authority as they are written. -/
structure Authority where
  user : List Point
  host : List Point
  port : List Point
  deriving Repr, DecidableEq

/-- A host, and what follows it. A host in brackets goes up to the last bracket. -/
def splitHost (points : List Point) : List Point × List Point :=
  if points.head? == some (.char '[') && points.contains (.char ']') then
    let behind := (points.reverse.takeWhile (· != .char ']')).reverse
    (points.take (points.length - behind.length), behind)
  else (points.takeWhile (· != .char ':'), points.dropWhile (· != .char ':'))

/-- Takes an authority apart. -/
def Authority.ofPoints (points : List Point) : Authority :=
  let (user, place) := splitAtLast (.char '@') points
  let (host, behind) := splitHost place
  { user, host, port := if behind.head? == some (.char ':') then behind.tail else behind }

/-- A mark that is missing splits nothing off. -/
theorem splitAt_of_not_mem {α : Type} [BEq α] [LawfulBEq α] {mark : α} {list : List α}
    (missing : mark ∉ list) : splitAt mark list = (list, none) := by
  have empty : list.dropWhile (· != mark) = [] := by
    induction list with
    | nil => rfl
    | cons c rest inductionHypothesis =>
      rw [List.mem_cons, not_or] at missing
      simp [Ne.symm missing.1, inductionHypothesis missing.2]
  simp [splitAt, empty]

end EngineGateway.Rest
