import EngineGateway.Decimal.Numeral
import EngineGateway.Rest.Label
import EngineGateway.Rest.NumericHost
import EngineGateway.Rest.Reference
import EngineGateway.Text.Lower
import EngineGateway.Text.Percent

/-!
# Addresses

An address in the form in which it is sent. Characters that may not stand where they stand are
percent-encoded, and what is encoded already stays as it is. In an address that names a host or a
scheme, steps of one and two points are resolved. Not every text is an address: the host has to be a
name or a number, the port a number, and a path must not be taken for an authority or a scheme.
-/

namespace EngineGateway.Rest

open Text

/-- The most characters that an address, or a part of one, may have. -/
def addressLimit : Nat := 65536

/-- An ASCII control character, which no address may hold. -/
def isControl (c : Char) : Bool := c.toNat < 0x20 || c.toNat == 0x7F

/-- A visible ASCII character. -/
def isVisible (c : Char) : Bool := 0x21 ≤ c.toNat && c.toNat ≤ 0x7E

/-- A character that stands for itself in a fragment. -/
def standsInFragment (c : Char) : Bool :=
  isVisible c && !(c == '"' || c == '<' || c == '>' || c == '\x60')

/-- A character that stands for itself in a query. -/
def standsInQuery (c : Char) : Bool :=
  isVisible c && !(c == '"' || c == '#' || c == '<' || c == '>')

/-- A character that stands for itself in a path. -/
def standsInPath (c : Char) : Bool :=
  standsInQuery c && !(c == '?' || c == '\x60' || c == '\x7b' || c == '\x7d')

/-- A character that stands for itself in the name of who asks. -/
def standsInUser (c : Char) : Bool :=
  standsInPath c && !(['/', ';', '=', '@', '[', '\\', ']', '^', '|'].contains c)

/-- A character that stands for itself in the name of a host. -/
def standsInHost (c : Char) : Bool :=
  Percent.isUnreserved c ||
    (isVisible c && !(['#', '/', ':', '<', '>', '?', '@', '[', ']', '^'].contains c))

/-- Points in their form, in which what `keep` does not let stand is percent-encoded. -/
def encoded (keep : Char → Bool) (points : List Point) : Except AddressFault (List Char) :=
  match Percent.encodePoints? keep points with
  | some cs => .ok cs
  | none => .error .half

/-- The form of the name of a host that holds characters beyond ASCII. -/
def nameForm (host : List Char) : Except AddressFault (List Char) :=
  match (lower (.ofChars host)).chars? with
  | some name => (writeName name).mapError fun _ => .host
  | none => .error .host

/-- The form of a host of characters. A number in the long form loses the brackets around it. -/
def hostFormOfChars (host : List Char) : Except AddressFault (List Char) :=
  if resemblesShortNumber host then if isShortNumber host then .ok host else .error .host
  else if host.length ≥ 2 && host.head? == some '[' && host.getLast? == some ']' then
    let inner := host.tail.dropLast
    if isLongNumber inner then .ok inner else .error .host
  else if host.all (·.toNat < 0x80) then
    .ok (Percent.encodeChars standsInHost (host.map Char.toLower))
  else nameForm host

/-- The form of a host. -/
def hostForm (host : List Point) : Except AddressFault (List Char) :=
  match charsOf? host with
  | some cs => hostFormOfChars cs
  | none => .error .host

/-- The ports that schemes stand for. -/
def standardPorts : List (String × Int) :=
  [("ftp", 21), ("http", 80), ("https", 443), ("ws", 80), ("wss", 443)]

/-- Whether a scheme stands for a port. A scheme with capitals stands for none. -/
def isStandardPort (scheme : List Char) (number : Int) : Bool :=
  standardPorts.lookup (String.ofList scheme) == some number

/-- The number of a port; none if nothing is written, or what the scheme says already. -/
def portForm (scheme : List Char) (port : List Point) : Except AddressFault (Option Int) :=
  if port.isEmpty then .ok none
  else
    match (charsOf? port).bind fun cs => Decimal.argumentInt? (String.ofList cs) with
    | some number => .ok (if isStandardPort scheme number then none else some number)
    | none => .error .port

/-- Drops steps of one point, and with each step of two points the step before it. Of the steps that
are kept, `kept` are those so far, the latest first. The empty step in front of the first slash
stays. -/
def resolveSteps (kept : List (List Point)) : List (List Point) → List (List Point)
  | [] => kept.reverse
  | [.char '.'] :: rest => resolveSteps kept rest
  | [.char '.', .char '.'] :: rest => resolveSteps (if kept == [[]] then kept else kept.tail) rest
  | step :: rest => resolveSteps (step :: kept) rest

/-- A path without steps of one and two points. -/
def resolve (path : List Point) : List Point :=
  joinWith (.char '/') (resolveSteps [] (splitBy (· == .char '/') path))

/-- An address in the form in which it is sent. -/
structure Address where
  scheme : List Char
  user : List Char
  host : List Char
  port : Option Int
  path : List Char
  query : Option (List Char)
  fragment : Option (List Char)
  deriving Repr, DecidableEq

/-- Whether a path cannot stand without a scheme or an authority, because it begins like one that
ends there. -/
def isMistakable (path : List Point) : Bool :=
  path.take 2 == [.char '/', .char '/'] || path.head? == some (.char ':')

/-- The form of an address with these parts. -/
def Reference.address (r : Reference) : Except AddressFault Address := do
  let authority := Authority.ofPoints r.authority
  let user ← encoded standsInUser authority.user
  let host ← hostForm authority.host
  let port ← portForm r.scheme authority.port
  let placed := !r.scheme.isEmpty || !user.isEmpty || !host.isEmpty || port.isSome
  if !placed && isMistakable r.path then throw .path
  let path ← encoded standsInPath (if placed then resolve r.path else r.path)
  let query ← r.query.mapM (encoded standsInQuery)
  let fragment ← r.fragment.mapM (encoded standsInFragment)
  return { scheme := r.scheme.map Char.toLower, user, host, port, path, query, fragment }

/-- The address that a text denotes. -/
def Address.read (text : Text) : Except AddressFault Address :=
  if text.points.length > addressLimit then .error .tooLong
  else if text.points.any (Point.passes isControl) then .error .controlCharacter
  else (Reference.ofPoints text.points).address

namespace Address

/-- Whether an address is complete and needs nothing in front of it. -/
def isAbsolute (address : Address) : Bool := !address.scheme.isEmpty && !address.host.isEmpty

/-- The authority as it is written. Only a number in the long form has colons in it, and it gets its
brackets back. -/
def authority (address : Address) : List Char :=
  (if address.user.isEmpty then [] else address.user ++ ['@']) ++
    (if address.host.contains ':' then '[' :: address.host ++ [']'] else address.host) ++
    match address.port with
    | none => []
    | some number => ':' :: (toString number).toList

/-- An optional part behind its mark. -/
def marked (mark : Char) : Option (List Char) → List Char
  | none => []
  | some part => mark :: part

/-- What is put on the wire: the path, which is never empty, and the query. -/
def target (address : Address) : List Char :=
  (if address.path.isEmpty then ['/'] else address.path) ++ marked '?' address.query

/-- The whole address as it is written. -/
def text (address : Address) : List Char :=
  (if address.scheme.isEmpty then [] else address.scheme ++ [':']) ++
    (if address.authority.isEmpty then [] else '/' :: '/' :: address.authority) ++
    address.path ++ marked '?' address.query ++ marked '#' address.fragment

/-- The parts of an address as they are written. -/
def reference (address : Address) : Reference where
  scheme := address.scheme
  authority := pointsOf address.authority
  path := pointsOf address.path
  query := address.query.map pointsOf
  fragment := address.fragment.map pointsOf

end Address

/-- Whether all parts are short enough. -/
def Reference.isShort (r : Reference) : Bool :=
  let fits (part : List Point) : Bool := part.length ≤ addressLimit
  r.scheme.length ≤ addressLimit && fits r.authority && fits r.path && r.query.all fits &&
    r.fragment.all fits

/-- The form of an address that was changed. -/
def Reference.changed (r : Reference) : Except AddressFault Address :=
  if r.isShort then r.address else .error .tooLong

/-- The address with another target, which is cut at its first question mark. -/
def Address.withTarget (address : Address) (target : List Char) : Except AddressFault Address :=
  let (path, query) := splitAt '?' target
  Reference.changed {
    address.reference with path := pointsOf path, query := query.map pointsOf }

/-- The address with another query, or without one. -/
def Address.withQuery (address : Address) (query : Option (List Char)) :
    Except AddressFault Address :=
  Reference.changed { address.reference with query := query.map pointsOf }

/-- Steps other than one and two points stay as they are. -/
theorem resolveSteps_of_forall {steps : List (List Point)}
    (plain : ∀ step ∈ steps, step ≠ [.char '.'] ∧ step ≠ [.char '.', .char '.'])
    (kept : List (List Point)) : resolveSteps kept steps = kept.reverse ++ steps := by
  induction steps generalizing kept with
  | nil => simp [resolveSteps]
  | cons step rest inductionHypothesis =>
    have first := plain step List.mem_cons_self
    have others := inductionHypothesis fun x member => plain x (List.mem_cons_of_mem _ member)
    unfold resolveSteps
    split <;> simp_all

/-- A path without such steps is resolved already. -/
theorem resolve_of_forall {path : List Point}
    (plain : ∀ step ∈ splitBy (· == .char '/') path,
      step ≠ [.char '.'] ∧ step ≠ [.char '.', .char '.']) :
    resolve path = path := by
  rw [resolve, resolveSteps_of_forall plain, List.reverse_nil, List.nil_append, joinWith_splitBy]

/-- A target is never empty. -/
theorem Address.target_ne_nil (address : Address) : address.target ≠ [] := by
  unfold Address.target
  by_cases empty : address.path.isEmpty <;> simp_all

end EngineGateway.Rest
