import EngineGateway.Rest.Address
import EngineGateway.Rest.Parameters

/-!
# Addresses of requests

A request's address is joined to the address of the engine by appending it, never by replacing its
path, so a prefix of the engine's path always stays in front. Only a complete address stands alone.
Parameters, if there are any, take the place of a query.
-/

namespace EngineGateway.Rest

open Text

/-- The address of an engine; its target ends in a slash. -/
def base (url : Text) : Except AddressFault Address := do
  let address ← Address.read url
  if address.target.getLast? == some '/' then return address
  else address.withTarget (address.target ++ ['/'])

/-- The address of an engine that a person gave, without slashes at its end. -/
def engineAt (url : Text) : Except AddressFault Address :=
  base ⟨(url.points.reverse.dropWhile (· == .char '/')).reverse⟩

/-- The address of a request below the address of an engine. A complete address stands alone. -/
def join (engine : Address) (path : Text) : Except AddressFault Address := do
  let request ← Address.read path
  if request.isAbsolute then return request
  else engine.withTarget (engine.target ++ request.target.dropWhile (· == '/'))

/-- An address with its query replaced by parameters. Without parameters it stays as it is; an empty
list of them leaves no query. -/
def Address.withParameters (address : Address) : Option Fields → Except AddressFault Address
  | none => .ok address
  | some [] => address.withQuery none
  | some parameters => do address.withQuery (some (← formQuery parameters))

/-- What stands before the last of a mark; everything if it is missing. -/
def upToLast (mark : Char) (cs : List Char) : List Char :=
  match cs.reverse.dropWhile (· != mark) with
  | _ :: before => before.reverse
  | [] => cs

/-- The whole address without the word that may say in front of it that it is one. -/
def Address.bareText (address : Address) : List Char :=
  match address.text with
  | 'U' :: 'R' :: 'L' :: ':' :: rest => rest
  | cs => cs

/-- Whether an address says by which rules it is to be read: without its fragment it begins with
something other than slashes before a colon. -/
def Address.saysHow (address : Address) : Bool :=
  let cs := upToLast '#' address.bareText
  let rules := cs.takeWhile fun c => c != ':' && c != '/'
  !rules.isEmpty && (cs.drop rules.length).head? == some ':'

/-- The address as it is shown to a person: an empty fragment is left out. -/
def Address.shown (address : Address) : String :=
  let cs := address.bareText
  String.ofList (if cs.getLast? == some '#' then cs.dropLast else cs)

end EngineGateway.Rest
