import EngineGateway.Rest.NumericHost
import EngineGateway.Rest.Target

/-!
# Brackets in addresses

Where an address is read once more as a text, two slashes behind its scheme begin an authority, even
if they are the beginning of its path. Brackets in an authority enclose the number of a host: only a
port may follow them, and only the name of who asks may stand before them.
-/

namespace EngineGateway.Rest

/-- What follows the scheme of an address, if it has one. -/
def afterScheme (cs : List Char) : List Char :=
  match cs.takeWhile isSchemeChar, cs.dropWhile isSchemeChar with
  | first :: _, ':' :: rest => if first.isAlpha then rest else cs
  | _, _ => cs

/-- The authority that two slashes begin. -/
def writtenAuthority (cs : List Char) : List Char :=
  match afterScheme cs with
  | '/' :: '/' :: rest => rest.takeWhile (!endsAuthority ·)
  | _ => []

/-- Whether a host in brackets has a form yet to come: its number in hexadecimal digits behind a
letter, a point, and the host itself. -/
def isLaterForm (host : List Char) : Bool :=
  let isHexDigit (c : Char) : Bool := (Text.hexValue? c).isSome
  match host with
  | 'v' :: rest =>
    !(rest.takeWhile isHexDigit).isEmpty &&
      match rest.dropWhile isHexDigit with
      | '.' :: _ :: _ => true
      | _ => false
  | _ => false

/-- Checks what stands in brackets. -/
def checkBracketed (host : List Char) : Except BracketFault Unit :=
  if host.head? == some 'v' then if isLaterForm host then .ok () else .error .laterForm
  else if isShortNumber host then .error .shortNumber
  else if isLongNumber host then .ok ()
  else .error (.noNumber host)

/-- Checks what stands around brackets in the place of a host, and then what stands in them. -/
def checkPlace (place : List Char) : Except BracketFault Unit :=
  match splitAt '[' place with
  | (before, some bracketed) =>
    let (host, behind) := splitAt ']' bracketed
    let port := behind.getD []
    if !before.isEmpty || !(port.isEmpty || port.head? == some ':') then .error .misplaced
    else checkBracketed host
  | (_, none) => checkBracketed (place.takeWhile (· != ':'))

/-- Checks the brackets in an authority. -/
def checkAuthority (authority : List Char) : Except BracketFault Unit :=
  match authority.contains '[', authority.contains ']' with
  | false, false => .ok ()
  | true, true => checkPlace (splitAtLast '@' authority).2
  | _, _ => .error .misplaced

/-- Checks the brackets in an address. -/
def Address.checkBrackets (address : Address) : Except BracketFault Unit :=
  checkAuthority (writtenAuthority address.bareText)

end EngineGateway.Rest
