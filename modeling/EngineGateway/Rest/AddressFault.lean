/-!
# Faults of addresses

Why a text is no address, why a part of the name of a host is none, and why brackets enclose none.
-/

namespace EngineGateway.Rest

/-- Why a text is no address. -/
inductive AddressFault where
  | tooLong
  | controlCharacter
  | port
  | host
  /-- The path could be taken for something else. -/
  | path
  /-- It holds half a pair where octets are needed. -/
  | half
  deriving Repr, DecidableEq

/-- Why a text is no part of the name of a host. -/
inductive LabelFault where
  /-- It is empty, too long or misspelled. -/
  | shape
  /-- It holds a character that no name may hold. -/
  | character
  /-- It holds a character that may not stand where it stands. -/
  | surroundings
  /-- It mixes directions of writing. -/
  | direction
  deriving Repr, DecidableEq

/-- Why the brackets in an address do not enclose a host. -/
inductive BracketFault where
  /-- One is missing, or something stands beside them. -/
  | misplaced
  /-- They enclose what is no number of a host. -/
  | noNumber (host : List Char)
  /-- They enclose a number in the short form. -/
  | shortNumber
  /-- They enclose what says that it has a form yet to come, and has none. -/
  | laterForm
  deriving Repr, DecidableEq

end EngineGateway.Rest
