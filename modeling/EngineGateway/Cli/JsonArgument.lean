import EngineGateway.Cli.Files
import EngineGateway.Json.Reader
import EngineGateway.Text.Blank

/-!
# Arguments that hold objects

An argument may be a JSON object, or name a file that holds one after an at sign. A blank argument
is the same as none.
-/

namespace EngineGateway.Cli

/-- The JSON text of an argument. -/
def argumentText (files : Files) (argument : Text) : Except Failure Text :=
  match argument.points with
  | .char '@' :: path => files.read ⟨path⟩
  | _ => .ok argument

/-- The object that a text holds or leads to. -/
def writtenObject (files : Files) (written : Text) : Except Failure (Option Fields) :=
  if written.isBlankText then .ok none
  else do
    let text ← argumentText files written
    match Json.read text with
    | .ok (.obj fields) => .ok (some fields)
    | .ok _ => .error (.argumentNotObject written)
    | .error error => .error (.unreadable error)

/-- The object that an argument holds; `null` is none. -/
def objectArgument (files : Files) (argument : Json) : Except Failure (Option Fields) :=
  match argument with
  | .null => .ok none
  | given => do writtenObject files (← given.textOr .noMember)

/-- The names in a list with commas between them, without the blanks around them; blank names do not
count. -/
def fieldNames (written : Text) : List Text :=
  ((written.split ',').filter fun name => !name.isBlankText).map Text.trim

end EngineGateway.Cli
