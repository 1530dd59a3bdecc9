import EngineGateway.Cli.Files
import EngineGateway.Json.Printer
import EngineGateway.Json.Writable

/-!
# Writing results

A result is written as JSON over several lines, or as a text as it is, to the standard output or to
a file. Either ends in a line feed.

A file holds octets in UTF-8, so a text with half a pair in it cannot be written to one. The
standard output is a stream of points here: by which encoding it becomes octets, and what that makes
of a half, is up to whatever stands behind it, and so printing never fails.
-/

namespace EngineGateway.Cli

/-- Something to be written. -/
inductive Payload where
  | text (text : Text)
  | data (value : Json)

/-- The text of a payload. -/
def Payload.serialized : Payload → Text
  | .text written => written
  | .data value => value.indented

/-- What was written: the standard output and the files after it, and what went wrong, if anything
did. -/
structure Written where
  stdout : Text := ""
  files : Files
  fault : Option Failure := none

/-- A text that ends in a line feed. -/
def withLineFeed (text : Text) : Text :=
  if text.points.getLast? == some (.char '\n') then text else text ++ "\n"

/-- Writes a text to a file. One that cannot be written leaves an empty file behind. -/
def emitToFile (text : Text) (path : Text) (files : Files) : Written :=
  let content := (withLineFeed text).string?
  match files.write path (content.getD "") with
  | .ok changed => { files := changed, fault := if content.isSome then none else some .unencodable }
  | .error failure => { files, fault := some failure }

/-- What keeps a payload from having a text: a whole number in it that is too long. -/
def Payload.fault? : Payload → Option Failure
  | .text _ => none
  | .data value => if value.isCountable then none else some .numberTooLong

/-- Writes a text to the standard output, which a hyphen names, or to a file. The standard output
takes every text, a half in it as well. -/
def emitText (text : Text) (output : Json) (files : Files) : Written :=
  match output with
  | .str path =>
    if path == "-" then { stdout := text ++ "\n", files } else emitToFile text path files
  | _ => { files, fault := some .wrongKind }

/-- Writes a payload to the standard output or to a file. -/
def emit (payload : Payload) (output : Json) (files : Files) : Written :=
  match payload.fault? with
  | some failure => { files, fault := some failure }
  | none => emitText payload.serialized output files

end EngineGateway.Cli
