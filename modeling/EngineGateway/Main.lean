import EngineGateway.Backend.Recorded
import EngineGateway.Cli.Invocation
import EngineGateway.Cli.Run

/-!
# The program

The outermost layer: it gathers the command line, the environment, the files that arguments name and
the engine's answers, hands them to `run`, and passes on what comes of it. The program opens no
sockets. The answers are read from the standard input, one JSON object on each line, and the
requests are shown among the log on the standard error.
-/

namespace EngineGateway.Cli

/-- The variables that the program looks at. -/
def variableNames : List Text :=
  ("VERIFY_CERTS" :: Settings.textVariables.map Prod.snd).map fun (rest : String) =>
    Settings.variableStart ++ rest

/-- The environment as far as the program looks at it. -/
def readEnvironment : IO Environment :=
  variableNames.filterMapM fun name => do
    return (← IO.getEnv name.shown).map fun value => (name, value)

/-- The path that an argument may name after an at sign. -/
def namedPath? (word : String) : Option String :=
  match word.toList.dropWhile (· != '@') with
  | _ :: path => some (String.ofList path)
  | [] => none

/-- The files that arguments name, as far as they can be read. -/
def readNamedFiles (words : List String) : IO Files := do
  let entries ← (words.filterMap namedPath?).filterMapM fun (path : String) => do
    try return some (.ofText path, ← IO.FS.readFile path)
    catch _ => return none
  return ⟨entries⟩

/-- The values of lines of JSON; a line that is none is passed over. -/
def valuesOf (lines : List Text) : List Json :=
  lines.filterMap fun line => (Json.read line).toOption

/-- The answers on the standard input. -/
def readEngine : IO Engine := do
  let input ← (← IO.getStdin).readToEnd
  let recorded := valuesOf (Text.split '\n' input)
  return {
    rest := Recorded.answers Recorded.restAnswer recorded
    client := Recorded.answers Recorded.clientAnswer recorded }

/-- A request as a line of the log. -/
def requestLine : EngineGateway.Request → Text
  | .http method target body =>
    match body with
    | some value => method ++ " " ++ target ++ " " ++ value.compact
    | none => method ++ " " ++ target
  | .call name positional named =>
    name ++ " " ++ (Json.arr positional).compact ++ " " ++ (Json.obj named).compact

/-- Passes on what came of a run. -/
def report (run : Run) (before : Files) : IO UInt32 := do
  for request in run.sent do
    IO.eprintln (requestLine request).escaped
  for entry in run.log do
    IO.eprintln (entry.level.name ++ " " ++ entry.text.escaped)
  for (path, content) in run.files.changedSince before do
    if path.steps.length > 1 then IO.FS.createDirAll path.parent.text.shown
    IO.FS.writeFile path.text.shown content
  match run.stdout with
  | .usage => IO.print usage
  | .text text => IO.print text.escaped
  match run.ending with
  | .exit code => return UInt32.ofNat code
  | .broken failure =>
    IO.eprintln failure.message.escaped
    return 1

end EngineGateway.Cli

open EngineGateway.Cli in
/-- Runs the program. A run that asks the engine nothing does not wait for its answers. -/
def main (words : List String) : IO UInt32 := do
  let machine : Machine := {
    environment := ← readEnvironment
    files := ← readNamedFiles words }
  let arguments := words.map EngineGateway.Text.ofString
  let silent := run machine arguments
  if silent.sent.isEmpty then report silent machine.files
  else
    let answered := run { machine with engine := ← readEngine } arguments
    report answered machine.files
