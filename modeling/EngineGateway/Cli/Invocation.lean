import EngineGateway.Cli.Flag
import EngineGateway.Decimal.Numeral
import EngineGateway.Session.LogEntry
import EngineGateway.Settings.Basic

/-!
# Invocations

The commands of the program and what may be given with them. Every command takes the flags of the
connection; a flag that is not given has the value of the settings from the environment. Some flags
have to be given. A value that is no number, or none of the names that a flag knows, is refused;
what is taken is kept as data, with `null` for what is not given.
-/

namespace EngineGateway.Cli

/-- Everything that flags can give. -/
structure Given where
  backend : Option Json := none
  url : Option Json := none
  timeout : Option Json := none
  verifyCerts : Option Bool := none
  healthTimeout : Option Json := none
  logLevel : Option Json := none
  output : Option Json := none
  index : Option Json := none
  settings : Option Json := none
  override : Bool := false
  wait : Bool := false
  waitTimeout : Option Json := none
  query : Option Json := none
  fields : Option Json := none
  size : Option Json := none
  field : Option Json := none
  pathHint : Option Json := none
  pipelineId : Option Json := none
  definition : Option Json := none

/-- How to reach the engine and where to write. -/
structure Connection where
  backend : Json
  url : Json
  timeout : Json
  verifyCerts : Bool
  healthTimeout : Json
  logLevel : Json
  output : Json

/-- A command with what it needs. -/
inductive Command where
  | version
  | createIndex (index settings : Json) (override wait : Bool)
  | waitHealth (index timeout : Json)
  | refresh (index : Json)
  | search (index query fields size : Json)
  | storedFields (index query field size pathHint : Json)
  | putPipeline (id definition : Json)
  | pipelineExists (id : Json)

/-- A command over a connection. -/
structure Invocation where
  connection : Connection
  command : Command

/-- The name of a command. -/
def Command.name : Command → String
  | .version => "version"
  | .createIndex .. => "create-index"
  | .waitHealth .. => "wait-health"
  | .refresh _ => "refresh"
  | .search .. => "search"
  | .storedFields .. => "stored-fields"
  | .putPipeline .. => "put-pipeline"
  | .pipelineExists _ => "pipeline-exists"

/-- A flag that takes a text that can be read. -/
def readFlag (name : String) (read : Text → Option Json) (set : Option Json → Given → Given) :
    Flag Given :=
  ⟨name, .takes read fun value => set (some value)⟩

/-- A flag that takes any text. -/
def textFlag (name : String) (set : Option Json → Given → Given) : Flag Given :=
  readFlag name (fun text => some (.str text)) set

/-- A flag that takes a number. -/
def floatFlag (name : String) (set : Option Json → Given → Given) : Flag Given :=
  readFlag name (fun text => (Decimal.argumentFloat? text).map .float) set

/-- A flag that takes a whole number. -/
def intFlag (name : String) (set : Option Json → Given → Given) : Flag Given :=
  readFlag name (fun text => (Decimal.argumentInt? text).map .int) set

/-- A flag that takes one of some names. -/
def choiceFlag {α : Type} (name : String) (choice? : Text → Option α)
    (set : Option Json → Given → Given) : Flag Given :=
  readFlag name (fun text => (choice? text).map fun _ => .str text) set

/-- A switch, with the flag that turns it off again. -/
def switchFlags (word : String) (set : Bool → Given → Given) : List (Flag Given) :=
  [⟨"--" ++ word, .turns (set true)⟩, ⟨"--no-" ++ word, .turns (set false)⟩]

/-- The calls for help. -/
def helpFlags : List (Flag σ) := [⟨"-h", .help⟩, ⟨"--help", .help⟩]

/-- The flags before the command. -/
def noFlags : List (Flag Unit) := helpFlags

/-- The flags of the connection. -/
def connectionFlags : List (Flag Given) :=
  helpFlags ++
  [choiceFlag "--backend" BackendName.ofName? fun backend given => { given with backend },
    textFlag "--backend-url" fun url given => { given with url },
    floatFlag "--timeout-s" fun timeout given => { given with timeout }] ++
  switchFlags "verify-certs" (fun on given => { given with verifyCerts := some on }) ++
  [floatFlag "--health-timeout-s" fun healthTimeout given => { given with healthTimeout },
    choiceFlag "--log-level" LogLevel.ofName? fun logLevel given => { given with logLevel },
    textFlag "--output" fun output given => { given with output }]

/-- The flag for the name of an index. -/
def indexFlag : Flag Given := textFlag "--index" fun index given => { given with index }

/-- The flag for a query. -/
def queryFlag : Flag Given := textFlag "--query" fun query given => { given with query }

/-- The flag for a number of results. -/
def sizeFlag : Flag Given := intFlag "--size" fun size given => { given with size }

/-- The flag for the id of a pipeline. -/
def pipelineFlag : Flag Given :=
  textFlag "--pipeline-id" fun pipelineId given => { given with pipelineId }

/-- The number of results where none is asked for. -/
def standardSize : Json := .int 10

/-- A command as it can be asked for: its name, its own flags, and the command that they give,
unless one is lacking. -/
structure CommandForm where
  name : String
  flags : List (Flag Given) := []
  build : Given → Option Command

/-- All commands. -/
def commandForms : List CommandForm :=
  [{ name := "version", build := fun _ => some .version },
    { name := "create-index"
      flags :=
        [indexFlag, textFlag "--settings" fun settings given => { given with settings }] ++
        switchFlags "override-if-exists" (fun on given => { given with override := on }) ++
        switchFlags "wait" (fun on given => { given with wait := on })
      build := fun given => do
        return .createIndex (← given.index) (given.settings.getD .null) given.override given.wait },
    { name := "wait-health"
      flags :=
        [indexFlag,
          floatFlag "--wait-timeout-s" fun waitTimeout given => { given with waitTimeout }]
      build := fun given => do
        return .waitHealth (← given.index) (given.waitTimeout.getD .null) },
    { name := "refresh"
      flags := [indexFlag]
      build := fun given => do return .refresh (← given.index) },
    { name := "search"
      flags :=
        [indexFlag, queryFlag,
          textFlag "--fields" fun fields given => { given with fields },
          sizeFlag]
      build := fun given => do
        return .search (← given.index) (given.query.getD .null) (given.fields.getD (.str ""))
          (given.size.getD standardSize) },
    { name := "stored-fields"
      flags :=
        [indexFlag, queryFlag,
          textFlag "--field" fun field given => { given with field },
          sizeFlag, textFlag "--path-hint" fun pathHint given => { given with pathHint }]
      build := fun given => do
        return .storedFields (← given.index) (given.query.getD .null) (← given.field)
          (given.size.getD standardSize) (given.pathHint.getD .null) },
    { name := "put-pipeline"
      flags :=
        [pipelineFlag,
          textFlag "--definition" fun definition given => { given with definition }]
      build := fun given => do return .putPipeline (← given.pipelineId) (← given.definition) },
    { name := "pipeline-exists"
      flags := [pipelineFlag]
      build := fun given => do return .pipelineExists (← given.pipelineId) }]

/-- The connection that is given, with the settings from the environment for the rest. -/
def Given.connection (given : Given) (settings : Settings) : Connection where
  backend := given.backend.getD (.str settings.backend.name)
  url := given.url.getD (.str settings.url)
  timeout := given.timeout.getD (.float settings.timeout)
  verifyCerts := given.verifyCerts.getD settings.verifyCerts
  healthTimeout := given.healthTimeout.getD (.float settings.healthTimeout)
  logLevel := given.logLevel.getD (.str LogLevel.warning.name)
  output := given.output.getD (.str "-")

/-- What a command line asks for. -/
inductive Request where
  /-- Help was called for. -/
  | help
  /-- The command line cannot be understood. -/
  | refused
  /-- There is no command. -/
  | bare
  | invocation (invocation : Invocation)

/-- The invocation that the flags after a command give. -/
def CommandForm.read (form : CommandForm) (settings : Settings) (extras : Bool)
    (words : List Text) : Request :=
  match readFlags (connectionFlags ++ form.flags) {} words with
  | .error .help => .help
  | .error .refused => .refused
  | .ok reading =>
    match form.build reading.given with
    | none => .refused
    | some command =>
      if extras || reading.extras then .refused
      else .invocation ⟨reading.given.connection settings, command⟩

/-- Reads a command line. Before the command only a call for help has a meaning. -/
def readFrom (settings : Settings) (extras : Bool) : List Text → Request
  | [] => if extras then .refused else .bare
  | word :: rest =>
    if word == separatorWord then .refused
    else
      match classify noFlags word with
      | some (.flag flag attached) =>
        match helpStop flag.name attached with
        | .help => .help
        | .refused => .refused
      | some (.word name) =>
        match commandForms.find? fun form => form.name == name with
        | some form => form.read settings extras rest
        | none => .refused
      | some .unknown => readFrom settings true rest
      | some .separator | none => .refused

/-- What a command line asks for, where the environment gives some settings. -/
def read (settings : Settings) (words : List Text) : Request := readFrom settings false words

/-! ### Usage -/

/-- The name of the program. -/
def programName : String := "engine-gateway"

/-- A flag in the help. -/
def flagText (flag : Flag Given) : String :=
  match flag.effect with
  | .takes .. => " [" ++ flag.name ++ " VALUE]"
  | _ => " [" ++ flag.name ++ "]"

/-- The line of a command in the help. -/
def CommandForm.text (form : CommandForm) : String :=
  "  " ++ form.name ++ String.join (form.flags.map flagText)

/-- The help. -/
def usage : String :=
  "\n".intercalate (["usage: " ++ programName ++ " COMMAND [FLAG...]", "", "commands:"] ++
    commandForms.map CommandForm.text ++
    ["", "flags of every command:", " " ++ String.join (connectionFlags.map flagText)]) ++ "\n"

end EngineGateway.Cli
