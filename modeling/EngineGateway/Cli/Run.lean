import EngineGateway.Cli.Command
import EngineGateway.Cli.Emission

/-!
# Runs of the program

One run from the command line to its end. A failure of the engine is logged and told by the exit
code; any other failure breaks the run off. Nothing is written unless the command succeeded.
-/

namespace EngineGateway.Cli

/-- The machine that a run meets. -/
structure Machine where
  environment : Environment := []
  files : Files := {}
  libraries : Libraries := {}
  engine : Engine := {}

/-- What appears on the standard output. -/
inductive Printed where
  | usage
  | text (text : Text)

/-- How a run ends. -/
inductive Ending where
  | exit (code : Nat)
  | broken (failure : Failure)

/-- What can be observed of a run. -/
structure Run where
  ending : Ending
  stdout : Printed := .text ""
  files : Files
  sent : List EngineGateway.Request := []
  sleeps : List Float := []
  log : List LogEntry := []
  history : List Deed := []

/-- The exit code of a run that a failure of the engine ended. -/
def engineFailureCode : Nat := 3

/-- The exit code of a run whose command line cannot be understood. -/
def refusedCode : Nat := 2

/-- The entry for a failure of the engine. -/
def failureEntry (command : Command) (failure : Failure) : LogEntry :=
  ⟨.error, command.name ++ " failed: " ++ failure.message⟩

/-- A run that carries an invocation out and shows what is said at or above a level. -/
def runAtLevel (machine : Machine) (environment : Settings) (invocation : Invocation)
    (level : LogLevel) : Run :=
  let course := perform machine.libraries machine.engine environment machine.files invocation
  let run (ending : Ending) (stdout : Text) (files : Files) (said : List LogEntry)
      (deeds : List Deed) : Run :=
    { ending, stdout := .text stdout, files, sent := course.sent, sleeps := course.sleeps
      log := LogEntry.shown level (course.log ++ said), history := course.history ++ deeds }
  match course.outcome with
  | .error failure =>
    if failure.isEngineFailure then
      run (.exit engineFailureCode) "" machine.files [failureEntry invocation.command failure]
        [.raised failure]
    else run (.broken failure) "" machine.files [] [.raised failure]
  | .ok fields =>
    let written := emit (.data (.obj fields)) invocation.connection.output machine.files
    let deeds := [.returned fields, .emitted fields]
    match written.fault with
    | none => run (.exit 0) written.stdout written.files [] deeds
    | some failure => run (.broken failure) "" written.files [] deeds

/-- A run that carries an invocation out, if there is a level for what it says. -/
def runInvocation (machine : Machine) (environment : Settings) (invocation : Invocation) : Run :=
  match invocation.connection.logLevel.text?.bind LogLevel.ofName? with
  | some level => runAtLevel machine environment invocation level
  | none => { ending := .broken .noMember, files := machine.files }

/-- A run of the program. -/
def run (machine : Machine) (words : List Text) : Run :=
  match (Settings.ofEnvironment machine.environment Settings.variableStart).toExcept
      Settings.modelName with
  | .error failure => { ending := .broken failure, files := machine.files }
  | .ok environment =>
    match read environment words with
    | .help => { ending := .exit 0, stdout := .usage, files := machine.files }
    | .refused => { ending := .exit refusedCode, files := machine.files }
    | .bare => { ending := .exit 1, stdout := .usage, files := machine.files }
    | .invocation invocation => runInvocation machine environment invocation

end EngineGateway.Cli
