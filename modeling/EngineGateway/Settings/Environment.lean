import EngineGateway.Name
import EngineGateway.Settings.Basic
import EngineGateway.Text.Octets

/-!
# Settings from the environment

Each setting may be given by an environment variable, named by a common start and the setting in
capitals. A variable that is not set or blank leaves the setting at its default. A yes or no that
cannot be understood does so as well; any other value that cannot is complained about.
-/

namespace EngineGateway

/-- The variables of an environment. -/
abbrev Environment := List (Text × Text)

namespace Environment

/-- The value of a variable. -/
def get? (env : Environment) (name : Text) : Option Text := env.lookup name

/-- A text as an environment keeps it, which is in octets. -/
def kept (text : Text) : Except Failure Text :=
  match Text.Octets.normalName? text.points with
  | some points => .ok ⟨points⟩
  | none => .error .unencodable

/-- What keeps a variable from standing in an environment. -/
def fault? (name value : Text) : Option VariableFault :=
  if (name.points ++ value.points).contains (.char '\x00') then some .nullInText
  else if name.points.contains (.char '=') then some .equalsInName
  else if name.isEmpty then some .emptyName
  else none

/-- A variable with its value. -/
def entry (name : Text) (value : Json) : Except Failure (Text × Text) := do
  let keptName ← kept name
  let keptValue ← kept (← value.textOr .wrongKind)
  match fault? keptName keptValue with
  | some fault => throw (.badVariable fault)
  | none => return (keptName, keptValue)

/-- The environment of some variables with their values. -/
def ofPairs (pairs : List (Text × Json)) : Except Failure Environment :=
  pairs.mapM fun (name, value) => entry name value

end Environment

namespace Settings

/-- The common start of the variables. -/
def variableStart : Text := "CRAWLER_INDEX_"

/-- The words for yes and no in a variable, in any case and with blanks around them. -/
def switchWord? (text : Text) : Option Bool :=
  let word := text.trim.lower
  if (["1", "true", "yes", "on"] : List Text).contains word then some true
  else if (["0", "false", "no", "off"] : List Text).contains word then some false
  else none

/-- A yes or no given by a variable. -/
def switch (env : Environment) (name : Text) (default : Bool) : Bool :=
  ((env.get? name).bind switchWord?).getD default

/-- The settings that are given as texts, each with the rest of its variable's name. -/
def textVariables : List (String × String) :=
  [("backend", "BACKEND"), ("url", "URL"), ("timeout_s", "TIMEOUT_S"),
    ("health_timeout_s", "HEALTH_TIMEOUT_S"), ("health_poll_initial_s", "HEALTH_POLL_INITIAL_S"),
    ("health_poll_max_s", "HEALTH_POLL_MAX_S"), ("legacy_document_type", "LEGACY_DOCUMENT_TYPE")]

/-- The text of a variable without the blanks around it, if anything is left. -/
def variableText? (env : Environment) (name : Text) : Option Text :=
  ((env.get? name).filter fun raw => !raw.isBlankText).map Text.trim

/-- The settings that an environment gives, before they are checked. -/
def environmentFields (env : Environment) (start : Text) : Fields :=
  ("verify_certs", .bool (switch env (start ++ "VERIFY_CERTS") standard.verifyCerts)) ::
    textVariables.filterMap fun (setting, variableRest) =>
      (variableText? env (start ++ variableRest)).map fun text => (setting, .str text)

/-- The settings that an environment gives. -/
def ofEnvironment (env : Environment) (start : Text) : Checked Settings :=
  ofJson (.obj (environmentFields env start))

/-- A yes or no given by a variable, if there can be one of that name, or else `default`. -/
def askSwitch (env : Environment) (name : Name) (default : Json) : Except Failure Json := do
  let known ← Environment.kept (← name.text)
  return (((env.get? known).bind switchWord?).map Json.bool).getD default

/-- The settings that an environment gives, if there can be variables that begin so. -/
def askEnvironment (env : Environment) (start : Text) : Except Failure Settings := do
  (ofEnvironment env (← Environment.kept start)).toExcept modelName

end Settings

end EngineGateway
