import EngineGateway.BackendName
import EngineGateway.HealthState
import EngineGateway.Json.Display
import EngineGateway.Json.Reader
import EngineGateway.Rest.AddressFault
import EngineGateway.Status
import EngineGateway.Validation.Complaint
import EngineGateway.Version.Grammar

/-!
# Failures

Everything that can end an operation early, by its cause. A failure of the engine or of the way to
it is told apart from a fault in what the caller handed in (`isEngineFailure`): the command line
reports the former and stops at the latter. `message` holds all the wording.
-/

namespace EngineGateway

/-- Why an engine's description of itself is of no use. -/
inductive InfoFault where
  | noVersion (payload : Json)
  | badVersion (fault : Version.Fault)
  | refused (status : Status) (payload : Json)

/-- Why the answer to a search is of no use. -/
inductive SearchFault where
  | noHits (response : Json)
  | noId (hit : Json)
  | noTotal (hits : Fields)

/-- Why a file cannot be read or written. -/
inductive FileFault where
  | missing
  | exists
  | isDirectory
  | parentIsFile
  | tooLong
  | nullInPath
  /-- The path holds a half of a pair that stands for no octet. -/
  | halfInPath
  deriving Repr, DecidableEq

/-- Why a variable cannot stand in an environment. -/
inductive VariableFault where
  /-- Its name holds an equals sign. -/
  | equalsInName
  /-- Its name is empty. -/
  | emptyName
  /-- Its name or its value holds the character that ends every text of an environment. -/
  | nullInText
  deriving Repr, DecidableEq

/-- The cause of a failure. -/
inductive Failure where
  /-- The client library of a backend is not there. -/
  | missingLibrary (backend : BackendName)
  /-- There is no backend of that name. -/
  | unsupportedBackend (name : Text)
  /-- There is neither a client nor an address. -/
  | missingUrl
  /-- The engine could not be reached; the kind of trouble and its text. -/
  | unreachable (kind text : Text)
  /-- The engine accepted a request, but its answer is no object. -/
  | notAnObject (method path : Text) (payload : Json)
  /-- The engine's description of itself is of no use. -/
  | malformedInfo (fault : InfoFault)
  /-- The answer to a search is of no use. -/
  | malformedSearch (fault : SearchFault)
  /-- The index that was to be created is there already. -/
  | indexExists (index : Json)
  /-- An index did not become healthy in time. -/
  | healthTimeout (index limit : Text) (last : HealthState)
  /-- The engine answered with an error. -/
  | reported (status : Status) (payload : Json)
  /-- A pipeline was asked for, but the engine knows none. -/
  | ingestUnsupported (version : Text)
  /-- Data does not describe a record. -/
  | invalid (model : String) (complaints : List Complaint)
  /-- A text is no JSON. -/
  | unreadable (error : Json.ReadError)
  /-- A text is no version, or a version cannot be compared. -/
  | badVersion (fault : Version.Fault)
  /-- A value is not the name of a backend. -/
  | notABackend (name : Json)
  /-- A value is not the name of a mapping style. -/
  | notAStyle (name : Json)
  /-- A record has no field of that name. -/
  | noField (model : String) (field : Text)
  /-- A negative number of results was asked for. -/
  | negativeLimit (limit : Json)
  /-- A JSON argument is no object. -/
  | argumentNotObject (argument : Text)
  /-- A pipeline was to be stored without a definition. -/
  | missingDefinition
  /-- A request cannot be written because a float in it is no number. -/
  | notFinite
  /-- A text holds half a pair, which cannot be written in octets. -/
  | unencodable
  /-- Too many values stand inside each other in what is handed on. -/
  | nestedTooDeep
  /-- A text is no address. -/
  | badAddress (fault : Rest.AddressFault)
  /-- The name of a host cannot be taken for what it says it is. -/
  | badName (fault : Rest.LabelFault)
  /-- The brackets in an address do not enclose a host. -/
  | badBrackets (fault : Rest.BracketFault)
  /-- The address of a request does not say by which rules it is to be read. -/
  | unknownScheme (url : String)
  /-- A text is no whole number. -/
  | notWhole (text : Text)
  /-- A text is a whole number with more digits than a number may have. -/
  | wholeTooLong (digits : Nat)
  /-- A whole number that is to be written has more digits than a number may have. -/
  | numberTooLong
  /-- A waiting time is undefined. -/
  | undefinedDuration
  /-- A waiting time is beyond every clock. -/
  | endlessDuration
  /-- A list or text was taken for the pairs of an object and holds none. -/
  | notPairs
  /-- A request was made over a connection that had been closed. -/
  | closed
  /-- A value has the wrong kind for what was done with it. -/
  | wrongKind
  /-- A value was asked for a part that its kind does not have. -/
  | noMember
  /-- A list or text was asked for an item beyond its end. -/
  | noItem
  /-- An object was asked for a field that it does not have. -/
  | noKey
  /-- The name or the value of a variable cannot stand in an environment. -/
  | badVariable (fault : VariableFault)
  /-- A file cannot be read or written. -/
  | file (fault : FileFault)
  /-- Trouble inside a client, handed on as it came. -/
  | passed (kind text : Text)

namespace Failure

/-- A waiting time in milliseconds that has more digits than a number may have cannot be written
either. -/
@[match_pattern] abbrev durationTooLong : Failure := numberTooLong

/-- The words for an error that an engine reported. -/
def reportText (status : Status) (payload : Json) : Text :=
  "Engine returned HTTP " ++ status.plain ++ ": " ++ payload.plain

/-- The words for a useless description of an engine. -/
def infoText : InfoFault → Text
  | .noVersion payload => "no version number in " ++ payload.display
  | .badVersion fault => fault.message
  | .refused status payload => reportText status payload

/-- The words for a useless answer to a search. -/
def searchText : SearchFault → Text
  | .noHits response => "no hits in " ++ response.display
  | .noId hit => "hit without _id " ++ hit.display
  | .noTotal hits => "no total in " ++ (Json.obj hits).display

/-- The words for trouble with a file. -/
def fileText : FileFault → String
  | .missing => "no such file"
  | .exists => "a file is in the way"
  | .isDirectory => "not a file but a directory"
  | .parentIsFile => "not a directory but a file"
  | .tooLong => "the name is too long"
  | .nullInPath => "embedded null byte"
  | .halfInPath => "the path cannot be written"

/-- The words for what is no address. -/
def addressText : Rest.AddressFault → String
  | .tooLong => "the address is too long"
  | .controlCharacter => "the address holds a control character"
  | .port => "the port is no number"
  | .host => "the host is neither a name nor a number"
  | .path => "the path could be taken for something else"
  | .half => "the address cannot be written"

/-- The words for what is no name of a host. -/
def nameText : Rest.LabelFault → String
  | .shape => "a part of the name is empty, too long or misspelled"
  | .character => "the name holds a character that no name may hold"
  | .surroundings => "the name holds a character that may not stand there"
  | .direction => "the name mixes directions of writing"

/-- The words for brackets that do not enclose a host. -/
def bracketText : Rest.BracketFault → String
  | .misplaced => "Invalid IPv6 URL"
  | .noNumber host =>
    (Text.ofChars host).quoted ++ " does not appear to be an IPv4 or IPv6 address"
  | .shortNumber => "An IPv4 address cannot be in brackets"
  | .laterForm => "IPvFuture address is invalid"

/-- The words for a variable that cannot stand in an environment. -/
def variableText : VariableFault → String
  | .equalsInName => "illegal environment variable name"
  | .emptyName => "Invalid argument"
  | .nullInText => "embedded null byte"

/-- The most characters of a text that a message shows that is no whole number. -/
def shownNumeral : Nat := 200

/-- The words for a text that is no whole number. -/
def notWholeText (text : Text) : String :=
  "invalid literal for int() with base 10: " ++
    String.ofList (text.quoted.toList.take shownNumeral)

/-- The names of all backends. -/
def supportedNames : String := ", ".intercalate (BackendName.all.map BackendName.name)

/-- The words for a failure. -/
def message : Failure → Text
  | .missingLibrary backend =>
    "Install the optional dependency group '" ++ backend.name ++ "' to use this backend."
  | .unsupportedBackend name =>
    "Unsupported backend '" ++ name ++ "'. Supported values: " ++ supportedNames ++ "."
  | .missingUrl => "Backend URL is required when no client instance is provided."
  | .unreachable kind text => "Engine unreachable: " ++ kind ++ ": " ++ text
  | .notAnObject method path payload =>
    "Malformed engine response for " ++ method ++ " " ++ path ++ ": " ++ payload.display
  | .malformedInfo fault => "Malformed engine info response: " ++ infoText fault
  | .malformedSearch fault => "Malformed search response: " ++ searchText fault
  | .indexExists _ => "index already exists"
  | .healthTimeout index limit last =>
    "Index '" ++ index ++ "' did not reach yellow health within " ++ limit ++ "s (last state: " ++
      last.name ++ ")."
  | .reported status payload => reportText status payload
  | .ingestUnsupported version =>
    "Ingest pipelines are not supported by engine version " ++ version ++ "."
  | .invalid model complaints =>
    model ++ ": " ++ "; ".intercalate (complaints.map fun c => c.expected.message)
  | .unreadable error => error.message
  | .badVersion fault => fault.message
  | .notABackend name => name.display ++ " is not a valid BackendName"
  | .notAStyle name => name.display ++ " is not a valid MappingStyle"
  | .noField model field => "\"" ++ model ++ "\" object has no field \"" ++ field ++ "\""
  | .negativeLimit limit => "max_results must be >= 0, got " ++ limit.plain ++ "."
  | .argumentNotObject argument => "Expected a JSON object, got: " ++ argument.quoted
  | .missingDefinition => "A pipeline definition is required."
  | .notFinite => "Out of range float values are not JSON compliant"
  | .unencodable => "half a pair of code units cannot be written"
  | .badAddress fault => addressText fault
  | .badName fault => nameText fault
  | .badBrackets fault => bracketText fault
  | .unknownScheme url => "unknown url type: " ++ (url : Text).quoted
  | .nestedTooDeep => "Maximum serialization depth exceeded"
  | .notWhole text => notWholeText text
  | .wholeTooLong digits => Json.tooLongMessage digits
  | .numberTooLong => "Exceeds the limit (" ++ toString Decimal.digitLimit ++
    " digits) for integer string conversion; use sys.set_int_max_str_digits() to increase the limit"
  | .undefinedDuration => "cannot convert float NaN to integer"
  | .endlessDuration => "cannot convert float infinity to integer"
  | .notPairs => "pairs are needed for an object"
  | .closed => "Cannot send a request, as the client has been closed."
  | .wrongKind => "a value of another kind is needed"
  | .noMember => "the value has no such part"
  | .noItem => "there is no such item"
  | .noKey => "there is no such field"
  | .badVariable fault => variableText fault
  | .file fault => fileText fault
  | .passed _ text => text

/-- Whether a failure lies with the engine or the way to it. -/
def isEngineFailure : Failure → Bool
  | .missingLibrary _ | .unsupportedBackend _ | .missingUrl | .unreachable .. | .notAnObject ..
  | .malformedInfo _ | .malformedSearch _ | .indexExists _ | .healthTimeout .. | .reported ..
  | .ingestUnsupported _ => true
  | .invalid .. | .unreadable _ | .badVersion _ | .notABackend _ | .notAStyle _ | .noField ..
  | .negativeLimit _ | .argumentNotObject _ | .missingDefinition | .notFinite | .unencodable
  | .badAddress _ | .badName _ | .badBrackets _ | .unknownScheme _ | .nestedTooDeep | .notWhole _
  | .wholeTooLong _ | .numberTooLong | .undefinedDuration | .endlessDuration | .notPairs | .closed
  | .wrongKind | .noMember | .noItem | .noKey | .badVariable _ | .file _ | .passed .. => false

/-- The type of the error in an engine's error payload. Engines of the first generations answered a
text that begins with the type and goes on in brackets. -/
def errorType? (payload : Json) : Option Text :=
  match payload.fields?.bind (·.get? "error") with
  | some (.obj error) =>
    match Fields.get? error "type" with
    | none | some .null => none
    | some type => some type.plain
  | some (.str text) => some (text.upTo '[')
  | _ => none

end Failure

/-- The text that a value is; of any other value nothing comes but `fault`. -/
def Json.textOr (fault : Failure) : Json → Except Failure Text
  | .str text => .ok text
  | _ => .error fault

/-- What a check says, as the outcome of a computation. -/
def Checked.toExcept (model : String) : Checked α → Except Failure α
  | .passed value => .ok value
  | .failed complaints => .error (.invalid model complaints)

end EngineGateway
