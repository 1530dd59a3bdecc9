import EngineGateway.Validation.Checked

/-!
# The words of complaints

Each expectation has a short tag, by which programs tell complaints apart, and a sentence for
people.
-/

namespace EngineGateway

/-- Names between quotes, the last two joined by "or". -/
def alternatives : List String → String
  | [] => ""
  | [only] => "'" ++ only ++ "'"
  | [one, other] => "'" ++ one ++ "' or '" ++ other ++ "'"
  | first :: rest => "'" ++ first ++ "', " ++ alternatives rest

/-- The tag of a complaint. -/
def Expectation.tag : Expectation → String
  | .present => "missing"
  | .text => "string_type"
  | .unicodeText => "string_unicode"
  | .wholeNumber => "int_type"
  | .wholeNumberText => "int_parsing"
  | .noFraction => "int_from_float"
  | .wholeNumberSize => "int_parsing_size"
  | .finite => "finite_number"
  | .number => "float_type"
  | .numberText => "float_parsing"
  | .yesNo => "bool_type"
  | .yesNoReadable => "bool_parsing"
  | .dictionary => "dict_type"
  | .list => "list_type"
  | .record _ => "model_type"
  | .oneOf _ => "enum"
  | .positive => "greater_than"
  | .nonNegative => "greater_than_equal"
  | .unfrozen => "frozen_instance"

/-- The sentence of a complaint. -/
def Expectation.message : Expectation → String
  | .present => "Field required"
  | .text => "Input should be a valid string"
  | .unicodeText => "Input should be a valid string, unable to parse raw data as a unicode string"
  | .wholeNumber => "Input should be a valid integer"
  | .wholeNumberText => "Input should be a valid integer, unable to parse string as an integer"
  | .noFraction => "Input should be a valid integer, got a number with a fractional part"
  | .wholeNumberSize => "Unable to parse input string as an integer, exceeded maximum size"
  | .finite => "Input should be a finite number"
  | .number => "Input should be a valid number"
  | .numberText => "Input should be a valid number, unable to parse string as a number"
  | .yesNo => "Input should be a valid boolean"
  | .yesNoReadable => "Input should be a valid boolean, unable to interpret input"
  | .dictionary => "Input should be a valid dictionary"
  | .list => "Input should be a valid list"
  | .record model => "Input should be a valid dictionary or instance of " ++ model
  | .oneOf choices => "Input should be " ++ alternatives choices
  | .positive => "Input should be greater than 0"
  | .nonNegative => "Input should be greater than or equal to 0"
  | .unfrozen => "Instance is frozen"

end EngineGateway
