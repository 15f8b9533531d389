/-!
# Problems of a configuration

Why a field of a configuration does not fit, with a short name and a message for each problem.
-/

namespace RollScript

/-- Why a field does not fit. -/
inductive FieldProblem where
  | notInteger
  | unreadable
  | fractional
  | notFinite
  | tooLarge
  | tooSmall
  | notPolicy
  | notUnicode
deriving DecidableEq

namespace FieldProblem

/-- The short name of a problem. -/
def label : FieldProblem → String
  | notInteger => "int_type"
  | unreadable => "int_parsing"
  | fractional => "int_from_float"
  | notFinite => "finite_number"
  | tooLarge => "int_parsing_size"
  | tooSmall => "greater_than_equal"
  | notPolicy => "enum"
  | notUnicode => "string_unicode"

/-- The message of a problem. -/
def message : FieldProblem → String
  | notInteger => "Input should be a valid integer"
  | unreadable => "Input should be a valid integer, unable to parse string as an integer"
  | fractional => "Input should be a valid integer, got a number with a fractional part"
  | notFinite => "Input should be a finite number"
  | tooLarge => "Unable to parse input string as an integer, exceeded maximum size"
  | tooSmall => "Input should be greater than or equal to 1"
  | notPolicy => "Input should be 'last' or 'error'"
  | notUnicode =>
    "Input should be a valid string, unable to parse raw data as a unicode string"

end FieldProblem

/-- A field that does not fit. -/
structure FieldError where
  field : String
  problem : FieldProblem
deriving DecidableEq

end RollScript
