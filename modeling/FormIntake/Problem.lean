import FormIntake.Numeral
import FormIntake.Text.Quoted
/-!
# Problems of a document

What is wrong with a form document or a configuration, and where. A place is
the list of steps that leads to it from the outside in.
-/

namespace FormIntake

inductive PathStep where
  | key (name : Text)
  | index (i : Nat)
  deriving DecidableEq

inductive Cause where
  | notAnObject
  | notAField
  | missing
  | unexpectedKey
  | noType
  | unknownType
  | notAList
  | emptyList
  | notText
  | emptyText
  | loneSurrogate
  | notABool
  | unreadableBool
  | notAnInt
  | unreadableInt
  | oversizedInt
  | fractionalInt
  | infiniteInt
  | negativeInt
  | notADouble
  | unreadableDouble
  | unknownChoice
  | repeatedOption
  | repeatedName (name : Text)
  | unreadableMinDate (text : Text)
  | malformedPattern
  | alphabetConflict
  | patternCountTooLong (digits : Nat)
  | unencodableName (name : Text)
  deriving DecidableEq

namespace Cause

/-- What a cause that is peculiar to forms says; the others are told by their code alone. -/
def message? : Cause → Option Text
  | repeatedOption => some "options must be distinct"
  | repeatedName name => some ("duplicate field name: " ++ name)
  | unreadableMinDate text =>
    some ("minDate must be 'today' or an ISO date, got " ++ text.quoted)
  | malformedPattern => some "invalid pattern"
  | alphabetConflict => some "ASCII and UNICODE flags are incompatible"
  | patternCountTooLong digits => some (Numeral.tooLongToRead digits)
  | unencodableName name => some name.unencodable
  | _ => none

def code : Cause → String
  | notAnObject => "model_type"
  | notAField => "model_attributes_type"
  | missing => "missing"
  | unexpectedKey => "extra_forbidden"
  | noType => "union_tag_not_found"
  | unknownType => "union_tag_invalid"
  | notAList => "tuple_type"
  | emptyList => "too_short"
  | notText => "string_type"
  | emptyText => "string_too_short"
  | loneSurrogate => "string_unicode"
  | notABool => "bool_type"
  | unreadableBool => "bool_parsing"
  | notAnInt => "int_type"
  | unreadableInt => "int_parsing"
  | oversizedInt => "int_parsing_size"
  | fractionalInt => "int_from_float"
  | infiniteInt => "finite_number"
  | negativeInt => "greater_than_equal"
  | notADouble => "float_type"
  | unreadableDouble => "float_parsing"
  | unknownChoice => "literal_error"
  | _ => "value_error"

end Cause

structure Problem where
  path : List PathStep
  cause : Cause
  deriving DecidableEq

def Problem.under (step : PathStep) (p : Problem) : Problem :=
  { p with path := step :: p.path }

end FormIntake
