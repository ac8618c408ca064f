import FormIntake.Form.Schema
import FormIntake.Pattern.Reader
import FormIntake.Text.Quoted
/-!
# Violations

The ways in which a value can break the rules of a field, the messages about
them, and what can keep a field from being checked at all.
-/

namespace FormIntake

inductive Violation where
  | missing
  | notAccepted
  | notText
  | tooShort (least : Nat)
  | tooLong (greatest : Nat)
  | noMatch
  | notANumber
  | tooSmall (least : Number)
  | tooLarge (greatest : Number)
  | notAnOption (options : List Text)
  | notAList
  | notOnlyTexts
  | notOnlyOptions
  | tooFew (least : Nat)
  | tooMany (greatest : Nat)
  | notADateText
  | notADate
  | tooEarly (earliest : Date)
  | notABool
  deriving DecidableEq

/-- What keeps a field from being checked. None of it happens to a form that was read from a
document and has no whole number beyond the digit limit. -/
inductive Fault where
  | unreadablePattern (e : Pattern.ReadError)
  | unresolvableMinDate (text : Text)
  | boundTooLong

def MinDate.unresolvable (text : Text) : Text :=
  "unresolvable minDate: " ++ text.quoted

def Fault.message : Fault → Text
  | unreadablePattern _ => "unreadable pattern"
  | unresolvableMinDate text => MinDate.unresolvable text
  | boundTooLong => Numeral.tooLongToWrite

namespace Violation

def message (label : Text) : Violation → Text
  | missing => label ++ " is required."
  | notAccepted => label ++ " must be accepted."
  | notText => label ++ " must be a string."
  | tooShort least => label ++ " must be at least " ++ Text.ofNat least ++ " characters long."
  | tooLong greatest => label ++ " must be at most " ++ Text.ofNat greatest ++ " characters long."
  | noMatch => label ++ " is invalid."
  | notANumber => label ++ " must be a number."
  | tooSmall least => label ++ " must be at least " ++ least.display ++ "."
  | tooLarge greatest => label ++ " must be at most " ++ greatest.display ++ "."
  | notAnOption options => label ++ " must be one of: " ++ Text.joined ", " options ++ "."
  | notAList => label ++ " must be an array."
  | notOnlyTexts => label ++ " must contain only strings."
  | notOnlyOptions => label ++ " contains invalid selection(s)."
  | tooFew least => label ++ " must have at least " ++ Text.ofNat least ++ " selection(s)."
  | tooMany greatest => label ++ " must have at most " ++ Text.ofNat greatest ++ " selection(s)."
  | notADateText => label ++ " must be a date string."
  | notADate => label ++ " must be a valid date."
  | tooEarly earliest => label ++ " cannot be earlier than " ++ earliest.text ++ "."
  | notABool => label ++ " must be a boolean."

/-- Whether the bound that a message has to name keeps to the digit limit. -/
def isNameable : Violation → Bool
  | tooShort n | tooLong n | tooFew n | tooMany n => Numeral.fits n
  | tooSmall bound | tooLarge bound => bound.isWritable
  | _ => true

end Violation

end FormIntake
