import FormIntake.Number.Reading
import FormIntake.Pattern.Matching
import FormIntake.Validation.Violation
/-!
# Validation

A value is checked against a field in order: first whether it is there at all,
then the rules of the field's kind, of which the first broken one counts.
-/

namespace FormIntake

namespace Validation

def isEmpty : Json → Bool
  | .null => true
  | .str t => t.isBlank
  | _ => false

def firstOf : List (Option Violation) → Option Violation :=
  List.findSome? id

def breaks (violation : Violation) (broken : Bool) : Option Violation :=
  if broken then some violation else none

def checkLength (least greatest : Option Nat) (t : Text) : Option Violation :=
  firstOf
    [least.bind fun n => breaks (.tooShort n) (t.utf16Length < n),
      greatest.bind fun n => breaks (.tooLong n) (n < t.utf16Length)]

def checkPattern (source? : Option Text) (t : Text) : Except Fault (Option Violation) :=
  match source? with
  | none => .ok none
  | some source =>
    match Pattern.read source with
    | .ok pattern => .ok (breaks .noMatch !(pattern.accepts t))
    | .error e => .error (.unreadablePattern e)

def checkText (rules : Option TextRules) : Json → Except Fault (Option Violation)
  | .str t =>
    match rules with
    | none => .ok none
    | some r =>
      match checkLength r.minLength r.maxLength t with
      | some violation => .ok (some violation)
      | none => checkPattern r.pattern t
  | _ => .ok (some .notText)

def checkTextarea (rules : Option TextareaRules) : Json → Option Violation
  | .str t => rules.bind fun r => checkLength r.minLength r.maxLength t
  | _ => some .notText

def checkNumber (rules : Option NumberRules) (value : Json) : Option Violation :=
  match Number.ofJson? value with
  | none => some .notANumber
  | some x =>
    rules.bind fun r =>
      firstOf
        [r.min.bind fun bound => breaks (.tooSmall bound) (x.lt bound),
          r.max.bind fun bound => breaks (.tooLarge bound) (bound.lt x)]

def checkSelect (options : List Text) : Json → Option Violation
  | .str t => breaks (.notAnOption options) !(options.contains t)
  | _ => some .notText

def textsOf? (items : List Json) : Option (List Text) :=
  items.mapM fun
    | .str t => some t
    | _ => none

def checkSelected (options : List Text) (rules : Option SelectionRules) (items : List Json) :
    Option Violation :=
  match textsOf? items with
  | none => some .notOnlyTexts
  | some chosen =>
    if chosen.all options.contains then
      rules.bind fun r =>
        firstOf
          [r.minSelected.bind fun n => breaks (.tooFew n) (chosen.length < n),
            r.maxSelected.bind fun n => breaks (.tooMany n) (n < chosen.length)]
    else some .notOnlyOptions

/-- An empty list counts as no selection. -/
def checkMultiSelect (required : Bool) (options : List Text) (rules : Option SelectionRules) :
    Json → Option Violation
  | .arr [] => breaks .missing required
  | .arr items => checkSelected options rules items
  | _ => some .notAList

def checkDay (zone : Int) (current : Date) (rules : Option DateRules) (day : Date) :
    Except Fault (Option Violation) :=
  match rules.bind DateRules.minDate with
  | none => .ok none
  | some bound =>
    match bound.resolve? zone current with
    | some earliest => .ok (breaks (.tooEarly earliest) (day.lt earliest))
    | none => .error (.unresolvableMinDate bound.toText)

def checkDate (zone : Int) (current : Date) (rules : Option DateRules) :
    Json → Except Fault (Option Violation)
  | .str t =>
    match Calendar.readDay? zone t with
    | none => .ok (some .notADate)
    | some day => checkDay zone current rules day
  | _ => .ok (some .notADateText)

def checkSwitch : Json → Option Violation
  | .bool _ => none
  | _ => some .notABool

def checkAccepted : Json → Option Violation
  | .bool true => none
  | _ => some .notAccepted

def checkKind (zone : Int) (current : Date) (f : Field) (value : Json) :
    Except Fault (Option Violation) :=
  match f.kind with
  | .text rules => checkText rules value
  | .number rules => .ok (checkNumber rules value)
  | .select options => .ok (checkSelect options value)
  | .multiSelect options rules => .ok (checkMultiSelect f.required options rules value)
  | .date rules => checkDate zone current rules value
  | .textarea rules => .ok (checkTextarea rules value)
  | .switch => .ok (checkSwitch value)

/-- The first rule of a field that a value breaks. -/
def violation (zone : Int) (current : Date) (f : Field) (value : Json) :
    Except Fault (Option Violation) :=
  if f.required && f.kind = .switch then .ok (checkAccepted value)
  else if isEmpty value then .ok (breaks .missing f.required)
  else checkKind zone current f value

def validateField (zone : Int) (current : Date) (f : Field) (value : Json) :
    Except Fault (Option Text) :=
  match violation zone current f value with
  | .error fault => .error fault
  | .ok none => .ok none
  | .ok (some v) => if v.isNameable then .ok (some (v.message f.label)) else .error .boundTooLong

/-- The messages about a record by the names of the fields. A record that is no object counts as
one without members. -/
abbrev Errors := Assoc Text Text

def collect (zone : Int) (current : Date) (record : Json) (errors : Errors) (f : Field) :
    Except Fault Errors :=
  match validateField zone current f ((record.get? f.name).getD .null) with
  | .error fault => .error fault
  | .ok none => .ok errors
  | .ok (some message) => .ok (Assoc.put errors f.name message)

/-- Checks all fields of a form. The record is valid if there is no error. -/
def validate (zone : Int) (current : Date) (schema : Schema) (record : Json) :
    Except Fault Errors :=
  schema.fields.foldlM (collect zone current record) []

end Validation

end FormIntake
