import FormIntake.Form.Members
import FormIntake.Form.Schema
import FormIntake.Pattern.Reader
import FormIntake.Scalar
/-!
# Reading form documents

A document is accepted with exactly the keys and values that its fields call
for; otherwise all its problems are reported, those of an object in the order
of its keys as declared here, then the members that do not belong.
-/

namespace FormIntake

namespace Form

def nameKey : Key := ["name"]
def labelKey : Key := ["label"]
def requiredKey : Key := ["required"]
def typeKey : Key := ["type"]
def optionsKey : Key := ["options"]
def rulesKey : Key := ["validations"]
def minLengthKey : Key := ["minLength", "min_length"]
def maxLengthKey : Key := ["maxLength", "max_length"]
def patternKey : Key := ["pattern"]
def minKey : Key := ["min"]
def maxKey : Key := ["max"]
def minSelectedKey : Key := ["minSelected", "min_selected"]
def maxSelectedKey : Key := ["maxSelected", "max_selected"]
def minDateKey : Key := ["minDate", "min_date"]
def titleKey : Key := ["title"]
def fieldsKey : Key := ["fields"]

def readText : Json → Checked Text
  | .str t => .accepted t
  | _ => .reject .notText

def readLine : Json → Checked Text
  | .str t =>
    if t.hasSurrogate then .reject .loneSurrogate
    else if t.isEmpty then .reject .emptyText
    else .accepted t
  | _ => .reject .notText

def isText : Json → Bool
  | .str _ => true
  | _ => false

def readOptions : Json → Checked (List Text)
  | .arr items =>
    (Checked.items readText 0 items <* Checked.require (items.any isText) .emptyList).andThen
      fun options => if options.Nodup then .accepted options else .reject .repeatedOption
  | _ => .reject .notAList

def readPattern : Json → Checked Text
  | .str t =>
    match Pattern.compile t with
    | .ok _ => .accepted t
    | .error .malformed => .reject .malformedPattern
    | .error .alphabetConflict => .reject .alphabetConflict
    | .error (.countTooLong digits) => .reject (.patternCountTooLong digits)
    | .error (.unencodableName name) => .reject (.unencodableName name)
    | .error .countTooLarge | .error .nestedTooDeep => .overflow
  | _ => .reject .notText

/-- The word for the current day, or a text that names a day in the given zone. -/
def readMinDate (zone : Int) : Json → Checked MinDate
  | .str t =>
    if t = MinDate.keyword ∨ (Calendar.readDay? zone t).isSome then .accepted (.ofText t)
    else .reject (.unreadableMinDate t)
  | _ => .reject .notText

def rule {α : Type} (members : Members) (key : Key) (read : Json → Checked α) :
    Checked (Option α) :=
  members.given key none (Checked.unlessNull read)

def readTextRules (members : Members) : Checked TextRules :=
  TextRules.mk <$> rule members minLengthKey Scalar.readCount
    <*> rule members maxLengthKey Scalar.readCount
    <*> rule members patternKey readPattern
    <* members.nothingElse [minLengthKey, maxLengthKey, patternKey]

def readTextareaRules (members : Members) : Checked TextareaRules :=
  TextareaRules.mk <$> rule members minLengthKey Scalar.readCount
    <*> rule members maxLengthKey Scalar.readCount
    <* members.nothingElse [minLengthKey, maxLengthKey]

def readNumberRules (members : Members) : Checked NumberRules :=
  NumberRules.mk <$> rule members minKey Scalar.readNumber
    <*> rule members maxKey Scalar.readNumber
    <* members.nothingElse [minKey, maxKey]

def readSelectionRules (members : Members) : Checked SelectionRules :=
  SelectionRules.mk <$> rule members minSelectedKey Scalar.readCount
    <*> rule members maxSelectedKey Scalar.readCount
    <* members.nothingElse [minSelectedKey, maxSelectedKey]

def readDateRules (zone : Int) (members : Members) : Checked DateRules :=
  DateRules.mk <$> rule members minDateKey (readMinDate zone)
    <* members.nothingElse [minDateKey]

def rules {ρ : Type} (members : Members) (read : Members → Checked ρ) : Checked (Option ρ) :=
  members.given rulesKey none <| Checked.unlessNull fun
    | .obj rules => read rules
    | _ => .reject .notAnObject

def readKind (zone : Int) (members : Members) : FieldType → Checked FieldKind
  | .text => .text <$> rules members readTextRules
  | .number => .number <$> rules members readNumberRules
  | .select => .select <$> members.needed "options" readOptions
  | .multiSelect =>
    .multiSelect <$> members.needed "options" readOptions <*> rules members readSelectionRules
  | .date => .date <$> rules members (readDateRules zone)
  | .textarea => .textarea <$> rules members readTextareaRules
  | .switch => .accepted .switch

def fieldKeys (type : FieldType) : List Key :=
  [nameKey, labelKey, requiredKey, typeKey] ++
    match type with
    | .select => [optionsKey]
    | .multiSelect => [optionsKey, rulesKey]
    | .switch => []
    | _ => [rulesKey]

def readTypedField (zone : Int) (members : Members) (type : FieldType) : Checked Field :=
  Field.mk <$> members.needed "name" readLine
    <*> members.needed "label" readLine
    <*> members.given requiredKey false Scalar.readBool
    <*> readKind zone members type
    <* members.nothingElse (fieldKeys type)

def typeOf? : Json → Option FieldType
  | .str t => FieldType.ofName? t
  | _ => none

def readField (zone : Int) : Json → Checked Field
  | .obj members =>
    match Assoc.get? members "type" with
    | none => .reject .noType
    | some json =>
      match typeOf? json with
      | none => .reject .unknownType
      | some type => (readTypedField zone members type).under (.key type.name)
  | _ => .reject .notAField

def readFields (zone : Int) : Json → Checked (List Field)
  | .arr items => Checked.items (readField zone) 0 items
  | _ => .reject .notAList

def firstRepeated? (seen : List Text) : List Text → Option Text
  | [] => none
  | name :: rest => if seen.contains name then some name else firstRepeated? (name :: seen) rest

def namesDistinct (schema : Schema) : Checked Schema :=
  match firstRepeated? [] schema.fieldNames with
  | some name => .reject (.repeatedName name)
  | none => .accepted schema

def readForm (zone : Int) (members : Members) : Checked Schema :=
  Schema.mk <$> members.needed "title" readText
    <*> members.needed "fields" (readFields zone)
    <* members.nothingElse [titleKey, fieldsKey]

/-- Reads a form document. The zone, in minutes east of UTC, decides which days dates with an
offset name. -/
def readSchema (zone : Int) : Json → Checked Schema
  | .obj members => (readForm zone members).andThen namesDistinct
  | _ => .reject .notAnObject

end Form

end FormIntake
