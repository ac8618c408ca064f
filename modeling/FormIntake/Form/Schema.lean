import FormIntake.Calendar.IsoText
import FormIntake.Number
/-!
# Form schemas

A form is a title and a row of fields. The kind of a field carries what is
particular to it: its options and its rules.
-/

namespace FormIntake

inductive MinDate where
  | today
  | text (t : Text)
  deriving DecidableEq

namespace MinDate

def keyword : Text := "today"

def ofText (t : Text) : MinDate :=
  if t = keyword then today else text t

def toText : MinDate → Text
  | today => keyword
  | text t => t

def resolve? (zone : Int) (current : Date) : MinDate → Option Date
  | today => some current
  | text t => Calendar.readDay? zone t

end MinDate

structure TextRules where
  minLength : Option Nat
  maxLength : Option Nat
  /-- The notation of a pattern that the whole text has to match. -/
  pattern : Option Text
  deriving DecidableEq

structure TextareaRules where
  minLength : Option Nat
  maxLength : Option Nat
  deriving DecidableEq

structure NumberRules where
  min : Option Number
  max : Option Number
  deriving DecidableEq

structure SelectionRules where
  minSelected : Option Nat
  maxSelected : Option Nat
  deriving DecidableEq

structure DateRules where
  minDate : Option MinDate
  deriving DecidableEq

inductive FieldKind where
  | text (rules : Option TextRules)
  | number (rules : Option NumberRules)
  | select (options : List Text)
  | multiSelect (options : List Text) (rules : Option SelectionRules)
  | date (rules : Option DateRules)
  | textarea (rules : Option TextareaRules)
  | switch
  deriving DecidableEq

inductive FieldType where
  | text
  | number
  | select
  | multiSelect
  | date
  | textarea
  | switch
  deriving DecidableEq

namespace FieldType

def name : FieldType → Text
  | text => "text"
  | number => "number"
  | select => "select"
  | multiSelect => "multi-select"
  | date => "date"
  | textarea => "textarea"
  | switch => "switch"

def all : List FieldType :=
  [text, number, select, multiSelect, date, textarea, switch]

def ofName? (t : Text) : Option FieldType :=
  all.find? fun type => type.name = t

end FieldType

def FieldKind.type : FieldKind → FieldType
  | text _ => .text
  | number _ => .number
  | select _ => .select
  | multiSelect _ _ => .multiSelect
  | date _ => .date
  | textarea _ => .textarea
  | switch => .switch

structure Field where
  name : Text
  label : Text
  required : Bool
  kind : FieldKind
  deriving DecidableEq

structure Schema where
  title : Text
  fields : List Field
  deriving DecidableEq

namespace Schema

def fieldNames (s : Schema) : List Text :=
  s.fields.map Field.name

def field? (s : Schema) (name : Text) : Option Field :=
  s.fields.find? fun f => f.name = name

end Schema

end FormIntake
