import FormIntake.Proofs.Calendar.Order
import FormIntake.Proofs.Number.Order
import FormIntake.Validation
/-!
# The rules of a field

What a field asks of a value, as a row of rules in the order in which they are
reported. A rule says which values break it, whatever the other rules say; the
first one broken is the one reported.
-/

namespace FormIntake.Validation

structure Rule where
  /-- How a value that breaks the rule is reported. -/
  violation : Violation
  Broken : Json → Prop

/-- The first rule in the row that a value breaks is reported by this violation. -/
inductive FirstBroken (v : Json) : List Rule → Violation → Prop where
  | here {r : Rule} {rest : List Rule} (h : r.Broken v) : FirstBroken v (r :: rest) r.violation
  | later {r : Rule} {rest : List Rule} {w : Violation} (h : ¬ r.Broken v)
      (hrest : FirstBroken v rest w) : FirstBroken v (r :: rest) w

/-- Null, and a text of which nothing is left without its padding. -/
def Vacant (v : Json) : Prop :=
  v = .null ∨ ∃ t, v = .str t ∧ t.strip = []

namespace Rule

def ofText (violation : Violation) (Bad : Text → Prop) : Rule :=
  ⟨violation, fun v => ∃ t, v = .str t ∧ Bad t⟩

def ofItems (violation : Violation) (Bad : List Json → Prop) : Rule :=
  ⟨violation, fun v => ∃ items, v = .arr items ∧ Bad items⟩

def ofNumber (violation : Violation) (Bad : Number → Prop) : Rule :=
  ⟨violation, fun v => ∃ x, Number.ofJson? v = some x ∧ Bad x⟩

def unlessVacant (r : Rule) : Rule :=
  ⟨r.violation, fun v => ¬ Vacant v ∧ r.Broken v⟩

def present (required : Bool) : Rule :=
  ⟨.missing, fun v => Vacant v ∧ required = true⟩

def accepted : Rule :=
  ⟨.notAccepted, fun v => v ≠ .bool true⟩

def isText (violation : Violation) : Rule :=
  ⟨violation, fun v => ∀ t, v ≠ .str t⟩

def minLength (n : Nat) : Rule :=
  ofText (.tooShort n) fun t => t.utf16Length < n

def maxLength (n : Nat) : Rule :=
  ofText (.tooLong n) fun t => n < t.utf16Length

def matching (source : Text) : Rule :=
  ofText .noMatch fun t => ∃ p, Pattern.read source = .ok p ∧ p.accepts t = false

def isNumber : Rule :=
  ⟨.notANumber, fun v => ¬ ∃ x, Number.ofJson? v = some x ∧ x.isNan = false⟩

def least (bound : Number) : Rule :=
  ofNumber (.tooSmall bound) fun x => x.Below bound

def greatest (bound : Number) : Rule :=
  ofNumber (.tooLarge bound) fun x => bound.Below x

def isOption (options : List Text) : Rule :=
  ofText (.notAnOption options) fun t => t ∉ options

def isList : Rule :=
  ⟨.notAList, fun v => ∀ items, v ≠ .arr items⟩

def selected (required : Bool) : Rule :=
  ofItems .missing fun items => items = [] ∧ required = true

def onlyTexts : Rule :=
  ofItems .notOnlyTexts fun items => ∃ item ∈ items, ∀ t, item ≠ .str t

def onlyOptions (options : List Text) : Rule :=
  ofItems .notOnlyOptions fun items => ∃ t, .str t ∈ items ∧ t ∉ options

def minSelected (n : Nat) : Rule :=
  ofItems (.tooFew n) fun items => items ≠ [] ∧ items.length < n

def maxSelected (n : Nat) : Rule :=
  ofItems (.tooMany n) fun items => n < items.length

def isDay (zone : Int) : Rule :=
  ofText .notADate fun t => Calendar.readDay? zone t = none

def notBefore (zone : Int) (earliest : Date) : Rule :=
  ofText (.tooEarly earliest) fun t =>
    ∃ day, Calendar.readDay? zone t = some day ∧ day.Before earliest

def isBool : Rule :=
  ⟨.notABool, fun v => ∀ b, v ≠ .bool b⟩

end Rule

open Rule

def lengthRules (least greatest : Option Nat) : List Rule :=
  least.toList.map minLength ++ greatest.toList.map maxLength

def textRules : Option TextRules → List Rule
  | none => [isText .notText]
  | some r =>
    isText .notText :: (lengthRules r.minLength r.maxLength ++ r.pattern.toList.map matching)

def textareaRules : Option TextareaRules → List Rule
  | none => [isText .notText]
  | some r => isText .notText :: lengthRules r.minLength r.maxLength

def numberRules : Option NumberRules → List Rule
  | none => [isNumber]
  | some r => isNumber :: (r.min.toList.map least ++ r.max.toList.map greatest)

def selectRules (options : List Text) : List Rule :=
  [isText .notText, isOption options]

def selectionRules : Option SelectionRules → List Rule
  | none => []
  | some r => r.minSelected.toList.map minSelected ++ r.maxSelected.toList.map maxSelected

def multiSelectRules (required : Bool) (options : List Text) (rules : Option SelectionRules) :
    List Rule :=
  [isList, selected required, onlyTexts, onlyOptions options] ++ selectionRules rules

def earliest? (zone : Int) (today : Date) (rules : Option DateRules) : Option Date :=
  (rules.bind DateRules.minDate).bind (MinDate.resolve? zone today)

def dateRules (zone : Int) (today : Date) (rules : Option DateRules) : List Rule :=
  [isText .notADateText, isDay zone] ++ (earliest? zone today rules).toList.map (notBefore zone)

def kindRules (zone : Int) (today : Date) (required : Bool) : FieldKind → List Rule
  | .text rules => textRules rules
  | .number rules => numberRules rules
  | .select options => selectRules options
  | .multiSelect options rules => multiSelectRules required options rules
  | .date rules => dateRules zone today rules
  | .textarea rules => textareaRules rules
  | .switch => [isBool]

/-- The rules of a field in order. A switch that is required has to be on; every other field
first asks for a value if it is required, and nothing more of a vacant one. -/
def fieldRules (zone : Int) (today : Date) (f : Field) : List Rule :=
  if f.required = true ∧ f.kind = .switch then [accepted]
  else present f.required :: (kindRules zone today f.required f.kind).map unlessVacant

end FormIntake.Validation
