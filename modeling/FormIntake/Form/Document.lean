import FormIntake.Form.Schema
import FormIntake.Json.Basic
/-!
# Form documents

The document by which a form is published. What a field or its rules leave
open is left out.
-/

namespace FormIntake

def Json.present (members : List (String × Option Json)) : Json :=
  .object (members.filterMap fun (key, value?) => value?.map (key, ·))

namespace TextRules

def document (r : TextRules) : Json :=
  .present [("minLength", r.minLength.map .ofNat), ("maxLength", r.maxLength.map .ofNat),
    ("pattern", r.pattern.map .str)]

end TextRules

namespace TextareaRules

def document (r : TextareaRules) : Json :=
  .present [("minLength", r.minLength.map .ofNat), ("maxLength", r.maxLength.map .ofNat)]

end TextareaRules

namespace NumberRules

def document (r : NumberRules) : Json :=
  .present [("min", r.min.map .number), ("max", r.max.map .number)]

end NumberRules

namespace SelectionRules

def document (r : SelectionRules) : Json :=
  .present [("minSelected", r.minSelected.map .ofNat), ("maxSelected", r.maxSelected.map .ofNat)]

end SelectionRules

namespace DateRules

def document (r : DateRules) : Json :=
  .present [("minDate", r.minDate.map fun bound => .str bound.toText)]

end DateRules

namespace FieldKind

def options? : FieldKind → Option (List Text)
  | select options => some options
  | multiSelect options _ => some options
  | _ => none

def rulesDocument? : FieldKind → Option Json
  | text rules => rules.map TextRules.document
  | number rules => rules.map NumberRules.document
  | multiSelect _ rules => rules.map SelectionRules.document
  | date rules => rules.map DateRules.document
  | textarea rules => rules.map TextareaRules.document
  | select _ => none
  | switch => none

end FieldKind

def Field.document (f : Field) : Json :=
  .present [("name", some (.str f.name)), ("label", some (.str f.label)),
    ("required", some (.bool f.required)), ("type", some (.str f.kind.type.name)),
    ("options", f.kind.options?.map (Json.array .str)), ("validations", f.kind.rulesDocument?)]

def Schema.document (s : Schema) : Json :=
  .object [("title", .str s.title), ("fields", .array Field.document s.fields)]

end FormIntake
