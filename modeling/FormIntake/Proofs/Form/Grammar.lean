import FormIntake.Form.Reader
import FormIntake.Proofs.Scalar.Grammar
/-!
# The grammar of form documents

Which documents describe a form, said without the reader. An object is a row of
slots, each with the spellings of its key and the values that it takes.
-/

namespace FormIntake.Form

open Scalar

structure Slot where
  key : Key
  needed : Bool
  Takes : Json → Prop

/-- The members of an object fill a row of slots: all of them have their place there, under one
spelling at most and with a value that is taken, and no slot that is needed stays empty. -/
structure Fills (members : Members) (slots : List Slot) : Prop where
  known : ∀ name ∈ Assoc.keys members, ∃ slot ∈ slots, name ∈ slot.key
  one_spelling : ∀ slot ∈ slots, ∀ a ∈ slot.key, ∀ b ∈ slot.key,
    a ∈ Assoc.keys members → b ∈ Assoc.keys members → a = b
  taken : ∀ slot ∈ slots, ∀ name ∈ slot.key, ∀ value,
    Assoc.get? members name = some value → slot.Takes value
  there : ∀ slot ∈ slots, slot.needed = true → ∃ name ∈ slot.key, name ∈ Assoc.keys members

/-! ## Values -/

def OrNull (Takes : Json → Prop) (v : Json) : Prop :=
  v = .null ∨ Takes v

def IsText (v : Json) : Prop :=
  ∃ t, v = .str t

def IsLine (v : Json) : Prop :=
  ∃ t, v = .str t ∧ t ≠ [] ∧ t.hasSurrogate = false

/-- Texts, at least one and none twice. -/
def IsOptions (v : Json) : Prop :=
  ∃ options : List Text, v = .arr (options.map .str) ∧ options ≠ [] ∧ options.Nodup

def IsPattern (v : Json) : Prop :=
  ∃ t p, v = .str t ∧ Pattern.compile t = .ok p

def IsMinDate (zone : Int) (v : Json) : Prop :=
  ∃ t, v = .str t ∧ (t = MinDate.keyword ∨ ∃ day, Calendar.readDay? zone t = some day)

def IsObject (slots : List Slot) (v : Json) : Prop :=
  ∃ members, v = .obj members ∧ Fills members slots

/-! ## Objects -/

/-- A rule may be missing or null. -/
def Slot.rule (key : Key) (Takes : Json → Prop) : Slot :=
  ⟨key, false, OrNull Takes⟩

def Slot.rules (slots : List Slot) : Slot :=
  ⟨rulesKey, false, OrNull (IsObject slots)⟩

def Slot.options : Slot :=
  ⟨optionsKey, true, IsOptions⟩

def textSlots : List Slot :=
  [.rule minLengthKey IsCount, .rule maxLengthKey IsCount, .rule patternKey IsPattern]

def textareaSlots : List Slot :=
  [.rule minLengthKey IsCount, .rule maxLengthKey IsCount]

def numberSlots : List Slot :=
  [.rule minKey IsNumber, .rule maxKey IsNumber]

def selectionSlots : List Slot :=
  [.rule minSelectedKey IsCount, .rule maxSelectedKey IsCount]

def dateSlots (zone : Int) : List Slot :=
  [.rule minDateKey (IsMinDate zone)]

def kindSlots (zone : Int) : FieldType → List Slot
  | .text => [.rules textSlots]
  | .number => [.rules numberSlots]
  | .select => [.options]
  | .multiSelect => [.options, .rules selectionSlots]
  | .date => [.rules (dateSlots zone)]
  | .textarea => [.rules textareaSlots]
  | .switch => []

def fieldSlots (zone : Int) (type : FieldType) : List Slot :=
  [⟨nameKey, true, IsLine⟩, ⟨labelKey, true, IsLine⟩, ⟨requiredKey, false, IsBool⟩,
    ⟨typeKey, true, fun v => v = .str type.name⟩] ++ kindSlots zone type

/-- A field has the name, the label and the type that its document tells. -/
structure Tells (item : Json) (f : Field) : Prop where
  name : item.get? "name" = some (.str f.name)
  label : item.get? "label" = some (.str f.label)
  type : item.get? "type" = some (.str f.kind.type.name)

def IsField (zone : Int) (v : Json) : Prop :=
  ∃ type, IsObject (fieldSlots zone type) v

def IsFields (zone : Int) (v : Json) : Prop :=
  ∃ items, v = .arr items ∧ ∀ item ∈ items, IsField zone item

def formSlots (zone : Int) : List Slot :=
  [⟨titleKey, true, IsText⟩, ⟨fieldsKey, true, IsFields zone⟩]

def NamesDistinct (doc : Json) : Prop :=
  ∀ items, doc.get? "fields" = some (.arr items) → (items.map fun item => item.get? "name").Nodup

/-- A document describes a form. -/
def IsForm (zone : Int) (doc : Json) : Prop :=
  IsObject (formSlots zone) doc ∧ NamesDistinct doc

/-! ## Overflow -/

/-- A pattern has a repetition count that is too large for the counter, or more groups inside one
another than the call stack has room for. -/
def IsTooMuch (t : Text) : Prop :=
  Pattern.compile t = .error .countTooLarge ∨ Pattern.compile t = .error .nestedTooDeep

/-- The pattern of a text field is too much for its compiler. -/
def FieldOverflows (v : Json) : Prop :=
  ∃ rules t, v.get? "type" = some (.str FieldType.text.name) ∧ v.get? "validations" = some rules ∧
    rules.get? "pattern" = some (.str t) ∧ IsTooMuch t

def Overflows (doc : Json) : Prop :=
  ∃ items, doc.get? "fields" = some (.arr items) ∧ ∃ item ∈ items, FieldOverflows item

end FormIntake.Form
