import FormIntake.Proofs.Form.Reader
import FormIntake.Proofs.Json.Digits
import FormIntake.Proofs.Scalar
import Mathlib.Data.List.Nodup
/-!
# Accepted forms

A form that was read from a document is well formed: names are distinct and not
empty, selections have options, patterns compile, and earliest days name
a day in the zone the form was read in. So it can be checked. Its bounds have
no more digits than the numbers of the document.
-/

namespace FormIntake

namespace FieldKind

def WellFormed (zone : Int) : FieldKind → Prop
  | text (some rules) => ∀ source ∈ rules.pattern, ∃ p, Pattern.compile source = .ok p
  | date (some rules) => ∀ bound ∈ rules.minDate, bound.WellFormed zone
  | select options => options ≠ [] ∧ options.Nodup
  | multiSelect options _ => options ≠ [] ∧ options.Nodup
  | _ => True

/-- The pattern of a field can be read, and its earliest day is known in the zone. -/
def Checkable (zone : Int) : FieldKind → Prop
  | text (some rules) => ∀ source ∈ rules.pattern, ∃ p, Pattern.read source = .ok p
  | date (some rules) =>
    ∀ bound ∈ rules.minDate, ∀ current, ∃ day, bound.resolve? zone current = some day
  | _ => True

def Fit (bound : Option Nat) : Prop :=
  ∀ n ∈ bound, Numeral.fits n = true

def Writable (bound : Option Number) : Prop :=
  ∀ x ∈ bound, x.isWritable = true

def Nameable : FieldKind → Prop
  | text (some rules) => Fit rules.minLength ∧ Fit rules.maxLength
  | textarea (some rules) => Fit rules.minLength ∧ Fit rules.maxLength
  | number (some rules) => Writable rules.min ∧ Writable rules.max
  | multiSelect _ (some rules) => Fit rules.minSelected ∧ Fit rules.maxSelected
  | _ => True

end FieldKind

theorem FieldKind.WellFormed.checkable {zone : Int} {kind : FieldKind}
    (h : kind.WellFormed zone) : kind.Checkable zone := by
  cases kind with
  | text rules =>
      cases rules with
      | none => trivial
      | some rules =>
          intro source hsource
          obtain ⟨p, hp⟩ := h source hsource
          exact ⟨p, Pattern.read_of_compile hp⟩
  | date rules =>
      cases rules with
      | none => trivial
      | some rules =>
          intro bound hbound current
          have hkept := h bound hbound
          cases bound with
          | today => exact ⟨current, rfl⟩
          | text t => exact hkept.2
  | number _ | select _ | multiSelect _ _ | textarea _ | switch => trivial

structure Field.WellFormed (zone : Int) (f : Field) : Prop where
  name : f.name ≠ [] ∧ f.name.hasSurrogate = false
  label : f.label ≠ [] ∧ f.label.hasSurrogate = false
  kind : f.kind.WellFormed zone

structure Schema.WellFormed (zone : Int) (s : Schema) : Prop where
  names : s.fieldNames.Nodup
  fields : ∀ f ∈ s.fields, f.WellFormed zone

theorem Schema.WellFormed.field?_eq_some_iff {zone : Int} {s : Schema} (h : s.WellFormed zone)
    {name : Text} {f : Field} : s.field? name = some f ↔ f ∈ s.fields ∧ f.name = name := by
  constructor
  · intro hfind
    have hname := List.find?_some hfind
    exact ⟨List.mem_of_find?_eq_some hfind, of_decide_eq_true hname⟩
  · rintro ⟨hmem, rfl⟩
    cases hfind : s.field? f.name with
    | none =>
        have hnot := List.find?_eq_none.1 hfind f hmem
        simp at hnot
    | some g =>
        have hg : g ∈ s.fields := List.mem_of_find?_eq_some hfind
        have hname := List.find?_some hfind
        rw [List.inj_on_of_nodup_map h.names hg hmem (of_decide_eq_true hname)]

open FieldKind

/-! ## Members -/

namespace Members

variable {α : Type} {members : Members}

theorem exists_of_given {key : Key} {default a : α} {read : Json → Checked α}
    (h : members.given key default read = .accepted a) :
    a = default ∨ ∃ json ∈ members.map Prod.snd, read json = .accepted a := by
  rcases given_eq_accepted.1 h with ⟨-, hdefault⟩ | ⟨name, json, hfind, hread⟩
  · exact Or.inl hdefault
  · exact Or.inr ⟨json, List.mem_map_of_mem (Assoc.mem_of_get? (find?_eq_some hfind).2), hread⟩

end Members

namespace Form

/-! ## Rules -/

variable {members : Members} {zone : Int}

theorem exists_of_rule {α : Type} {key : Key} {read : Json → Checked α} {rule? : Option α}
    (h : rule members key read = .accepted rule?) {a : α} (ha : a ∈ rule?) :
    ∃ json ∈ members.map Prod.snd, read json = .accepted a := by
  rw [Option.mem_def.1 ha] at h
  rcases Members.exists_of_given h with hnone | ⟨json, hmem, hread⟩
  · cases hnone
  · exact ⟨json, hmem, Checked.exists_of_unlessNull hread⟩

theorem exists_of_rules {ρ : Type} {read : Members → Checked ρ} {r : ρ}
    (h : rules members read = .accepted (some r)) :
    ∃ inner, Json.obj inner ∈ members.map Prod.snd ∧ read inner = .accepted r := by
  rcases Members.exists_of_given h with hnone | ⟨json, hmem, hread⟩
  · cases hnone
  · have hinner := Checked.exists_of_unlessNull hread
    split at hinner
    · exact ⟨_, hmem, hinner⟩
    · simp [Checked.reject] at hinner

theorem fit_of_rule {key : Key} {bound : Option Nat}
    (h : rule members key Scalar.readCount = .accepted bound)
    (hdigits : Json.integerDigitsMembers members ≤ Numeral.digitLimit) : Fit bound := by
  intro n hn
  obtain ⟨json, hmem, hread⟩ := exists_of_rule h hn
  apply Scalar.fits_of_readCount hread
  exact Nat.le_trans (Json.integerDigits_le_members hmem) hdigits

theorem writable_of_rule {key : Key} {bound : Option Number}
    (h : rule members key Scalar.readNumber = .accepted bound)
    (hdigits : Json.integerDigitsMembers members ≤ Numeral.digitLimit) : Writable bound := by
  intro x hx
  obtain ⟨json, hmem, hread⟩ := exists_of_rule h hx
  apply Scalar.isWritable_of_readNumber hread
  exact Nat.le_trans (Json.integerDigits_le_members hmem) hdigits

theorem nameable_of_readTextRules {r : TextRules} (h : readTextRules members = .accepted r)
    (hdigits : Json.integerDigitsMembers members ≤ Numeral.digitLimit) :
    Nameable (.text (some r)) := by
  obtain ⟨hmin, hmax, -⟩ := readTextRules_eq_accepted.1 h
  exact ⟨fit_of_rule hmin hdigits, fit_of_rule hmax hdigits⟩

theorem nameable_of_readTextareaRules {r : TextareaRules}
    (h : readTextareaRules members = .accepted r)
    (hdigits : Json.integerDigitsMembers members ≤ Numeral.digitLimit) :
    Nameable (.textarea (some r)) := by
  obtain ⟨hmin, hmax, -⟩ := readTextareaRules_eq_accepted.1 h
  exact ⟨fit_of_rule hmin hdigits, fit_of_rule hmax hdigits⟩

theorem nameable_of_readNumberRules {r : NumberRules}
    (h : readNumberRules members = .accepted r)
    (hdigits : Json.integerDigitsMembers members ≤ Numeral.digitLimit) :
    Nameable (.number (some r)) := by
  obtain ⟨hmin, hmax, -⟩ := readNumberRules_eq_accepted.1 h
  exact ⟨writable_of_rule hmin hdigits, writable_of_rule hmax hdigits⟩

theorem nameable_of_readSelectionRules {r : SelectionRules} (options : List Text)
    (h : readSelectionRules members = .accepted r)
    (hdigits : Json.integerDigitsMembers members ≤ Numeral.digitLimit) :
    Nameable (.multiSelect options (some r)) := by
  obtain ⟨hmin, hmax, -⟩ := readSelectionRules_eq_accepted.1 h
  exact ⟨fit_of_rule hmin hdigits, fit_of_rule hmax hdigits⟩

/-! ## Kinds of fields -/

theorem type_of_readKind {type : FieldType} {kind : FieldKind}
    (h : readKind zone members type = .accepted kind) : kind.type = type := by
  cases type with
  | text | number | select | date | textarea =>
      simp only [readKind, Checked.map_eq_accepted] at h
      obtain ⟨_, -, rfl⟩ := h
      rfl
  | multiSelect =>
      simp only [readKind, Checked.seq_eq_accepted, Checked.map_eq_accepted] at h
      obtain ⟨_, _, ⟨_, -, rfl⟩, -, rfl⟩ := h
      rfl
  | switch =>
      rw [← Checked.accepted.inj h]
      rfl

theorem wellFormed_of_readKind {type : FieldType} {kind : FieldKind}
    (h : readKind zone members type = .accepted kind) : kind.WellFormed zone := by
  cases type with
  | text =>
      simp only [readKind, Checked.map_eq_accepted] at h
      obtain ⟨rules?, hrules, rfl⟩ := h
      cases rules? with
      | none => trivial
      | some r =>
          obtain ⟨inner, -, hinner⟩ := exists_of_rules hrules
          intro source hs
          obtain ⟨json, -, hread⟩ := exists_of_rule (readTextRules_eq_accepted.1 hinner).2.2.1 hs
          exact (readPattern_eq_accepted.1 hread).2
  | date =>
      simp only [readKind, Checked.map_eq_accepted] at h
      obtain ⟨rules?, hrules, rfl⟩ := h
      cases rules? with
      | none => trivial
      | some r =>
          obtain ⟨inner, -, hinner⟩ := exists_of_rules hrules
          intro bound hb
          obtain ⟨json, -, hread⟩ := exists_of_rule (readDateRules_eq_accepted.1 hinner).1 hb
          exact (readMinDate_eq_accepted.1 hread).2
  | select =>
      simp only [readKind, Checked.map_eq_accepted, Members.needed_eq_accepted] at h
      obtain ⟨options, ⟨json, -, hread⟩, rfl⟩ := h
      exact (readOptions_eq_accepted.1 hread).2
  | multiSelect =>
      simp only [readKind, Checked.seq_eq_accepted, Checked.map_eq_accepted,
        Members.needed_eq_accepted] at h
      obtain ⟨_, _, ⟨options, ⟨json, -, hread⟩, rfl⟩, -, rfl⟩ := h
      exact (readOptions_eq_accepted.1 hread).2
  | number | textarea =>
      simp only [readKind, Checked.map_eq_accepted] at h
      obtain ⟨_, -, rfl⟩ := h
      trivial
  | switch =>
      simp only [readKind, Checked.accepted.injEq] at h
      subst h
      trivial

/-- Bounds that a field takes from its rules can be named: the rules have no more digits than the
field. -/
theorem nameable_of_rules {ρ : Type} (kind : Option ρ → FieldKind) {read : Members → Checked ρ}
    (hnone : (kind none).Nameable)
    (hsome : ∀ {inner r}, read inner = .accepted r →
      Json.integerDigitsMembers inner ≤ Numeral.digitLimit → (kind (some r)).Nameable)
    {rules? : Option ρ} (h : rules members read = .accepted rules?)
    (hdigits : Json.integerDigitsMembers members ≤ Numeral.digitLimit) :
    (kind rules?).Nameable := by
  cases rules? with
  | none => exact hnone
  | some r =>
      obtain ⟨inner, hmem, hread⟩ := exists_of_rules h
      apply hsome hread
      calc
        Json.integerDigitsMembers inner ≤ Json.integerDigitsMembers members :=
          Json.integerDigits_le_members hmem
        _ ≤ Numeral.digitLimit := hdigits

theorem nameable_of_readKind {type : FieldType} {kind : FieldKind}
    (h : readKind zone members type = .accepted kind)
    (hdigits : Json.integerDigitsMembers members ≤ Numeral.digitLimit) : kind.Nameable := by
  cases type with
  | text =>
      simp only [readKind, Checked.map_eq_accepted] at h
      obtain ⟨rules?, hrules, rfl⟩ := h
      exact nameable_of_rules .text trivial nameable_of_readTextRules hrules hdigits
  | textarea =>
      simp only [readKind, Checked.map_eq_accepted] at h
      obtain ⟨rules?, hrules, rfl⟩ := h
      exact nameable_of_rules .textarea trivial nameable_of_readTextareaRules hrules hdigits
  | number =>
      simp only [readKind, Checked.map_eq_accepted] at h
      obtain ⟨rules?, hrules, rfl⟩ := h
      exact nameable_of_rules .number trivial nameable_of_readNumberRules hrules hdigits
  | multiSelect =>
      simp only [readKind, Checked.seq_eq_accepted, Checked.map_eq_accepted] at h
      obtain ⟨_, rules?, ⟨options, -, rfl⟩, hrules, rfl⟩ := h
      exact nameable_of_rules (.multiSelect options) trivial
        (nameable_of_readSelectionRules options) hrules hdigits
  | select | date =>
      simp only [readKind, Checked.map_eq_accepted] at h
      obtain ⟨_, -, rfl⟩ := h
      trivial
  | switch =>
      simp only [readKind, Checked.accepted.injEq] at h
      subst h
      trivial

/-! ## Fields -/

theorem items_of_readForm {schema : Schema} (h : readForm zone members = .accepted schema) :
    ∃ items, Assoc.get? members "fields" = some (.arr items) ∧
      Checked.items (readField zone) 0 items = .accepted schema.fields := by
  obtain ⟨-, hfields, -⟩ := readForm_eq_accepted.1 h
  obtain ⟨json, hget, hread⟩ := Members.needed_eq_accepted.1 hfields
  unfold readFields at hread
  split at hread
  · exact ⟨_, hget, hread⟩
  · simp [Checked.reject] at hread

theorem wellFormed_of_readField {json : Json} {f : Field}
    (h : readField zone json = .accepted f) : f.WellFormed zone := by
  obtain ⟨members, type, -, -, htyped⟩ := readField_eq_accepted.1 h
  obtain ⟨hname, hlabel, -, hkind, -⟩ := readTypedField_eq_accepted.1 htyped
  obtain ⟨_, -, hname⟩ := Members.needed_eq_accepted.1 hname
  obtain ⟨_, -, hlabel⟩ := Members.needed_eq_accepted.1 hlabel
  exact ⟨(readLine_eq_accepted.1 hname).2, (readLine_eq_accepted.1 hlabel).2,
    wellFormed_of_readKind hkind⟩

theorem exists_of_readSchema {doc : Json} {schema : Schema}
    (h : readSchema zone doc = .accepted schema) {f : Field} (hf : f ∈ schema.fields) :
    ∃ item, item.integerDigits ≤ doc.integerDigits ∧ readField zone item = .accepted f := by
  obtain ⟨members, rfl, hform, -⟩ := readSchema_eq_accepted.1 h
  obtain ⟨items, hget, hitems⟩ := items_of_readForm hform
  obtain ⟨item, hmem, hitem⟩ := Checked.exists_of_mem_items hitems hf
  refine ⟨item, ?_, hitem⟩
  calc
    item.integerDigits ≤ (Json.arr items).integerDigits := Json.integerDigits_le_items hmem
    _ ≤ (Json.obj members).integerDigits :=
      Json.integerDigits_le_members (List.mem_map_of_mem (Assoc.mem_of_get? hget))

theorem wellFormed_of_readSchema {doc : Json} {schema : Schema}
    (h : readSchema zone doc = .accepted schema) : schema.WellFormed zone := by
  refine ⟨?_, ?_⟩
  · obtain ⟨members, -, -, hnames⟩ := readSchema_eq_accepted.1 h
    exact hnames
  · intro f hf
    obtain ⟨item, -, hitem⟩ := exists_of_readSchema h hf
    exact wellFormed_of_readField hitem

theorem checkable_of_readSchema {doc : Json} {schema : Schema}
    (h : readSchema zone doc = .accepted schema) {f : Field} (hf : f ∈ schema.fields) :
    f.kind.Checkable zone :=
  ((wellFormed_of_readSchema h).fields f hf).kind.checkable

theorem nameable_of_readSchema {doc : Json} {schema : Schema}
    (h : readSchema zone doc = .accepted schema)
    (hdigits : doc.integerDigits ≤ Numeral.digitLimit) {f : Field} (hf : f ∈ schema.fields) :
    f.kind.Nameable := by
  obtain ⟨item, hle, hitem⟩ := exists_of_readSchema h hf
  obtain ⟨members, type, rfl, -, htyped⟩ := readField_eq_accepted.1 hitem
  obtain ⟨-, -, -, hkind, -⟩ := readTypedField_eq_accepted.1 htyped
  exact nameable_of_readKind hkind (Nat.le_trans hle hdigits)

end Form

end FormIntake
