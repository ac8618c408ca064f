import FormIntake.Proofs.Form.RoundTrip
import FormIntake.Proofs.Validation.Independence
/-!
# Relaxed forms

A field that asks no more than another one breaks none of its rules on a value
that keeps the rules of the other. So a form whose fields all relax fields of
another form reports no name that the other does not report. On an earlier day
every form is a relaxed form of itself.
-/

namespace FormIntake

def Date.NotAfter (a b : Date) : Prop :=
  ¬ b.Before a

theorem Date.notAfter_refl (a : Date) : a.NotAfter a := by
  unfold NotAfter Before
  omega

theorem Date.before_of_notAfter {day a b : Date} (hle : a.NotAfter b) (h : day.Before a) :
    day.Before b := by
  rw [← lt_iff_before, lt, decide_eq_true_eq] at h ⊢
  have hab : ¬ b.ordinal < a.ordinal := by
    rwa [NotAfter, ← lt_iff_before, lt, decide_eq_true_eq] at hle
  omega

/-! ## Asking no more -/

/-- A bound that is there only if the strict one is, and is then as easy to keep. -/
def Loosens {α : Type} (easier : α → α → Prop) (loose strict : Option α) : Prop :=
  ∀ b ∈ loose, ∃ c ∈ strict, easier b c

theorem Loosens.refl {α : Type} {easier : α → α → Prop} (h : ∀ b, easier b b) (bound : Option α) :
    Loosens easier bound bound :=
  fun b hb => ⟨b, hb, h b⟩

namespace NumberRules

/-- The exact value of the least number allowed; NaN has none and bounds nothing. -/
def least? (rules : Option NumberRules) : Option Number.Line :=
  (rules.bind min).bind Number.value?

/-- The exact value of the greatest number allowed. -/
def greatest? (rules : Option NumberRules) : Option Number.Line :=
  (rules.bind max).bind Number.value?

end NumberRules

open Validation in
/-- A kind of field asks no more on one day than another of the same type does on another day. -/
def FieldKind.Relaxes (zone : Int) (day day' : Date) : FieldKind → FieldKind → Prop
  | text loose, text strict =>
    Loosens (· ≤ ·) (loose.bind TextRules.minLength) (strict.bind TextRules.minLength) ∧
      Loosens (· ≥ ·) (loose.bind TextRules.maxLength) (strict.bind TextRules.maxLength) ∧
      Loosens (· = ·) (loose.bind TextRules.pattern) (strict.bind TextRules.pattern)
  | textarea loose, textarea strict =>
    Loosens (· ≤ ·) (loose.bind TextareaRules.minLength) (strict.bind TextareaRules.minLength) ∧
      Loosens (· ≥ ·) (loose.bind TextareaRules.maxLength) (strict.bind TextareaRules.maxLength)
  | number loose, number strict =>
    Loosens (· ≤ ·) (NumberRules.least? loose) (NumberRules.least? strict) ∧
      Loosens (· ≥ ·) (NumberRules.greatest? loose) (NumberRules.greatest? strict)
  | select loose, select strict => strict ⊆ loose
  | multiSelect loose looseRules, multiSelect strict strictRules =>
    strict ⊆ loose ∧
      Loosens (· ≤ ·) (looseRules.bind SelectionRules.minSelected)
        (strictRules.bind SelectionRules.minSelected) ∧
      Loosens (· ≥ ·) (looseRules.bind SelectionRules.maxSelected)
        (strictRules.bind SelectionRules.maxSelected)
  | date loose, date strict =>
    Loosens Date.NotAfter (earliest? zone day loose) (earliest? zone day' strict)
  | switch, switch => True
  | _, _ => False

structure Field.Relaxes (zone : Int) (day day' : Date) (loose strict : Field) : Prop where
  name : loose.name = strict.name
  required : loose.required = true → strict.required = true
  kind : loose.kind.Relaxes zone day day' strict.kind

def Schema.Relaxes (zone : Int) (day day' : Date) (loose strict : Schema) : Prop :=
  ∀ f ∈ loose.fields, ∃ g ∈ strict.fields, f.Relaxes zone day day' g

namespace Validation

variable {zone : Int} {day day' : Date} {v : Json}

def Breaks (v : Json) (rules : List Rule) : Prop :=
  ∃ r ∈ rules, r.Broken v

theorem breaks_cons {r : Rule} {rules : List Rule} :
    Breaks v (r :: rules) ↔ r.Broken v ∨ Breaks v rules := by
  simp only [Breaks, List.mem_cons, exists_eq_or_imp]

theorem breaks_append {first second : List Rule} :
    Breaks v (first ++ second) ↔ Breaks v first ∨ Breaks v second := by
  simp only [Breaks, List.mem_append, or_and_right, exists_or]

theorem breaks_bound {α : Type} {bound : Option α} {rule : α → Rule} :
    Breaks v (bound.toList.map rule) ↔ ∃ b ∈ bound, (rule b).Broken v := by
  simp [Breaks]

theorem breaks_unlessVacant {rules : List Rule} :
    Breaks v (rules.map Rule.unlessVacant) ↔ ¬ Vacant v ∧ Breaks v rules := by
  simp only [Breaks, List.mem_map, exists_exists_and_eq_and, Rule.unlessVacant]
  constructor
  · rintro ⟨r, hr, hvacant, hbroken⟩
    exact ⟨hvacant, r, hr, hbroken⟩
  · rintro ⟨hvacant, r, hr, hbroken⟩
    exact ⟨r, hr, hvacant, hbroken⟩

/-- A rule with an easier bound is broken only where one with the harder bound is. -/
theorem breaks_of_loosens {α : Type} {easier : α → α → Prop} {loose strict : Option α}
    {rule : α → Rule} (h : Loosens easier loose strict)
    (hrule : ∀ b c, easier b c → (rule b).Broken v → (rule c).Broken v)
    (hbreaks : Breaks v (loose.toList.map rule)) : Breaks v (strict.toList.map rule) := by
  obtain ⟨b, hb, hbroken⟩ := breaks_bound.1 hbreaks
  obtain ⟨c, hc, heasier⟩ := h b hb
  exact breaks_bound.2 ⟨c, hc, hrule b c heasier hbroken⟩

/-! ## The rules of a relaxed kind -/

theorem ofText_mono {w w' : Violation} {Bad Bad' : Text → Prop} (h : ∀ t, Bad t → Bad' t)
    (hbroken : (Rule.ofText w Bad).Broken v) : (Rule.ofText w' Bad').Broken v := by
  obtain ⟨t, ht, hbad⟩ := hbroken
  exact ⟨t, ht, h t hbad⟩

theorem ofItems_mono {w w' : Violation} {Bad Bad' : List Json → Prop} (h : ∀ t, Bad t → Bad' t)
    (hbroken : (Rule.ofItems w Bad).Broken v) : (Rule.ofItems w' Bad').Broken v := by
  obtain ⟨items, hitems, hbad⟩ := hbroken
  exact ⟨items, hitems, h items hbad⟩

theorem textRules_eq (rules : Option TextRules) :
    textRules rules = Rule.isText .notText ::
      (lengthRules (rules.bind TextRules.minLength) (rules.bind TextRules.maxLength) ++
        (rules.bind TextRules.pattern).toList.map Rule.matching) := by
  cases rules <;> rfl

theorem textareaRules_eq (rules : Option TextareaRules) :
    textareaRules rules = Rule.isText .notText ::
      lengthRules (rules.bind TextareaRules.minLength) (rules.bind TextareaRules.maxLength) := by
  cases rules <;> rfl

theorem numberRules_eq (rules : Option NumberRules) :
    numberRules rules = Rule.isNumber :: ((rules.bind NumberRules.min).toList.map Rule.least ++
      (rules.bind NumberRules.max).toList.map Rule.greatest) := by
  cases rules <;> rfl

theorem selectionRules_eq (rules : Option SelectionRules) :
    selectionRules rules = (rules.bind SelectionRules.minSelected).toList.map Rule.minSelected ++
      (rules.bind SelectionRules.maxSelected).toList.map Rule.maxSelected := by
  cases rules <;> rfl

theorem breaks_lengthRules_of_loosens {least least' greatest greatest' : Option Nat}
    (hleast : Loosens (· ≤ ·) least least') (hgreatest : Loosens (· ≥ ·) greatest greatest')
    (h : Breaks v (lengthRules least greatest)) : Breaks v (lengthRules least' greatest') := by
  rw [lengthRules, breaks_append] at h ⊢
  refine h.imp (breaks_of_loosens hleast fun b c hle => ?_)
    (breaks_of_loosens hgreatest fun b c hle => ?_)
  · exact ofText_mono fun t ht => Nat.lt_of_lt_of_le ht hle
  · exact ofText_mono fun t ht => Nat.lt_of_le_of_lt hle ht

theorem breaks_selectionRules_of_loosens {rules rules' : Option SelectionRules}
    (hleast : Loosens (· ≤ ·) (rules.bind SelectionRules.minSelected)
      (rules'.bind SelectionRules.minSelected))
    (hgreatest : Loosens (· ≥ ·) (rules.bind SelectionRules.maxSelected)
      (rules'.bind SelectionRules.maxSelected))
    (h : Breaks v (selectionRules rules)) : Breaks v (selectionRules rules') := by
  rw [selectionRules_eq, breaks_append] at h ⊢
  refine h.imp (breaks_of_loosens hleast fun b c hle => ?_)
    (breaks_of_loosens hgreatest fun b c hle => ?_)
  · exact ofItems_mono fun items hitems => ⟨hitems.1, Nat.lt_of_lt_of_le hitems.2 hle⟩
  · exact ofItems_mono fun items hitems => Nat.lt_of_le_of_lt hle hitems

theorem breaks_least_iff {rules : Option NumberRules} :
    Breaks v ((rules.bind NumberRules.min).toList.map Rule.least) ↔
      ∃ x a, Number.ofJson? v = some x ∧ x.value? = some a ∧
        ∃ b ∈ NumberRules.least? rules, a < b := by
  rw [breaks_bound]
  constructor
  · rintro ⟨bound, hbound, x, hx, a, b, ha, hb, hlt⟩
    exact ⟨x, a, hx, ha, b, Option.bind_eq_some_iff.2 ⟨bound, hbound, hb⟩, hlt⟩
  · rintro ⟨x, a, hx, ha, b, hb, hlt⟩
    obtain ⟨bound, hbound, hb⟩ := Option.bind_eq_some_iff.1 hb
    exact ⟨bound, hbound, x, hx, a, b, ha, hb, hlt⟩

theorem breaks_greatest_iff {rules : Option NumberRules} :
    Breaks v ((rules.bind NumberRules.max).toList.map Rule.greatest) ↔
      ∃ x a, Number.ofJson? v = some x ∧ x.value? = some a ∧
        ∃ b ∈ NumberRules.greatest? rules, b < a := by
  rw [breaks_bound]
  constructor
  · rintro ⟨bound, hbound, x, hx, b, a, hb, ha, hlt⟩
    exact ⟨x, a, hx, ha, b, Option.bind_eq_some_iff.2 ⟨bound, hbound, hb⟩, hlt⟩
  · rintro ⟨x, a, hx, ha, b, hb, hlt⟩
    obtain ⟨bound, hbound, hb⟩ := Option.bind_eq_some_iff.1 hb
    exact ⟨bound, hbound, x, hx, b, a, hb, ha, hlt⟩

theorem breaks_numberRules_of_loosens {rules rules' : Option NumberRules}
    (hleast : Loosens (· ≤ ·) (NumberRules.least? rules) (NumberRules.least? rules'))
    (hgreatest : Loosens (· ≥ ·) (NumberRules.greatest? rules) (NumberRules.greatest? rules'))
    (h : Breaks v (numberRules rules)) : Breaks v (numberRules rules') := by
  rw [numberRules_eq, breaks_cons, breaks_append, breaks_least_iff, breaks_greatest_iff] at h ⊢
  refine h.imp_right (Or.imp ?_ ?_)
  · rintro ⟨x, a, hx, ha, b, hb, hlt⟩
    obtain ⟨c, hc, hle⟩ := hleast b hb
    exact ⟨x, a, hx, ha, c, hc, lt_of_lt_of_le hlt hle⟩
  · rintro ⟨x, a, hx, ha, b, hb, hlt⟩
    obtain ⟨c, hc, hle⟩ := hgreatest b hb
    exact ⟨x, a, hx, ha, c, hc, lt_of_le_of_lt hle hlt⟩

theorem isOption_mono {options options' : List Text} (h : options' ⊆ options)
    (hbroken : (Rule.isOption options).Broken v) : (Rule.isOption options').Broken v :=
  ofText_mono (fun _ ht hmem => ht (h hmem)) hbroken

theorem onlyOptions_mono {options options' : List Text} (h : options' ⊆ options)
    (hbroken : (Rule.onlyOptions options).Broken v) : (Rule.onlyOptions options').Broken v :=
  ofItems_mono (fun _ ⟨t, ht, hnot⟩ => ⟨t, ht, fun hmem => hnot (h hmem)⟩) hbroken

theorem selected_mono {required required' : Bool} (h : required = true → required' = true)
    (hbroken : (Rule.selected required).Broken v) : (Rule.selected required').Broken v :=
  ofItems_mono (fun _ ⟨hnil, hrequired⟩ => ⟨hnil, h hrequired⟩) hbroken

/-- A value that breaks a rule of the relaxed kind breaks one of the strict kind. -/
theorem breaks_kindRules_of_relaxes {loose strict : FieldKind} {required required' : Bool}
    (h : loose.Relaxes zone day day' strict) (hrequired : required = true → required' = true)
    (hbreaks : Breaks v (kindRules zone day required loose)) :
    Breaks v (kindRules zone day' required' strict) := by
  match loose, strict, h with
  | .text rules, .text rules', ⟨hleast, hgreatest, hpattern⟩ =>
      simp only [kindRules, textRules_eq, breaks_cons, breaks_append] at hbreaks ⊢
      refine hbreaks.imp_right (Or.imp (breaks_lengthRules_of_loosens hleast hgreatest)
        (breaks_of_loosens hpattern fun b c hsame hbroken => ?_))
      exact hsame ▸ hbroken
  | .textarea rules, .textarea rules', ⟨hleast, hgreatest⟩ =>
      simp only [kindRules, textareaRules_eq, breaks_cons] at hbreaks ⊢
      exact hbreaks.imp_right (breaks_lengthRules_of_loosens hleast hgreatest)
  | .number rules, .number rules', ⟨hleast, hgreatest⟩ =>
      exact breaks_numberRules_of_loosens hleast hgreatest hbreaks
  | .select options, .select options', hoptions =>
      simp only [kindRules, selectRules, breaks_cons] at hbreaks ⊢
      exact hbreaks.imp_right (Or.imp_left (isOption_mono hoptions))
  | .multiSelect options rules, .multiSelect options' rules', ⟨hoptions, hleast, hgreatest⟩ =>
      simp only [kindRules, multiSelectRules, List.cons_append, List.nil_append,
        breaks_cons] at hbreaks ⊢
      exact hbreaks.imp_right (Or.imp (selected_mono hrequired) (Or.imp_right
        (Or.imp (onlyOptions_mono hoptions) (breaks_selectionRules_of_loosens hleast hgreatest))))
  | .date rules, .date rules', hearliest =>
      simp only [kindRules, dateRules, List.cons_append, List.nil_append,
        breaks_cons] at hbreaks ⊢
      refine hbreaks.imp_right (Or.imp_right (breaks_of_loosens hearliest fun b c hle => ?_))
      exact ofText_mono fun t ⟨d, hd, hbefore⟩ => ⟨d, hd, Date.before_of_notAfter hle hbefore⟩
  | .switch, .switch, _ => exact hbreaks

/-! ## The rules of a relaxed field -/

theorem isSwitch_of_relaxes {loose strict : FieldKind} (h : loose.Relaxes zone day day' strict) :
    loose = .switch ↔ strict = .switch := by
  cases loose <;> cases strict <;> simp_all [FieldKind.Relaxes]

/-- A value that breaks a rule of the relaxed field breaks one of the strict field. -/
theorem breaks_fieldRules_of_relaxes {loose strict : Field}
    (h : loose.Relaxes zone day day' strict) (hbreaks : Breaks v (fieldRules zone day loose)) :
    Breaks v (fieldRules zone day' strict) := by
  have hswitch := isSwitch_of_relaxes h.kind
  unfold fieldRules at hbreaks ⊢
  by_cases hstrict : strict.required = true ∧ strict.kind = .switch
  · rw [if_pos hstrict]
    by_cases hloose : loose.required = true ∧ loose.kind = .switch
    · rwa [if_pos hloose] at hbreaks
    · -- an optional switch asks for a truth value, a required one for the right one
      rw [if_neg hloose, hswitch.2 hstrict.2, breaks_cons, breaks_unlessVacant] at hbreaks
      rcases hbreaks with ⟨-, hrequired⟩ | ⟨-, r, hr, hbroken⟩
      · exact absurd ⟨hrequired, hswitch.2 hstrict.2⟩ hloose
      · rw [List.mem_singleton.1 hr] at hbroken
        exact ⟨_, List.mem_singleton_self _, hbroken true⟩
  · have hloose : ¬ (loose.required = true ∧ loose.kind = .switch) :=
      fun ⟨hrequired, hkind⟩ => hstrict ⟨h.required hrequired, hswitch.1 hkind⟩
    rw [if_neg hloose, breaks_cons, breaks_unlessVacant] at hbreaks
    rw [if_neg hstrict, breaks_cons, breaks_unlessVacant]
    exact hbreaks.imp (fun ⟨hvacant, hrequired⟩ => ⟨hvacant, h.required hrequired⟩)
      fun ⟨hvacant, hkind⟩ => ⟨hvacant, breaks_kindRules_of_relaxes h.kind h.required hkind⟩

/-! ## Relaxed forms -/

variable {record : Json}

theorem validateField_of_relaxes {loose strict : Field} (hloose : loose.kind.Checkable zone)
    (hstrict : strict.kind.Checkable zone) (h : loose.Relaxes zone day day' strict)
    (hkept : validateField zone day' strict v = .ok none) :
    validateField zone day loose v = .ok none := by
  rw [validateField_eq_none_iff hstrict] at hkept
  rw [validateField_eq_none_iff hloose]
  intro r hr hbroken
  obtain ⟨q, hq, hbroken⟩ := breaks_fieldRules_of_relaxes h ⟨r, hr, hbroken⟩
  exact hkept q hq hbroken

theorem message?_of_relaxes {loose strict : Field} (hloose : loose.kind.Checkable zone)
    (hstrict : strict.kind.Checkable zone) (h : loose.Relaxes zone day day' strict)
    (hjudged : Judged zone day' record strict) (hmessage : message? zone day record loose ≠ none) :
    message? zone day' record strict ≠ none := by
  intro hnone
  have hfield := validateField_eq_message? hjudged
  rw [hnone] at hfield
  have hvalue : valueFor record loose = valueFor record strict := by
    rw [valueFor, valueFor, h.name]
  apply hmessage
  apply message?_eq
  rw [hvalue]
  exact validateField_of_relaxes hloose hstrict h hfield

/-- Whatever the loose form reports on its day, the strict one reports on its day. -/
structure ReportsNoMore (zone : Int) (day : Date) (loose : Schema) (day' : Date) (strict : Schema)
    (record : Json) : Prop where
  names : ∀ errors errors', validate zone day loose record = .ok errors →
    validate zone day' strict record = .ok errors' → Assoc.keys errors ⊆ Assoc.keys errors'
  valid : validate zone day' strict record = .ok [] → validate zone day loose record = .ok []

theorem reportsNoMore_of_relaxes {loose strict : Schema} (hloose : loose.fieldNames.Nodup)
    (hstrict : strict.fieldNames.Nodup) (hcheck : ∀ f ∈ loose.fields, f.kind.Checkable zone)
    (hcheck' : ∀ g ∈ strict.fields, g.kind.Checkable zone)
    (h : loose.Relaxes zone day day' strict) (record : Json) :
    ReportsNoMore zone day loose day' strict record := by
  refine ⟨?_, ?_⟩
  · intro errors errors' herrors herrors' name hname
    obtain ⟨-, rfl⟩ := (validate_eq_ok_iff hloose).1 herrors
    obtain ⟨hjudged, rfl⟩ := (validate_eq_ok_iff hstrict).1 herrors'
    obtain ⟨f, hf, rfl, hmessage⟩ := (mem_keys_errorsOf_iff name).1 hname
    obtain ⟨g, hg, hrelaxes⟩ := h f hf
    exact (mem_keys_errorsOf_iff f.name).2 ⟨g, hg, hrelaxes.name.symm,
      message?_of_relaxes (hcheck f hf) (hcheck' g hg) hrelaxes (hjudged g hg) hmessage⟩
  · intro hvalid
    rw [validate_eq_nil_iff hstrict] at hvalid
    rw [validate_eq_nil_iff hloose]
    intro f hf
    obtain ⟨g, hg, hrelaxes⟩ := h f hf
    have hvalue : valueFor record f = valueFor record g := by
      rw [valueFor, valueFor, hrelaxes.name]
    rw [hvalue]
    exact validateField_of_relaxes (hcheck f hf) (hcheck' g hg) hrelaxes (hvalid g hg)

end Validation

/-! ## Earlier days, fewer fields -/

open Validation

theorem earliest?_loosens {day day' : Date} (h : day.NotAfter day') (zone : Int)
    (rules : Option DateRules) :
    Loosens Date.NotAfter (earliest? zone day rules) (earliest? zone day' rules) := by
  unfold earliest?
  cases rules.bind DateRules.minDate with
  | none => exact Loosens.refl Date.notAfter_refl none
  | some bound =>
      cases bound with
      | today =>
          intro b hb
          rw [← Option.some.inj hb]
          exact ⟨day', rfl, h⟩
      | text t => exact Loosens.refl Date.notAfter_refl (Calendar.readDay? zone t)

theorem FieldKind.relaxes_self {day day' : Date} (h : day.NotAfter day') (zone : Int)
    (kind : FieldKind) : kind.Relaxes zone day day' kind := by
  have hleast : ∀ bound : Option Nat, Loosens (· ≤ ·) bound bound := Loosens.refl Nat.le_refl
  have hgreatest : ∀ bound : Option Nat, Loosens (· ≥ ·) bound bound := Loosens.refl Nat.le_refl
  have hvalues : ∀ bound : Option Number.Line, Loosens (· ≥ ·) bound bound :=
    Loosens.refl fun _ => le_refl _
  cases kind with
  | text rules => exact ⟨hleast _, hgreatest _, Loosens.refl (fun _ => rfl) _⟩
  | textarea rules => exact ⟨hleast _, hgreatest _⟩
  | number rules => exact ⟨Loosens.refl le_refl _, hvalues _⟩
  | select options => exact List.Subset.refl options
  | multiSelect options rules => exact ⟨List.Subset.refl options, hleast _, hgreatest _⟩
  | date rules => exact earliest?_loosens h zone rules
  | switch => trivial

def Field.eased (chosen : Field → Bool) (f : Field) : Field :=
  if chosen f then { f with required := false } else f

theorem Field.eased_name (chosen : Field → Bool) (f : Field) : (f.eased chosen).name = f.name := by
  unfold eased
  split <;> rfl

theorem Field.eased_kind (chosen : Field → Bool) (f : Field) : (f.eased chosen).kind = f.kind := by
  unfold eased
  split <;> rfl

theorem Field.eased_relaxes {day day' : Date} (h : day.NotAfter day') (zone : Int)
    (chosen : Field → Bool) (f : Field) : (f.eased chosen).Relaxes zone day day' f := by
  refine ⟨f.eased_name chosen, ?_, ?_⟩
  · unfold eased
    split
    · intro hfalse
      cases hfalse
    · exact id
  · rw [f.eased_kind chosen]
    exact f.kind.relaxes_self h zone

def Schema.eased (title : Text) (kept : List Field) (chosen : Field → Bool) : Schema :=
  ⟨title, kept.map (Field.eased chosen)⟩

theorem Schema.eased_fieldNames (title : Text) (kept : List Field) (chosen : Field → Bool) :
    (eased title kept chosen).fieldNames = kept.map Field.name := by
  simp only [eased, fieldNames, List.map_map]
  exact List.map_congr_left fun f _ => f.eased_name chosen

namespace Validation

/-- A form that relaxes another one reports nothing that the other does not report. So a record
that is valid stays valid on an earlier day, and when fields are dropped or made optional. -/
theorem relaxed_form_reports_no_more {zone : Int} {doc : Json} {strict : Schema}
    (h : Form.readSchema zone doc = .accepted strict) {day day' : Date} (hday : day.NotAfter day')
    (record : Json) :
    (∀ doc' loose, Form.readSchema zone doc' = .accepted loose →
      loose.Relaxes zone day day' strict →
        ReportsNoMore zone day loose day' strict record ∧
        (doc.integerDigits ≤ Numeral.digitLimit → doc'.integerDigits ≤ Numeral.digitLimit →
          ∃ errors errors', validate zone day loose record = .ok errors ∧
            validate zone day' strict record = .ok errors')) ∧
      ReportsNoMore zone day strict day' strict record ∧
      ∀ title kept chosen, kept.Sublist strict.fields →
        ReportsNoMore zone day (.eased title kept chosen) day' strict record := by
  have hnames : strict.fieldNames.Nodup := (Form.wellFormed_of_readSchema h).names
  have hcheck : ∀ f ∈ strict.fields, f.kind.Checkable zone :=
    fun f hf => Form.checkable_of_readSchema h hf
  refine ⟨?_, ?_, ?_⟩
  · intro doc' loose h' hrelaxes
    have hcheck' : ∀ f ∈ loose.fields, f.kind.Checkable zone :=
      fun f hf => Form.checkable_of_readSchema h' hf
    refine ⟨reportsNoMore_of_relaxes (Form.wellFormed_of_readSchema h').names hnames hcheck' hcheck
      hrelaxes record, ?_⟩
    intro hdigits hdigits'
    obtain ⟨errors, herrors, -⟩ := validate_spec hcheck'
      (fun f hf => Form.nameable_of_readSchema h' hdigits' hf) day record
    obtain ⟨errors', herrors', -⟩ := validate_spec hcheck
      (fun f hf => Form.nameable_of_readSchema h hdigits hf) day' record
    exact ⟨errors, errors', herrors, herrors'⟩
  · exact reportsNoMore_of_relaxes hnames hnames hcheck hcheck
      (fun f hf => ⟨f, hf, rfl, id, f.kind.relaxes_self hday zone⟩) record
  · intro title kept chosen hkept
    apply reportsNoMore_of_relaxes _ hnames _ hcheck
    · intro f hf
      obtain ⟨g, hg, rfl⟩ := List.mem_map.1 hf
      exact ⟨g, hkept.subset hg, g.eased_relaxes hday zone chosen⟩
    · rw [Schema.eased_fieldNames]
      exact hnames.sublist (hkept.map Field.name)
    · intro f hf
      obtain ⟨g, hg, rfl⟩ := List.mem_map.1 hf
      rw [g.eased_kind chosen]
      exact hcheck g (hkept.subset hg)

def bookingForm : Schema where
  title := "Booking"
  fields :=
    [⟨"terms", "Terms", true, .switch⟩,
      ⟨"guests", "Guests", true, .number (some ⟨some (.int 2), none⟩)⟩,
      ⟨"arrival", "Arrival", true, .date (some ⟨some .today⟩)⟩]

/-- The booking form with a lower bound, an upper bound that is none, and an optional switch. -/
def easyBookingForm : Schema where
  title := "Easy booking"
  fields :=
    [⟨"arrival", "Day of arrival", true, .date (some ⟨some .today⟩)⟩,
      ⟨"guests", "Guests", true, .number (some ⟨some (.int 1), some (.double .nan)⟩)⟩,
      ⟨"terms", "Terms", false, .switch⟩]

theorem easyBooking_relaxes {day day' : Date} (h : day.NotAfter day') :
    easyBookingForm.Relaxes 0 day day' bookingForm := by
  have hguests : Loosens (· ≤ ·) (NumberRules.least? (some ⟨some (.int 1), some (.double .nan)⟩))
      (NumberRules.least? (some ⟨some (.int 2), none⟩)) := by
    intro b hb
    refine ⟨_, rfl, ?_⟩
    rw [← Option.some.inj hb]
    apply WithBot.coe_le_coe.2
    apply WithTop.coe_le_coe.2
    norm_num
  have hnan : Loosens (· ≥ ·)
      (NumberRules.greatest? (some ⟨some (.int 1), some (.double .nan)⟩))
      (NumberRules.greatest? (some ⟨some (.int 2), none⟩)) := by
    intro b hb
    cases hb
  simp only [Schema.Relaxes, easyBookingForm, bookingForm, List.forall_mem_cons]
  refine ⟨⟨_, List.mem_cons_of_mem _ (List.mem_cons_of_mem _ List.mem_cons_self), ?_⟩,
    ⟨_, List.mem_cons_of_mem _ List.mem_cons_self, ?_⟩, ⟨_, List.mem_cons_self, ?_⟩,
    fun _ hf => absurd hf List.not_mem_nil⟩
  · exact ⟨rfl, id, earliest?_loosens h 0 _⟩
  · exact ⟨rfl, id, hguests, hnan⟩
  · exact ⟨rfl, fun hfalse => absurd hfalse (by decide), trivial⟩

theorem bookingForm_wellFormed : bookingForm.WellFormed 0 := by
  refine ⟨by decide, ?_⟩
  simp only [bookingForm, List.forall_mem_cons, List.not_mem_nil, false_implies, implies_true,
    and_true]
  refine ⟨⟨by decide, by decide, trivial⟩, ⟨by decide, by decide, trivial⟩,
    ⟨by decide, by decide, ?_⟩⟩
  intro bound hbound
  rw [← Option.mem_some.1 hbound]
  trivial

theorem easyBookingForm_wellFormed : easyBookingForm.WellFormed 0 := by
  refine ⟨by decide, ?_⟩
  simp only [easyBookingForm, List.forall_mem_cons, List.not_mem_nil, false_implies, implies_true,
    and_true]
  refine ⟨⟨by decide, by decide, ?_⟩, ⟨by decide, by decide, trivial⟩,
    ⟨by decide, by decide, trivial⟩⟩
  intro bound hbound
  rw [← Option.mem_some.1 hbound]
  trivial

theorem easy_booking_reports_no_more :
    Form.readSchema 0 bookingForm.document = .accepted bookingForm ∧
      Date.NotAfter ⟨2026, 10, 18, by decide⟩ ⟨2026, 10, 19, by decide⟩ ∧
      ∀ record, ReportsNoMore 0 ⟨2026, 10, 18, by decide⟩ easyBookingForm
        ⟨2026, 10, 19, by decide⟩ bookingForm record := by
  have hread := Form.readSchema_document bookingForm_wellFormed
  have hread' := Form.readSchema_document easyBookingForm_wellFormed
  have hday : Date.NotAfter ⟨2026, 10, 18, by decide⟩ ⟨2026, 10, 19, by decide⟩ := by
    rw [Date.NotAfter, ← Date.lt_iff_before]
    decide
  refine ⟨hread, hday, ?_⟩
  intro record
  exact ((relaxed_form_reports_no_more hread hday record).1 _ _ hread'
    (easyBooking_relaxes hday)).1

end Validation

end FormIntake
