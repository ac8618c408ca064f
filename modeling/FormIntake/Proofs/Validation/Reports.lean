import FormIntake.Proofs.Form.RoundTrip
import FormIntake.Proofs.Text.Surrogates
import FormIntake.Proofs.Validation.Records
/-!
# What is reported about a record

A form that was read from a document reports on every record on every day. What
its fields need to be checked was settled when they were read; only a bound
beyond the digit limit can still keep a message from being written. All that is
reported are messages of the fields, and they have an encoding if the options
of the fields have one.
-/

namespace FormIntake

/-! ## Bounds -/

namespace FieldKind

def counts (bound : Option Nat) : List Number :=
  bound.toList.map fun (n : Nat) => Number.int n

def bounds : FieldKind → List Number
  | text (some rules) => counts rules.minLength ++ counts rules.maxLength
  | textarea (some rules) => counts rules.minLength ++ counts rules.maxLength
  | number (some rules) => rules.min.toList ++ rules.max.toList
  | multiSelect _ (some rules) => counts rules.minSelected ++ counts rules.maxSelected
  | _ => []

theorem fit_of_counts {bound : Option Nat} (h : ∀ x ∈ counts bound, x.isWritable = true) :
    Fit bound := by
  intro n hn
  exact h (.int n) (List.mem_map_of_mem (Option.mem_toList.2 hn))

theorem nameable_of_bounds {kind : FieldKind} (h : ∀ x ∈ kind.bounds, x.isWritable = true) :
    kind.Nameable := by
  match kind with
  | text none | textarea none | number none | multiSelect _ none => trivial
  | select _ | date _ | switch => trivial
  | text (some rules) | textarea (some rules) | multiSelect _ (some rules) =>
      obtain ⟨hleast, hgreatest⟩ := List.forall_mem_append.1 h
      exact ⟨fit_of_counts hleast, fit_of_counts hgreatest⟩
  | number (some rules) =>
      obtain ⟨hleast, hgreatest⟩ := List.forall_mem_append.1 h
      exact ⟨fun x hx => hleast x (Option.mem_toList.2 hx),
        fun x hx => hgreatest x (Option.mem_toList.2 hx)⟩

end FieldKind

/-- Doubles can always be written, and whole numbers with few enough digits. -/
theorem Number.isWritable_of_digits {x : Number}
    (h : ∀ n, x = .int n → (Nat.toDigits 10 n.natAbs).length ≤ Numeral.digitLimit) :
    x.isWritable = true := by
  cases x with
  | int n => exact Numeral.fits_of_length (h n rfl)
  | double x => rfl

/-! ## Messages -/

/-- What a message about the field is put together from has an encoding. -/
structure Field.IsEncodable (f : Field) : Prop where
  name : f.name.hasSurrogate = false
  label : f.label.hasSurrogate = false
  options : ∀ options, f.kind = .select options → ∀ t ∈ options, t.hasSurrogate = false

theorem Violation.hasSurrogate_message {label : Text} {w : Violation}
    (hlabel : label.hasSurrogate = false)
    (hoptions : ∀ options, w = .notAnOption options → ∀ t ∈ options, t.hasSurrogate = false) :
    (w.message label).hasSurrogate = false := by
  cases w with
  | notAnOption options =>
      have hjoined : (Text.joined ", " options).hasSurrogate = false :=
        Text.hasSurrogate_joined (Text.hasSurrogate_ofString ", ") (hoptions options rfl)
      simp only [message, Text.hasSurrogate_append, Text.hasSurrogate_ofString, hlabel, hjoined,
        Bool.or_self]
  | tooSmall bound | tooLarge bound =>
      simp only [message, Text.hasSurrogate_append, Text.hasSurrogate_ofString, hlabel,
        bound.hasSurrogate_display, Bool.or_self]
  | tooEarly earliest =>
      simp only [message, Text.hasSurrogate_append, Text.hasSurrogate_ofString, hlabel,
        earliest.hasSurrogate_text, Bool.or_self]
  | _ =>
      simp only [message, Text.hasSurrogate_append, Text.hasSurrogate_ofString,
        Text.hasSurrogate_ofNat, hlabel, Bool.or_self]

namespace Validation

open Rule

theorem select_of_mem_kindRules {zone : Int} {today : Date} {required : Bool} {kind : FieldKind}
    {r : Rule} (hr : r ∈ kindRules zone today required kind) {options : List Text}
    (h : r.violation = .notAnOption options) : kind = .select options := by
  match kind with
  | .select _ =>
      simp only [kindRules, selectRules, List.mem_cons, List.not_mem_nil, or_false] at hr
      rcases hr with rfl | rfl
      · cases h
      · cases h
        rfl
  | .text none | .textarea none | .number none | .switch =>
      rw [List.mem_singleton.1 hr] at h
      cases h
  | .text (some _) | .textarea (some _) | .number (some _) | .multiSelect _ none
  | .multiSelect _ (some _) | .date _ =>
      exfalso
      simp only [kindRules, textRules, textareaRules, numberRules, multiSelectRules, dateRules,
        selectionRules, lengthRules, List.mem_cons, List.mem_append, List.mem_map,
        List.not_mem_nil, or_false, List.append_nil] at hr
      grind [isText, isNumber, isList, isDay, ofText, ofNumber, ofItems, minLength, maxLength,
        matching, least, greatest, selected, onlyTexts, onlyOptions, minSelected, maxSelected,
        notBefore]

/-- Options are named by selections of one of them only. -/
theorem select_of_notAnOption {zone : Int} {today : Date} {f : Field} {r : Rule}
    (hr : r ∈ fieldRules zone today f) {options : List Text}
    (h : r.violation = .notAnOption options) : f.kind = .select options := by
  unfold fieldRules at hr
  split at hr
  · rw [List.mem_singleton.1 hr] at h
    cases h
  · rcases List.mem_cons.1 hr with rfl | hr
    · cases h
    · obtain ⟨q, hq, rfl⟩ := List.mem_map.1 hr
      exact select_of_mem_kindRules hq h

def IsReport (zone : Int) (today : Date) (f : Field) (error : Text × Text) : Prop :=
  error.1 = f.name ∧ ∃ r ∈ fieldRules zone today f, error.2 = r.violation.message f.label

theorem exists_rule_of_message {zone : Int} {today : Date} {f : Field} {v : Json} {message : Text}
    (hcheck : f.kind.Checkable zone) (h : validateField zone today f v = .ok (some message)) :
    ∃ r ∈ fieldRules zone today f, message = r.violation.message f.label := by
  obtain ⟨o, -, hjudges⟩ := violation_judges hcheck today v
  rw [validateField_of_judges hcheck hjudges] at h
  cases o with
  | none => cases h
  | some w =>
      have hw : FirstBroken v (fieldRules zone today f) w := hjudges
      obtain ⟨r, hr, rfl⟩ := hw.exists_violation
      refine ⟨r, hr, ?_⟩
      rw [report] at h
      split at h
      · exact (Option.some.inj (Except.ok.inj h)).symm
      · cases h

theorem isReport_of_collect {zone : Int} {today : Date} {f : Field} {record : Json}
    {errors next : Errors} (hcheck : f.kind.Checkable zone)
    (h : collect zone today record errors f = .ok next) {error : Text × Text}
    (herror : error ∈ next) : error ∈ errors ∨ IsReport zone today f error := by
  unfold collect at h
  cases hfield : validateField zone today f ((record.get? f.name).getD .null) with
  | error fault =>
      rw [hfield] at h
      cases h
  | ok message? =>
      rw [hfield] at h
      cases message? with
      | none =>
          rw [← Except.ok.inj h] at herror
          exact Or.inl herror
      | some message =>
          rw [← Except.ok.inj h] at herror
          rcases Assoc.eq_or_mem_of_mem_put herror with rfl | hmem
          · exact Or.inr ⟨rfl, exists_rule_of_message hcheck hfield⟩
          · exact Or.inl hmem

theorem isReport_of_foldlM {zone : Int} {today : Date} {fields : List Field} {record : Json}
    {errors result : Errors} (hcheck : ∀ f ∈ fields, f.kind.Checkable zone)
    (h : fields.foldlM (collect zone today record) errors = .ok result) {error : Text × Text}
    (herror : error ∈ result) : error ∈ errors ∨ ∃ f ∈ fields, IsReport zone today f error := by
  induction fields generalizing errors with
  | nil =>
      have heq : errors = result := Except.ok.inj h
      rw [heq]
      exact Or.inl herror
  | cons f rest ih =>
      obtain ⟨hf, hrest⟩ := List.forall_mem_cons.1 hcheck
      rw [List.foldlM_cons] at h
      cases hnext : collect zone today record errors f with
      | error fault =>
          rw [hnext] at h
          cases h
      | ok next =>
          rw [hnext] at h
          rcases ih hrest h with hmem | ⟨g, hg, hreport⟩
          · rcases isReport_of_collect hf hnext hmem with hmem | hreport
            · exact Or.inl hmem
            · exact Or.inr ⟨f, List.mem_cons_self, hreport⟩
          · exact Or.inr ⟨g, List.mem_cons_of_mem _ hg, hreport⟩

/-- Every error in a report was reported by a field. -/
theorem isReport_of_mem {zone : Int} {today : Date} {schema : Schema} {record : Json}
    {errors : Errors} (hcheck : ∀ f ∈ schema.fields, f.kind.Checkable zone)
    (h : validate zone today schema record = .ok errors) {error : Text × Text}
    (herror : error ∈ errors) : ∃ f ∈ schema.fields, IsReport zone today f error := by
  obtain hnil | h := isReport_of_foldlM hcheck h herror
  · cases hnil
  · exact h

theorem IsReport.encodable {zone : Int} {today : Date} {f : Field} {error : Text × Text}
    (h : IsReport zone today f error) (hf : f.IsEncodable) :
    error.1.hasSurrogate = false ∧ error.2.hasSurrogate = false := by
  obtain ⟨hname, r, hr, hmessage⟩ := h
  rw [hname, hmessage]
  refine ⟨hf.name, Violation.hasSurrogate_message hf.label ?_⟩
  intro options hoptions
  exact hf.options options (select_of_notAnOption hr hoptions)

/-! ## Reports -/

/-- A form with a pattern, a bound of as many digits as can be written, and an earliest day that
depends on the zone. -/
def crateForm : Schema where
  title := "Crate"
  fields :=
    [⟨"code", "Code", false, .text (some ⟨none, none, some (Text.ofString "[A-Z]+")⟩)⟩,
      ⟨"count", "Count", false, .number (some ⟨none, some (.int (Nat.pow 10 4299 : Nat))⟩)⟩,
      ⟨"packed", "Packed", false,
        .date (some ⟨some (.text (Text.ofString "2025-03-01T23:30:00-05:00"))⟩)⟩]

/-- A lone surrogate, NaN, and an instant that lies before the first day of the calendar. -/
def oddRecord : Json :=
  .object
    [("code", .str [CodePoint.ofNat 0xD800]), ("count", .number (.double .nan)),
      ("packed", .ofString "0001-01-01T00:00:00+14:00")]

theorem crateForm_wellFormed : crateForm.WellFormed 60 := by
  have hpattern : ∃ p, Pattern.compile (Text.ofString "[A-Z]+") = .ok p := by
    have hok : (Pattern.compile (Text.ofString "[A-Z]+")).isOk = true := by decide +kernel
    cases hread : Pattern.compile (Text.ofString "[A-Z]+") with
    | ok p => exact ⟨p, rfl⟩
    | error e =>
        rw [hread] at hok
        cases hok
  have hday : ∃ day, Calendar.readDay? 60 (Text.ofString "2025-03-01T23:30:00-05:00") =
      some day := by
    exact ⟨⟨2025, 3, 2, by decide⟩, by decide +kernel⟩
  refine ⟨by decide, ?_⟩
  simp only [crateForm, List.forall_mem_cons, List.not_mem_nil, false_implies, implies_true,
    and_true]
  refine ⟨⟨by decide, by decide, ?_⟩, ⟨by decide, by decide, trivial⟩, ⟨by decide, by decide, ?_⟩⟩
  · intro source hsource
    rw [← Option.mem_some.1 hsource]
    exact hpattern
  · intro bound hbound
    rw [← Option.mem_some.1 hbound]
    exact ⟨by decide, hday⟩

end Validation

end FormIntake
