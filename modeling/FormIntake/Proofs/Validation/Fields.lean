import FormIntake.Form.Onboarding
import FormIntake.Proofs.Validation.Checks
/-!
# Fields of accepted forms

A field of a form that was read from a document takes exactly the values that
break none of its rules, and the message about any other value is that of the
first rule it breaks. The one thing that can come instead of a message is the
refusal to write a bound beyond the digit limit, and no document whose own
numbers keep to the limit leads to it.
-/

namespace FormIntake.Validation

open FieldKind

/-! ## Bounds that can be named -/

theorem nameable_of_mem_bound {α : Type} {bound : Option α} (rule : α → Rule)
    (h : ∀ a ∈ bound, (rule a).violation.isNameable = true) {r : Rule}
    (hr : r ∈ bound.toList.map rule) : r.violation.isNameable = true := by
  obtain ⟨a, ha, rfl⟩ := List.mem_map.1 hr
  exact h a (Option.mem_toList.1 ha)

theorem nameable_of_mem_lengthRules {least greatest : Option Nat} (hleast : Fit least)
    (hgreatest : Fit greatest) {r : Rule} (hr : r ∈ lengthRules least greatest) :
    r.violation.isNameable = true := by
  rcases List.mem_append.1 hr with hr | hr
  · exact nameable_of_mem_bound Rule.minLength hleast hr
  · exact nameable_of_mem_bound Rule.maxLength hgreatest hr

theorem nameable_of_mem_kindRules {zone : Int} {today : Date} {required : Bool}
    {kind : FieldKind} (h : kind.Nameable) {r : Rule}
    (hr : r ∈ kindRules zone today required kind) : r.violation.isNameable = true := by
  match kind with
  | .text none | .textarea none | .number none | .switch =>
      rw [List.mem_singleton.1 hr]
      rfl
  | .text (some rules) =>
      rcases List.mem_cons.1 hr with rfl | hr
      · rfl
      · rcases List.mem_append.1 hr with hr | hr
        · exact nameable_of_mem_lengthRules h.1 h.2 hr
        · exact nameable_of_mem_bound Rule.matching (fun _ _ => rfl) hr
  | .textarea (some rules) =>
      rcases List.mem_cons.1 hr with rfl | hr
      · rfl
      · exact nameable_of_mem_lengthRules h.1 h.2 hr
  | .number (some rules) =>
      rcases List.mem_cons.1 hr with rfl | hr
      · rfl
      · rcases List.mem_append.1 hr with hr | hr
        · exact nameable_of_mem_bound Rule.least h.1 hr
        · exact nameable_of_mem_bound Rule.greatest h.2 hr
  | .select options =>
      rcases List.mem_cons.1 hr with rfl | hr
      · rfl
      · rw [List.mem_singleton.1 hr]
        rfl
  | .multiSelect options rules? =>
      rcases List.mem_append.1 hr with hr | hr
      · simp only [List.mem_cons, List.not_mem_nil, or_false] at hr
        rcases hr with rfl | rfl | rfl | rfl <;> rfl
      · cases rules? with
        | none => cases hr
        | some rules =>
            rcases List.mem_append.1 hr with hr | hr
            · exact nameable_of_mem_bound Rule.minSelected h.1 hr
            · exact nameable_of_mem_bound Rule.maxSelected h.2 hr
  | .date rules =>
      rcases List.mem_append.1 hr with hr | hr
      · simp only [List.mem_cons, List.not_mem_nil, or_false] at hr
        rcases hr with rfl | rfl <;> rfl
      · exact nameable_of_mem_bound (Rule.notBefore zone) (fun _ _ => rfl) hr

theorem nameable_of_mem_fieldRules {zone : Int} {today : Date} {f : Field}
    (h : f.kind.Nameable) {r : Rule} (hr : r ∈ fieldRules zone today f) :
    r.violation.isNameable = true := by
  unfold fieldRules at hr
  split at hr
  · rw [List.mem_singleton.1 hr]
    rfl
  · rcases List.mem_cons.1 hr with rfl | hr
    · rfl
    · obtain ⟨q, hq, rfl⟩ := List.mem_map.1 hr
      exact nameable_of_mem_kindRules (r := q) h hq

theorem FirstBroken.exists_violation {v : Json} {rules : List Rule} {w : Violation}
    (h : FirstBroken v rules w) : ∃ r ∈ rules, r.violation = w := by
  obtain ⟨r, hr, hviolation, -⟩ := h.exists_rule
  exact ⟨r, hr, hviolation⟩

/-! ## What is said of a value -/

/-- The message about what was found, unless it has to name a bound beyond the digit limit. -/
def report (label : Text) : Option Violation → Except Fault (Option Text)
  | none => .ok none
  | some w => if w.isNameable then .ok (some (w.message label)) else .error .boundTooLong

theorem report_eq_none_iff (label : Text) (o : Option Violation) :
    report label o = .ok none ↔ o = none := by
  cases o with
  | none => simp [report]
  | some w =>
      simp only [report]
      split <;> simp

theorem validateField_of_judges {zone : Int} {today : Date} {f : Field} {v : Json}
    (h : f.kind.Checkable zone) {o : Option Violation}
    (ho : Judges v (fieldRules zone today f) o) :
    validateField zone today f v = report f.label o := by
  obtain ⟨p, hp, hjudges⟩ := violation_judges h today v
  rw [ho.unique hjudges]
  unfold validateField
  rw [hp]
  cases p <;> rfl

theorem validateField_eq_none_iff {zone : Int} {today : Date} {f : Field} {v : Json}
    (h : f.kind.Checkable zone) :
    validateField zone today f v = .ok none ↔ ∀ r ∈ fieldRules zone today f, ¬ r.Broken v := by
  obtain ⟨o, -, hjudges⟩ := violation_judges h today v
  rw [validateField_of_judges h hjudges, report_eq_none_iff]
  constructor
  · intro hnone
    rw [hnone] at hjudges
    exact hjudges
  · intro hkept
    have hnone : Judges v (fieldRules zone today f) none := hkept
    exact hjudges.unique hnone

/-- A field of a form that was read from a document takes a value if no rule is broken;
otherwise it reports the first one that is. -/
theorem validateField_reports_first_broken {zone : Int} {doc : Json} {schema : Schema}
    (h : Form.readSchema zone doc = .accepted schema) {f : Field} (hf : f ∈ schema.fields)
    (today : Date) (v : Json) :
    (validateField zone today f v = .ok none ↔
      ∀ r ∈ fieldRules zone today f, ¬ r.Broken v) ∧
    ∀ w, FirstBroken v (fieldRules zone today f) w →
      (validateField zone today f v =
        if w.isNameable then .ok (some (w.message f.label)) else .error .boundTooLong) ∧
      (doc.integerDigits ≤ Numeral.digitLimit → w.isNameable = true) := by
  have hcheck := Form.checkable_of_readSchema h hf
  refine ⟨validateField_eq_none_iff hcheck, ?_⟩
  intro w hw
  have hjudges : Judges v (fieldRules zone today f) (some w) := hw
  refine ⟨validateField_of_judges hcheck hjudges, ?_⟩
  intro hdigits
  obtain ⟨r, hr, rfl⟩ := hw.exists_violation
  exact nameable_of_mem_fieldRules (Form.nameable_of_readSchema h hdigits hf) hr

def entryDocument : Json :=
  .object
    [("title", .ofString "Entry"),
      ("fields", .arr [.object
        [("name", .ofString "age"), ("label", .ofString "Age"), ("required", .bool true),
          ("type", .ofString "number"),
          ("validations", .object [("min", .ofNat 18), ("max", .ofNat 65)])]])]

theorem entry_reports_age_below_least :
    Form.readSchema 0 entryDocument = .accepted ⟨"Entry", [Onboarding.age]⟩ ∧
      Onboarding.age ∈ [Onboarding.age] ∧
      FirstBroken (.ofNat 17) (fieldRules 0 ⟨2026, 10, 19, by decide⟩ Onboarding.age)
        (.tooSmall (.int 18)) ∧
      validateField 0 ⟨2026, 10, 19, by decide⟩ Onboarding.age (.ofNat 17) =
        .ok (some "Age must be at least 18.") := by
  have hread : Form.readSchema 0 entryDocument = .accepted ⟨"Entry", [Onboarding.age]⟩ := rfl
  have hmem : Onboarding.age ∈ [Onboarding.age] := List.mem_singleton_self _
  have hvacant : ¬ Vacant (.ofNat 17) := by
    simp [Vacant, Json.ofNat, Json.ofInt]
  have hbelow : (Number.int 17).Below (.int 18) := by
    rw [← Number.lt_iff_below]
    decide +kernel
  have hfirst : FirstBroken (.ofNat 17) (fieldRules 0 ⟨2026, 10, 19, by decide⟩ Onboarding.age)
      (.tooSmall (.int 18)) := by
    refine FirstBroken.later (fun h => hvacant h.1) ?_
    refine FirstBroken.later (fun h => h.2 ⟨.int 17, rfl, rfl⟩) ?_
    exact FirstBroken.here ⟨hvacant, .int 17, rfl, hbelow⟩
  have hreport := validateField_reports_first_broken hread hmem ⟨2026, 10, 19, by decide⟩
    (.ofNat 17)
  have hdigits : entryDocument.integerDigits ≤ Numeral.digitLimit := by decide +kernel
  have hmessage : Violation.message Onboarding.age.label (.tooSmall (.int 18)) =
      "Age must be at least 18." := by
    decide +kernel
  refine ⟨hread, hmem, hfirst, ?_⟩
  rw [(hreport.2 _ hfirst).1, if_pos ((hreport.2 _ hfirst).2 hdigits), hmessage]

end FormIntake.Validation
