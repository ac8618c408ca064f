import FormIntake.Proofs.Validation.Fields
/-!
# Records

A record is valid if the values of its fields break no rules. The fields are
checked one after the other; whatever has been found before, a field adds an
error if and only if its value breaks a rule.
-/

namespace FormIntake.Validation

/-- What a record holds for a field; nothing is the same as null. -/
def valueFor (record : Json) (f : Field) : Json :=
  (record.get? f.name).getD .null

def Keeps (zone : Int) (today : Date) (record : Json) (f : Field) : Prop :=
  ∀ r ∈ fieldRules zone today f, ¬ r.Broken (valueFor record f)

theorem put_ne_nil (errors : Errors) (name message : Text) :
    Assoc.put errors name message ≠ [] := by
  match errors with
  | [] => simp [Assoc.put]
  | (k, v) :: rest =>
      simp only [Assoc.put]
      split <;> simp

/-- A field that can be checked, and whose bounds can be named, has a message about every value
that breaks one of its rules. -/
theorem validateField_spec {zone : Int} {f : Field} (hcheck : f.kind.Checkable zone)
    (hname : f.kind.Nameable) (today : Date) (v : Json) :
    ∃ o, Judges v (fieldRules zone today f) o ∧
      validateField zone today f v = .ok (o.map (Violation.message f.label)) := by
  obtain ⟨o, -, hjudges⟩ := violation_judges hcheck today v
  refine ⟨o, hjudges, ?_⟩
  rw [validateField_of_judges hcheck hjudges]
  cases o with
  | none => rfl
  | some w =>
      have hw : FirstBroken v (fieldRules zone today f) w := hjudges
      obtain ⟨r, hr, rfl⟩ := hw.exists_violation
      rw [report, if_pos (nameable_of_mem_fieldRules hname hr)]
      rfl

/-- A field that can be checked adds an error exactly if a rule of it is broken. -/
theorem collect_spec {zone : Int} {f : Field} (hcheck : f.kind.Checkable zone)
    (hname : f.kind.Nameable) (today : Date) (record : Json) (errors : Errors) :
    ∃ next, collect zone today record errors f = .ok next ∧
      (next = [] ↔ errors = [] ∧ Keeps zone today record f) := by
  obtain ⟨o, hjudges, hfield⟩ := validateField_spec hcheck hname today (valueFor record f)
  unfold collect
  rw [valueFor] at hfield
  rw [hfield]
  cases o with
  | none =>
      refine ⟨errors, rfl, ?_⟩
      constructor
      · intro hnil
        exact ⟨hnil, hjudges⟩
      · intro h
        exact h.1
  | some w =>
      have hw : FirstBroken (valueFor record f) (fieldRules zone today f) w := hjudges
      refine ⟨_, rfl, ?_⟩
      constructor
      · intro hnil
        exact absurd hnil (put_ne_nil _ _ _)
      · intro h
        obtain ⟨r, hr, hbroken⟩ := hw.exists_broken
        exact absurd hbroken (h.2 r hr)

theorem foldlM_collect_spec {zone : Int} {fields : List Field}
    (hcheck : ∀ f ∈ fields, f.kind.Checkable zone) (hname : ∀ f ∈ fields, f.kind.Nameable)
    (today : Date) (record : Json) (errors : Errors) :
    ∃ result, fields.foldlM (collect zone today record) errors = .ok result ∧
      (result = [] ↔ errors = [] ∧ ∀ f ∈ fields, Keeps zone today record f) := by
  induction fields generalizing errors with
  | nil => exact ⟨errors, rfl, by simp⟩
  | cons f rest ih =>
      obtain ⟨next, hnext, hiff⟩ := collect_spec (hcheck f List.mem_cons_self)
        (hname f List.mem_cons_self) today record errors
      obtain ⟨result, hresult, hrest⟩ := ih
        (fun g hg => hcheck g (List.mem_cons_of_mem _ hg))
        (fun g hg => hname g (List.mem_cons_of_mem _ hg)) next
      refine ⟨result, ?_, ?_⟩
      · rw [List.foldlM_cons, hnext]
        exact hresult
      · rw [hrest, hiff, List.forall_mem_cons, and_assoc]

/-- Checking a record ends with its errors, and there are none exactly if every field keeps its
rules. -/
theorem validate_spec {zone : Int} {schema : Schema}
    (hcheck : ∀ f ∈ schema.fields, f.kind.Checkable zone)
    (hname : ∀ f ∈ schema.fields, f.kind.Nameable) (today : Date) (record : Json) :
    ∃ errors, validate zone today schema record = .ok errors ∧
      (errors = [] ↔ ∀ f ∈ schema.fields, Keeps zone today record f) := by
  obtain ⟨errors, herrors, hiff⟩ := foldlM_collect_spec hcheck hname today record []
  refine ⟨errors, herrors, ?_⟩
  rw [hiff]
  exact and_iff_right rfl

end FormIntake.Validation
