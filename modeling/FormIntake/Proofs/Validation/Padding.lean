import FormIntake.Proofs.Text.Blank
import FormIntake.Validation
/-!
# Padded values

A text given for a number or a date means the same with blanks around it. Each
of the three readings behind the verdict, whether the text is empty, which
number it is and which day, looks only at what is left of it without padding.
-/

namespace FormIntake

section

variable {t u : Text}

theorem Number.ofText?_congr (h : t.strip = u.strip) : Number.ofText? t = Number.ofText? u := by
  simp only [Number.ofText?, h]

theorem Calendar.readDay?_congr (h : t.strip = u.strip) (zone : Int) :
    Calendar.readDay? zone t = Calendar.readDay? zone u := by
  rw [Calendar.readDay?, Calendar.readDay?, h]

end

namespace Validation

variable {zone : Int} {today : Date} {f : Field} {t u : Text}

theorem isEmpty_congr (h : t.strip = u.strip) : isEmpty (.str t) = isEmpty (.str u) := by
  rw [isEmpty, isEmpty, Bool.eq_iff_iff, ← Text.strip_eq_nil_iff, ← Text.strip_eq_nil_iff, h]

/-- Number and date fields look at a text only through these readings. -/
theorem checkKind_congr (hkind : f.kind.type = .number ∨ f.kind.type = .date)
    (h : t.strip = u.strip) :
    checkKind zone today f (.str t) = checkKind zone today f (.str u) := by
  unfold checkKind
  cases hf : f.kind with
  | number rules => simp only [checkNumber, Number.ofJson?, Number.ofText?_congr h]
  | date rules => simp only [checkDate, Calendar.readDay?_congr h zone]
  | text _ | select _ | multiSelect _ _ | textarea _ | switch =>
      rw [hf] at hkind
      rcases hkind with hkind | hkind <;> cases hkind

theorem validateField_congr (hkind : f.kind.type = .number ∨ f.kind.type = .date)
    (h : t.strip = u.strip) :
    validateField zone today f (.str t) = validateField zone today f (.str u) := by
  have hviolation : violation zone today f (.str t) = violation zone today f (.str u) := by
    have hswitch : ¬ (f.required && f.kind = .switch) = true := by
      intro hboth
      rw [of_decide_eq_true (Bool.and_eq_true_iff.1 hboth).2] at hkind
      rcases hkind with hkind | hkind <;> cases hkind
    rw [violation, violation, if_neg hswitch, if_neg hswitch, isEmpty_congr h,
      checkKind_congr hkind h]
  rw [validateField, validateField, hviolation]

/-- Blanks around a text make no difference to what is said about it by a number field or a date
field: not to whether it is empty, nor to the number or the day that it names. -/
theorem padding_never_matters {before after : Text} (hbefore : before.isBlank = true)
    (hafter : after.isBlank = true) (zone : Int) (today : Date) (t : Text) :
    (∀ f : Field, f.kind.type = .number ∨ f.kind.type = .date →
      validateField zone today f (.str (before ++ t ++ after)) =
        validateField zone today f (.str t)) ∧
    isEmpty (.str (before ++ t ++ after)) = isEmpty (.str t) ∧
    Number.ofJson? (.str (before ++ t ++ after)) = Number.ofJson? (.str t) ∧
    Calendar.readDay? zone (before ++ t ++ after) = Calendar.readDay? zone t := by
  have hstrip := Text.strip_padded hbefore hafter t
  refine ⟨?_, isEmpty_congr hstrip, Number.ofText?_congr hstrip,
    Calendar.readDay?_congr hstrip zone⟩
  intro f hkind
  exact validateField_congr hkind hstrip

def dueField : Field :=
  ⟨"due", "Due", true, .date (some ⟨some .today⟩)⟩

def dueDay : Date :=
  ⟨2026, 1, 2, by decide⟩

/-- A wide space and a unit separator in front, a next-line mark and a line break behind, around
a text that has padding of its own. -/
theorem padded_week_day_is_too_early :
    Text.isBlank [0x3000, 0x1F] = true ∧ Text.isBlank [0x85, 0x0A] = true ∧
      dueField.kind.type = .date ∧
      validateField 0 dueDay dueField
          (.str ([0x3000, 0x1F] ++ Text.ofString " 2026-W01-1 " ++ [0x85, 0x0A])) =
        .ok (some "Due cannot be earlier than 2026-01-02.") := by
  have hbefore : Text.isBlank [0x3000, 0x1F] = true := by decide
  have hafter : Text.isBlank [0x85, 0x0A] = true := by decide
  obtain ⟨hsame, -⟩ := padding_never_matters hbefore hafter 0 dueDay " 2026-W01-1 "
  refine ⟨hbefore, hafter, rfl, ?_⟩
  rw [hsame dueField (Or.inr rfl)]
  rfl

end Validation

end FormIntake
