import FormIntake.Calendar.Date
/-!
# The order of days

Days are compared by their numbers. That is the order of the calendar: by
year, then by month, then by day.
-/

namespace FormIntake

namespace Calendar

theorem daysBeforeMonth_succ (year : Nat) {month : Nat} (h : 1 ≤ month) :
    daysBeforeMonth year (month + 1) = daysBeforeMonth year month + daysInMonth year month := by
  obtain ⟨m, rfl⟩ : ∃ m, month = m + 1 := ⟨month - 1, by omega⟩
  rfl

theorem daysBeforeMonth_add_le (year : Nat) {month later : Nat} (h : 1 ≤ month)
    (hlt : month < later) :
    daysBeforeMonth year month + daysInMonth year month ≤ daysBeforeMonth year later := by
  induction later with
  | zero => omega
  | succ later ih =>
      rw [daysBeforeMonth_succ year (by omega)]
      by_cases heq : month = later
      · subst heq
        exact Nat.le_refl _
      · have := ih (by omega)
        omega

theorem daysBeforeMonth_december (year : Nat) :
    daysBeforeMonth year 12 + daysInMonth year 12 = if IsLeap year then 366 else 365 := by
  have h2 : daysInMonth year 2 = if IsLeap year then 29 else 28 := rfl
  simp only [daysBeforeMonth, h2]
  simp only [daysInMonth]
  by_cases h : IsLeap year <;> simp [h]

theorem daysBeforeYear_succ {year : Nat} (h : 1 ≤ year) :
    daysBeforeYear (year + 1) = daysBeforeYear year + if IsLeap year then 366 else 365 := by
  obtain ⟨n, rfl⟩ : ∃ n, year = n + 1 := ⟨year - 1, by omega⟩
  have h4 : (n + 1) / 4 = n / 4 + if (n + 1) % 4 = 0 then 1 else 0 := by split <;> omega
  have h100 : (n + 1) / 100 = n / 100 + if (n + 1) % 100 = 0 then 1 else 0 := by
    split <;> omega
  have h400 : (n + 1) / 400 = n / 400 + if (n + 1) % 400 = 0 then 1 else 0 := by
    split <;> omega
  have hle : n / 100 ≤ n / 4 := by omega
  have h100_4 : (n + 1) % 100 = 0 → (n + 1) % 4 = 0 := by omega
  have h400_100 : (n + 1) % 400 = 0 → (n + 1) % 100 = 0 := by omega
  simp only [daysBeforeYear, IsLeap, Nat.add_sub_cancel, h4, h100, h400]
  generalize n / 4 = a at *
  generalize n / 100 = b at *
  generalize n / 400 = c at *
  by_cases c4 : (n + 1) % 4 = 0 <;> by_cases c100 : (n + 1) % 100 = 0 <;>
    by_cases c400 : (n + 1) % 400 = 0 <;> simp_all <;> omega

theorem daysBeforeYear_mono {year later : Nat} (h : 1 ≤ year) (hle : year ≤ later) :
    daysBeforeYear year ≤ daysBeforeYear later := by
  induction later with
  | zero => omega
  | succ later ih =>
      by_cases heq : year = later + 1
      · subst heq
        exact Nat.le_refl _
      · have := ih (by omega)
        rw [daysBeforeYear_succ (by omega)]
        omega

end Calendar

open Calendar

namespace Date

def Before (a b : Date) : Prop :=
  a.year < b.year ∨
    a.year = b.year ∧ (a.month < b.month ∨ a.month = b.month ∧ a.day < b.day)

theorem before_trichotomy (a b : Date) : a.Before b ∨ a = b ∨ b.Before a := by
  obtain ⟨y, m, d, _⟩ := a
  obtain ⟨y', m', d', _⟩ := b
  simp only [Before, Date.mk.injEq]
  omega

theorem ordinal_le_yearEnd (a : Date) : a.ordinal ≤ daysBeforeYear (a.year + 1) := by
  have hday := a.isDate.day_le
  have hyear := daysBeforeYear_succ a.isDate.year_pos
  have hlast := daysBeforeMonth_december a.year
  have hmonth : daysBeforeMonth a.year a.month + daysInMonth a.year a.month ≤
      daysBeforeMonth a.year 12 + daysInMonth a.year 12 := by
    by_cases heq : a.month = 12
    · exact Nat.le_of_eq (by rw [heq])
    · have hle := a.isDate.month_le
      have := daysBeforeMonth_add_le a.year a.isDate.month_pos
        (show a.month < 12 by omega)
      omega
  unfold ordinal
  omega

theorem ordinal_lt_of_before {a b : Date} (h : a.Before b) : a.ordinal < b.ordinal := by
  have hb := b.isDate.day_pos
  rcases h with hyear | ⟨hyear, hmonth | ⟨hmonth, hday⟩⟩
  · have hend := ordinal_le_yearEnd a
    have hmono := daysBeforeYear_mono (Nat.le_add_left 1 a.year) hyear
    unfold ordinal at *
    omega
  · have ha := a.isDate.day_le
    have hover := daysBeforeMonth_add_le a.year a.isDate.month_pos hmonth
    unfold ordinal
    rw [← hyear]
    omega
  · unfold ordinal
    rw [← hyear, ← hmonth]
    omega

theorem lt_iff_before (a b : Date) : a.lt b = true ↔ a.Before b := by
  simp only [lt, decide_eq_true_eq]
  refine ⟨fun h => ?_, ordinal_lt_of_before⟩
  rcases before_trichotomy a b with hab | rfl | hba
  · exact hab
  · omega
  · have := ordinal_lt_of_before hba
    omega

end Date

end FormIntake
