import FormIntake.Proofs.Calendar.Numbering
/-!
# Weeks

A week begins on a Monday and belongs to the year in which its Thursday falls;
the weeks of a year are counted by their Thursdays. A week date is read as the
one day that has this year, week and day of the week.
-/

namespace FormIntake

open Calendar

namespace Date

/-- The day of the week; Monday is day 1. -/
def isoWeekday (d : Date) : Nat :=
  (d.ordinal + 6) % 7 + 1

/-- The number of the Thursday in the week of a day. -/
def thursday (d : Date) : Nat :=
  d.ordinal + 4 - d.isoWeekday

/-- The year in which the Thursday of the week falls. -/
def isoYear (d : Date) : Nat :=
  if d.thursday ≤ daysBeforeYear d.year then d.year - 1
  else if d.thursday ≤ daysBeforeYear (d.year + 1) then d.year
  else d.year + 1

/-- Which Thursday of its year the Thursday of the week is. -/
def isoWeek (d : Date) : Nat :=
  (d.thursday - daysBeforeYear d.isoYear - 1) / 7 + 1

/-- A year has 53 Thursdays if it begins or ends with one; the day number 4 is a Thursday. -/
def IsLongYear (year : Nat) : Prop :=
  (daysBeforeYear year + 1) % 7 = 4 ∨ daysBeforeYear (year + 1) % 7 = 4

instance (year : Nat) : Decidable (IsLongYear year) :=
  inferInstanceAs (Decidable (_ ∨ _))

theorem isoWeekday_le (d : Date) : 1 ≤ d.isoWeekday ∧ d.isoWeekday ≤ 7 := by
  unfold isoWeekday
  omega

/-- The first three days of the calendar are the Monday to Wednesday of the first week. -/
theorem thursday_eq (d : Date) : d.thursday + d.isoWeekday = d.ordinal + 4 := by
  have hpos := d.ordinal_pos
  unfold thursday isoWeekday
  omega

theorem thursday_mod (d : Date) : d.thursday % 7 = 4 := by
  have hsum := d.thursday_eq
  unfold isoWeekday at hsum
  omega

/-- Weeks are whole: the last one of the calendar has its Thursday in the year 9999. -/
theorem thursday_le_lastOrdinal (d : Date) : d.thursday ≤ lastOrdinal := by
  have hsum := d.thursday_eq
  have hmod := d.thursday_mod
  have hlast := d.ordinal_le_lastOrdinal
  have hday := d.isoWeekday_le
  unfold lastOrdinal at *
  omega

theorem daysBeforeYear_step {year : Nat} (h : 1 ≤ year) :
    daysBeforeYear year + 365 ≤ daysBeforeYear (year + 1) ∧
      daysBeforeYear (year + 1) ≤ daysBeforeYear year + 366 := by
  have hsucc := daysBeforeYear_succ h
  split at hsucc <;> omega

theorem daysBeforeYear_one : daysBeforeYear 1 = 0 :=
  rfl

/-- The Thursday of the week falls into the year of the week. -/
theorem thursday_mem_isoYear (d : Date) :
    daysBeforeYear d.isoYear < d.thursday ∧ d.thursday ≤ daysBeforeYear (d.isoYear + 1) := by
  have hsum := d.thursday_eq
  have hmod := d.thursday_mod
  have hday := d.isoWeekday_le
  have hstart := d.daysBeforeYear_lt_ordinal
  have hend := ordinal_le_yearEnd d
  have hpos := d.isDate.year_pos
  unfold isoYear
  split
  · rename_i hbefore
    have hyear : 2 ≤ d.year := by
      by_contra hfirst
      have hone : d.year = 1 := by omega
      rw [hone, daysBeforeYear_one] at hbefore hstart
      omega
    obtain ⟨year, hprevious⟩ : ∃ year, d.year = year + 1 + 1 := ⟨d.year - 2, by omega⟩
    have hstep := daysBeforeYear_step (Nat.le_add_left 1 year)
    rw [hprevious] at hbefore hstart ⊢
    rw [Nat.add_sub_cancel]
    omega
  · split
    · omega
    · have hstep := daysBeforeYear_step (Nat.le_add_left 1 d.year)
      omega

theorem isoYear_le (d : Date) : 1 ≤ d.isoYear ∧ d.isoYear ≤ 9999 := by
  obtain ⟨hlow, hhigh⟩ := d.thursday_mem_isoYear
  refine ⟨?_, year_le_of_daysBeforeYear_lt ?_⟩
  · by_contra hzero
    have heq : d.isoYear = 0 := by omega
    rw [heq, Nat.zero_add, daysBeforeYear_one] at hhigh
    omega
  · exact Nat.lt_of_lt_of_le hlow d.thursday_le_lastOrdinal

/-- A day belongs to the ISO year in which the Thursday of its week falls, and to no other. -/
theorem isoYear_eq_iff {d : Date} {year : Nat} : d.isoYear = year ↔
    daysBeforeYear year < d.thursday ∧ d.thursday ≤ daysBeforeYear (year + 1) := by
  obtain ⟨hlow, hhigh⟩ := d.thursday_mem_isoYear
  constructor
  · rintro rfl
    exact ⟨hlow, hhigh⟩
  · rintro ⟨hfirst, hlast⟩
    by_contra hne
    rcases Nat.lt_or_gt_of_ne hne with hlt | hgt
    · have := daysBeforeYear_mono (Nat.le_add_left 1 _) hlt
      omega
    · have := daysBeforeYear_mono (Nat.le_add_left 1 _) hgt
      omega

theorem isoWeek_le (d : Date) :
    1 ≤ d.isoWeek ∧ d.isoWeek ≤ 53 ∧ (d.isoWeek = 53 → IsLongYear d.isoYear) := by
  obtain ⟨hlow, hhigh⟩ := d.thursday_mem_isoYear
  have hmod := d.thursday_mod
  have hstep := daysBeforeYear_step d.isoYear_le.1
  unfold isoWeek IsLongYear
  omega

/-! ## Week dates -/

theorem firstMonday_spec (year : Nat) :
    firstMonday year % 7 = 1 ∧ (daysBeforeYear year : Int) < firstMonday year + 3 ∧
      firstMonday year + 3 ≤ daysBeforeYear year + 7 := by
  unfold firstMonday weekday
  dsimp only
  split <;> omega

theorem hasWeek53_iff {year : Nat} (h : 1 ≤ year) : hasWeek53 year = true ↔ IsLongYear year := by
  have hsucc := daysBeforeYear_succ h
  unfold hasWeek53 IsLongYear weekday
  simp only [Bool.or_eq_true, beq_iff_eq, Bool.and_eq_true, decide_eq_true_eq]
  split at hsucc <;> rename_i hleap
  · simp only [hleap, and_true]
    omega
  · simp only [hleap, and_false, or_false]
    omega

/-- Whether there is a week of that number in the year, and such a day in the week. -/
def IsWeekDate (year week day : Nat) : Prop :=
  (1 ≤ year ∧ year ≤ 9999) ∧ (1 ≤ week ∧ week ≤ 53 ∧ (week = 53 → IsLongYear year)) ∧
    1 ≤ day ∧ day ≤ 7

theorem isWeekDate (d : Date) : IsWeekDate d.isoYear d.isoWeek d.isoWeekday :=
  ⟨d.isoYear_le, d.isoWeek_le, d.isoWeekday_le⟩

theorem ofWeek?_of_not {year week day : Nat} (h : ¬ IsWeekDate year week day) :
    ofWeek? year week day = none := by
  unfold ofWeek?
  split
  · rfl
  · rename_i hyear
    have hlong := hasWeek53_iff (by omega : 1 ≤ year)
    split
    · rfl
    · rename_i hweek
      rw [hlong] at hweek
      split
      · rfl
      · rename_i hday
        refine absurd ⟨by omega, ⟨by omega, by omega, ?_⟩, by omega⟩ h
        intro heq
        by_contra hshort
        exact hweek (Or.inr (Or.inr ⟨heq, hshort⟩))

theorem ofWeek?_of_isWeekDate {year week day : Nat} (h : IsWeekDate year week day) :
    ofWeek? year week day = ofOrdinal? (firstMonday year + (week - 1) * 7 + (day - 1)) := by
  obtain ⟨hyear, ⟨hlow, hhigh, hlast⟩, hday⟩ := h
  have hlong := hasWeek53_iff hyear.1
  have hweek : ¬ (week < 1 ∨ 53 < week ∨ (week = 53 ∧ ¬ hasWeek53 year)) := by
    rw [hlong]
    rintro (hless | hmore | ⟨heq, hshort⟩)
    · omega
    · omega
    · exact hshort (hlast heq)
  rw [ofWeek?, if_neg (by omega), if_neg hweek, if_neg (by omega)]

theorem isoWeek_eq_iff {d : Date} {week : Nat} :
    d.isoWeek = week ↔ (d.thursday : Int) = firstMonday d.isoYear + (week - 1) * 7 + 3 := by
  obtain ⟨hlow, hhigh⟩ := d.thursday_mem_isoYear
  obtain ⟨hmonday, hfirst, hlast⟩ := firstMonday_spec d.isoYear
  have hmod := d.thursday_mod
  unfold isoWeek
  omega

/-- The Thursday of a week of the year falls into the year. -/
theorem isoYear_of_thursday {d : Date} {year week day : Nat} (hdate : IsWeekDate year week day)
    (h : (d.thursday : Int) = firstMonday year + (week - 1) * 7 + 3) : d.isoYear = year := by
  obtain ⟨hyear, ⟨hfirst, hmost, hlong⟩, -⟩ := hdate
  obtain ⟨hmonday, hlow, hhigh⟩ := firstMonday_spec year
  have hstep := daysBeforeYear_step hyear.1
  rw [isoYear_eq_iff]
  unfold IsLongYear at hlong
  omega

/-- A week date is read as the day that it is the week date of. -/
theorem ofWeek?_eq_some_iff {year week day : Nat} {d : Date} :
    ofWeek? year week day = some d ↔
      d.isoYear = year ∧ d.isoWeek = week ∧ d.isoWeekday = day := by
  by_cases hdate : IsWeekDate year week day
  · rw [ofWeek?_of_isWeekDate hdate, ofOrdinal?_eq_some_iff]
    have hmonday := (firstMonday_spec year).1
    have hsum := d.thursday_eq
    have hweek : 1 ≤ week := hdate.2.1.1
    have hday := hdate.2.2
    constructor
    · intro hordinal
      have hweekday : d.isoWeekday = day := by
        unfold isoWeekday
        omega
      have hthursday : (d.thursday : Int) = firstMonday year + (week - 1) * 7 + 3 := by omega
      obtain rfl := isoYear_of_thursday hdate hthursday
      exact ⟨rfl, isoWeek_eq_iff.2 hthursday, hweekday⟩
    · rintro ⟨rfl, hweeks, hweekday⟩
      have hthursday := isoWeek_eq_iff.1 hweeks
      omega
  · rw [ofWeek?_of_not hdate]
    constructor
    · intro h
      cases h
    · rintro ⟨rfl, rfl, rfl⟩
      exact absurd d.isWeekDate hdate

theorem exists_ofOrdinal?_iff {n : Int} :
    (∃ d, ofOrdinal? n = some d) ↔ 1 ≤ n ∧ n ≤ lastOrdinal := by
  constructor
  · rintro ⟨d, h⟩
    have hordinal := ofOrdinal?_eq_some_iff.1 h
    have hpos := d.ordinal_pos
    have hlast := d.ordinal_le_lastOrdinal
    omega
  · rintro ⟨hpos, hle⟩
    obtain ⟨d, hd⟩ := exists_of_ordinal hpos hle
    exact ⟨d, ofOrdinal?_eq_some_iff.2 hd⟩

/-- A week reaches over the last day of the calendar if it is week 52 of the last year. -/
theorem weekDate_le_lastOrdinal_iff {year week day : Nat} (h : IsWeekDate year week day) :
    firstMonday year + (week - 1) * 7 + (day - 1) ≤ lastOrdinal ↔
      ¬ (year = 9999 ∧ week = 52 ∧ 5 < day) := by
  obtain ⟨hyear, ⟨hfirst, hmost, hlong⟩, hday⟩ := h
  obtain ⟨hmonday, hlow, hhigh⟩ := firstMonday_spec year
  unfold IsLongYear at hlong
  by_cases hlast : year = 9999
  · subst hlast
    have hbefore : daysBeforeYear 9999 = 3651694 := rfl
    rw [daysBeforeYear_last] at hlong
    unfold lastOrdinal at *
    omega
  · have hmono := daysBeforeYear_mono (by omega : 1 ≤ year + 1) (by omega : year + 1 ≤ 9999)
    have hstep := daysBeforeYear_step hyear.1
    have hbefore : daysBeforeYear 9999 = 3651694 := rfl
    unfold lastOrdinal
    omega

/-- Every week date is read but those of the days that would come after the last one. -/
theorem exists_ofWeek?_iff {year week day : Nat} :
    (∃ d, ofWeek? year week day = some d) ↔
      IsWeekDate year week day ∧ ¬ (year = 9999 ∧ week = 52 ∧ 5 < day) := by
  by_cases hdate : IsWeekDate year week day
  · rw [ofWeek?_of_isWeekDate hdate]
    rw [exists_ofOrdinal?_iff, weekDate_le_lastOrdinal_iff hdate]
    obtain ⟨hmonday, hlow, -⟩ := firstMonday_spec year
    have hweek := hdate.2.1.1
    have hday := hdate.2.2.1
    have hpos : 1 ≤ firstMonday year + (week - 1) * 7 + (day - 1) := by omega
    exact ⟨fun h => ⟨hdate, h.2⟩, fun h => ⟨hpos, h.2⟩⟩
  · rw [ofWeek?_of_not hdate]
    constructor
    · rintro ⟨d, hnone⟩
      cases hnone
    · rintro ⟨hdate', -⟩
      exact absurd hdate' hdate

end Date

end FormIntake
