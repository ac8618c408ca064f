import FormIntake.Proofs.Calendar.Order
import Mathlib.Tactic.ByContra
/-!
# The numbers of days

Days and the numbers from 1 to `Date.lastOrdinal` correspond to each other:
the day of a number has that number, and every day is the day of its number.
-/

namespace FormIntake

namespace Calendar

theorem daysBeforeYear_parts (cycles : Nat) {centuries quads years : Nat}
    (hcenturies : centuries ≤ 3) (hquads : quads ≤ 24) (hyears : years ≤ 3) :
    daysBeforeYear (cycles * 400 + centuries * 100 + quads * 4 + years + 1) =
      cycles * 146097 + centuries * 36524 + quads * 1461 + years * 365 := by
  unfold daysBeforeYear
  omega

theorem isLeap_parts (cycles : Nat) {centuries quads years : Nat} (hcenturies : centuries ≤ 3)
    (hquads : quads ≤ 24) (hyears : years ≤ 3) :
    IsLeap (cycles * 400 + centuries * 100 + quads * 4 + years + 1) ↔
      years = 3 ∧ (quads ≠ 24 ∨ centuries = 3) := by
  unfold IsLeap
  omega

end Calendar

open Calendar

namespace Date

theorem daysBeforeYear_last : daysBeforeYear 10000 = lastOrdinal :=
  rfl

theorem year_le_of_daysBeforeYear_lt {year : Nat} (h : daysBeforeYear year < lastOrdinal) :
    year ≤ 9999 := by
  by_contra hgt
  have hmono := daysBeforeYear_mono (by decide : 1 ≤ 10000) (Nat.lt_of_not_le hgt)
  rw [daysBeforeYear_last] at hmono
  omega

theorem daysBeforeYear_lt_ordinal (d : Date) : daysBeforeYear d.year < d.ordinal := by
  have hday := d.isDate.day_pos
  unfold ordinal
  omega

theorem ordinal_pos (d : Date) : 0 < d.ordinal :=
  Nat.zero_lt_of_lt d.daysBeforeYear_lt_ordinal

theorem ordinal_le_lastOrdinal (d : Date) : d.ordinal ≤ lastOrdinal := by
  have hend := ordinal_le_yearEnd d
  have hyear := d.isDate.year_le
  have hmono := daysBeforeYear_mono (Nat.le_add_left 1 _) (Nat.succ_le_succ hyear)
  rw [daysBeforeYear_last] at hmono
  omega

theorem ordinal_injective {a b : Date} (h : a.ordinal = b.ordinal) : a = b := by
  rcases before_trichotomy a b with hab | heq | hba
  · have := ordinal_lt_of_before hab
    omega
  · exact heq
  · have := ordinal_lt_of_before hba
    omega

/-! ## The day of a number -/

/-- What is left of a year when the months before one are over falls into that month or a later
one. -/
theorem monthAndDay_spec (year : Nat) {left month rest last : Nat} (hmonth : 1 ≤ month)
    (hlast : month + left = last)
    (h : daysBeforeMonth year month + rest < daysBeforeMonth year last + daysInMonth year last) :
    let found := monthAndDay year left month rest
    (month ≤ found.1 ∧ found.1 ≤ last) ∧
      (1 ≤ found.2 ∧ found.2 ≤ daysInMonth year found.1) ∧
      daysBeforeMonth year found.1 + found.2 = daysBeforeMonth year month + rest + 1 := by
  induction left generalizing month rest with
  | zero =>
      subst hlast
      dsimp only [monthAndDay, Nat.add_zero] at h ⊢
      omega
  | succ left ih =>
      unfold monthAndDay
      split
      · dsimp only
        omega
      · have hsucc := daysBeforeMonth_succ year hmonth
        have hrest := @ih (month + 1) (rest - daysInMonth year month) (Nat.le_add_left 1 month)
          (by omega) (by omega)
        dsimp only at hrest ⊢
        omega

theorem exists_ofParts? {year rest : Nat} (hpos : 1 ≤ year) (hle : year ≤ 9999)
    (hrest : daysBeforeYear year + rest < daysBeforeYear (year + 1)) :
    ∃ d, ofParts? year (monthAndDay year 11 1 rest).1 (monthAndDay year 11 1 rest).2 = some d ∧
      d.ordinal = daysBeforeYear year + rest + 1 := by
  have hyear := daysBeforeYear_succ hpos
  have hlast := daysBeforeMonth_december year
  have hfirst : daysBeforeMonth year 1 = 0 := rfl
  have hspec := @monthAndDay_spec year 11 1 rest 12 (Nat.le_refl 1) rfl (by omega)
  generalize monthAndDay year 11 1 rest = found at hspec ⊢
  obtain ⟨⟨hlow, hhigh⟩, ⟨hday, hdays⟩, hnumber⟩ := hspec
  have hdate : IsDate year found.1 found.2 := ⟨hpos, hle, hlow, hhigh, hday, hdays⟩
  refine ⟨⟨year, found.1, found.2, hdate⟩, ?_, ?_⟩
  · rw [ofParts?, dif_pos hdate]
  · dsimp only [ordinal]
    omega

/-- A number of days as whole cycles, centuries, four years and years, and what is left of a
year. The last day of four years is in the fourth of them, which then is a leap year. -/
theorem days_parts (days : Nat) :
    let inCycle := days % 146097
    let centuries := min 3 (inCycle / 36524)
    let inCentury := inCycle - centuries * 36524
    let quads := inCentury / 1461
    let inQuad := inCentury % 1461
    let years := min 3 (inQuad / 365)
    let rest := inQuad - years * 365
    (centuries ≤ 3 ∧ quads ≤ 24 ∧ years ≤ 3) ∧
      days = days / 146097 * 146097 + centuries * 36524 + quads * 1461 + years * 365 + rest ∧
      (rest < 365 ∨ rest = 365 ∧ years = 3 ∧ (quads ≠ 24 ∨ centuries = 3)) := by
  dsimp only
  generalize hcenturies : min 3 (days % 146097 / 36524) = centuries
  generalize hinCentury : days % 146097 - centuries * 36524 = inCentury
  generalize hyears : min 3 (inCentury % 1461 / 365) = years
  have hcycle : days % 146097 < 146097 := Nat.mod_lt _ (by decide)
  have hcentury : inCentury < 36525 ∧ (inCentury = 36524 → centuries = 3) := by omega
  have hdays : days = days / 146097 * 146097 + centuries * 36524 + inCentury := by omega
  have hcenturiesLe : centuries ≤ 3 := by omega
  clear hinCentury hcenturies
  omega

theorem rest_of_parts (cycles : Nat) {centuries quads years rest : Nat}
    (hparts : centuries ≤ 3 ∧ quads ≤ 24 ∧ years ≤ 3)
    (hrest : rest < 365 ∨ rest = 365 ∧ years = 3 ∧ (quads ≠ 24 ∨ centuries = 3)) :
    daysBeforeYear (cycles * 400 + centuries * 100 + quads * 4 + years + 1) + rest <
      daysBeforeYear (cycles * 400 + centuries * 100 + quads * 4 + years + 1 + 1) := by
  have hleap := isLeap_parts cycles hparts.1 hparts.2.1 hparts.2.2
  rw [daysBeforeYear_succ (Nat.le_add_left 1 _)]
  rcases hrest with hlt | ⟨heq, hfourth⟩
  · split <;> omega
  · rw [if_pos (hleap.2 hfourth)]
    omega

theorem exists_ofOrdinal? {n : Nat} (hpos : 1 ≤ n) (hle : n ≤ lastOrdinal) :
    ∃ d, ofOrdinal? n = some d ∧ d.ordinal = n := by
  have hrange : ¬ ((n : Int) < 1 ∨ (lastOrdinal : Int) < n) := by omega
  obtain ⟨hparts, hdays, hrest⟩ := days_parts (n - 1)
  have hbefore := daysBeforeYear_parts ((n - 1) / 146097) hparts.1 hparts.2.1 hparts.2.2
  have hinYear := rest_of_parts ((n - 1) / 146097) hparts hrest
  rw [← hbefore] at hdays
  have hyear := year_le_of_daysBeforeYear_lt
    (Nat.lt_of_le_of_lt (Nat.le_of_add_right_le (Nat.le_of_eq hdays.symm))
      (Nat.lt_of_lt_of_le (Nat.sub_one_lt (Nat.ne_of_gt hpos)) hle))
  obtain ⟨d, hfound, hnumber⟩ := exists_ofParts? (Nat.le_add_left 1 _) hyear hinYear
  rw [← hdays, Nat.sub_add_cancel hpos] at hnumber
  rw [ofOrdinal?, if_neg hrange]
  exact ⟨d, hfound, hnumber⟩

/-- The day of a number is the one that has the number. -/
theorem ofOrdinal?_eq_some_iff {n : Int} {d : Date} :
    ofOrdinal? n = some d ↔ (d.ordinal : Int) = n := by
  constructor
  · intro h
    by_cases hrange : n < 1 ∨ (lastOrdinal : Int) < n
    · rw [ofOrdinal?, if_pos hrange] at h
      cases h
    · obtain ⟨m, rfl⟩ : ∃ m : Nat, n = m := ⟨n.toNat, by omega⟩
      obtain ⟨found, hfound, hnumber⟩ := exists_ofOrdinal? (n := m) (by omega) (by omega)
      rw [hfound] at h
      rw [← Option.some.inj h, hnumber]
  · rintro rfl
    obtain ⟨found, hfound, hnumber⟩ := exists_ofOrdinal? d.ordinal_pos d.ordinal_le_lastOrdinal
    rw [hfound, ordinal_injective hnumber]

theorem exists_of_ordinal {n : Int} (hpos : 1 ≤ n) (hle : n ≤ lastOrdinal) :
    ∃ d : Date, (d.ordinal : Int) = n := by
  obtain ⟨m, rfl⟩ : ∃ m : Nat, n = m := ⟨n.toNat, by omega⟩
  obtain ⟨d, -, hnumber⟩ := exists_ofOrdinal? (n := m) (by omega) (by omega)
  exact ⟨d, congrArg Nat.cast hnumber⟩

end Date

end FormIntake
