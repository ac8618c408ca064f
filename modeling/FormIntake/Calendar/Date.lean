import FormIntake.Text.Basic
/-!
# Calendar days

Days of the years 1 to 9999 in the proleptic Gregorian calendar, their numbers
counted from 0001-01-01 as day 1, and ISO weeks.
-/

namespace FormIntake

namespace Calendar

def IsLeap (year : Nat) : Prop :=
  year % 4 = 0 ∧ (year % 100 ≠ 0 ∨ year % 400 = 0)

instance (year : Nat) : Decidable (IsLeap year) :=
  inferInstanceAs (Decidable (_ ∧ _))

def daysInMonth (year month : Nat) : Nat :=
  if month = 2 then if IsLeap year then 29 else 28
  else if month = 4 ∨ month = 6 ∨ month = 9 ∨ month = 11 then 30
  else 31

def daysBeforeYear (year : Nat) : Nat :=
  (year - 1) * 365 + (year - 1) / 4 - (year - 1) / 100 + (year - 1) / 400

def daysBeforeMonth (year : Nat) : Nat → Nat
  | 0 => 0
  | 1 => 0
  | month + 1 => daysBeforeMonth year month + daysInMonth year month

structure IsDate (year month day : Nat) : Prop where
  year_pos : 1 ≤ year
  year_le : year ≤ 9999
  month_pos : 1 ≤ month
  month_le : month ≤ 12
  day_pos : 1 ≤ day
  day_le : day ≤ daysInMonth year month

theorem isDate_iff {year month day : Nat} :
    IsDate year month day ↔
      (1 ≤ year ∧ year ≤ 9999) ∧ (1 ≤ month ∧ month ≤ 12) ∧
        1 ≤ day ∧ day ≤ daysInMonth year month :=
  ⟨fun h => ⟨⟨h.1, h.2⟩, ⟨h.3, h.4⟩, h.5, h.6⟩, fun ⟨⟨a, b⟩, ⟨c, d⟩, e, f⟩ => ⟨a, b, c, d, e, f⟩⟩

instance (year month day : Nat) : Decidable (IsDate year month day) :=
  decidable_of_iff _ isDate_iff.symm

end Calendar

open Calendar

structure Date where
  year : Nat
  month : Nat
  day : Nat
  isDate : IsDate year month day
  deriving DecidableEq

namespace Date

def ofParts? (year month day : Nat) : Option Date :=
  if h : IsDate year month day then some ⟨year, month, day, h⟩ else none

/-- The number of the day; 0001-01-01 has the number 1. -/
def ordinal (d : Date) : Nat :=
  daysBeforeYear d.year + daysBeforeMonth d.year d.month + d.day

def lt (a b : Date) : Bool :=
  a.ordinal < b.ordinal

def lastOrdinal : Nat := 3652059

def monthAndDay (year : Nat) : (left month rest : Nat) → Nat × Nat
  | 0, month, rest => (month, rest + 1)
  | left + 1, month, rest =>
    if rest < daysInMonth year month then (month, rest + 1)
    else monthAndDay year left (month + 1) (rest - daysInMonth year month)

def ofOrdinal? (n : Int) : Option Date :=
  if n < 1 ∨ (lastOrdinal : Int) < n then none
  else
    let days := n.toNat - 1
    let cycles := days / 146097
    let inCycle := days % 146097
    let centuries := min 3 (inCycle / 36524)
    let inCentury := inCycle - centuries * 36524
    let quads := inCentury / 1461
    let inQuad := inCentury % 1461
    let years := min 3 (inQuad / 365)
    let year := cycles * 400 + centuries * 100 + quads * 4 + years + 1
    let (month, day) := monthAndDay year 11 1 (inQuad - years * 365)
    ofParts? year month day

/-- Monday is 0. -/
def weekday (ordinal : Int) : Int :=
  (ordinal + 6) % 7

/-- The number of the Monday that begins week 1 of an ISO year. -/
def firstMonday (year : Nat) : Int :=
  let first : Int := daysBeforeYear year + 1
  let monday := first - weekday first
  if 3 < weekday first then monday + 7 else monday

/-- An ISO year has week 53 if it starts on a Thursday, or on a Wednesday in a leap year. -/
def hasWeek53 (year : Nat) : Bool :=
  let first := weekday (daysBeforeYear year + 1)
  first == 3 || (first == 2 && decide (IsLeap year))

def ofWeek? (year week day : Nat) : Option Date :=
  if year < 1 ∨ 9999 < year then none
  else if week < 1 ∨ 53 < week ∨ (week = 53 ∧ ¬ hasWeek53 year) then none
  else if day < 1 ∨ 7 < day then none
  else ofOrdinal? (firstMonday year + (week - 1) * 7 + (day - 1))

def twoDigits (n : Nat) : Text :=
  Text.zeroPadded 2 (Text.ofNat n)

/-- Year, month and day as `YYYY-MM-DD`. -/
def text (d : Date) : Text :=
  Text.zeroPadded 4 (Text.ofNat d.year) ++ "-" ++ twoDigits d.month ++ "-" ++ twoDigits d.day

end Date

end FormIntake
