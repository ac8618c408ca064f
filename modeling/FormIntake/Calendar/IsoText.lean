import FormIntake.Calendar.Instant
import FormIntake.Text.Blank
import FormIntake.Text.Utf8
/-!
# Reading ISO 8601

A date, or a date, a separator of any kind and a time of day, with or without
an offset from UTC. The text is looked at as its UTF-8 bytes; a place past the
end reads as 0.

* Dates are `YYYY-MM-DD`, `YYYYMMDD`, `YYYY-Www-D`, `YYYYWwwD` and the week
  forms without a day, which mean the Monday.
* Times are hours, minutes and seconds with or without colons, from the right
  any number of them left out, and a fraction after a point or a comma.
-/

namespace FormIntake.Calendar

/-- What an ISO text says: a day, the microseconds into it, and the offset in microseconds. -/
structure Reading where
  date : Date
  micros : Nat
  offset : Option Int

namespace IsoText

abbrev Bytes := List Byte

def byteAt (b : Bytes) (i : Nat) : Nat :=
  (b.getD i 0).toNat

def isDigit (byte : Nat) : Bool :=
  0x30 ≤ byte && byte ≤ 0x39

def digits? (b : Bytes) (i n : Nat) : Option Nat :=
  match n with
  | 0 => some 0
  | n + 1 =>
    match digits? b i n with
    | some v =>
      if isDigit (byteAt b (i + n)) then some (v * 10 + (byteAt b (i + n) - 0x30)) else none
    | none => none

def skipDigits (b : Bytes) (i : Nat) : Nat :=
  i + ((b.drop i).takeWhile fun byte => isDigit byte.toNat).length

def dash : Nat := 0x2D
def colon : Nat := 0x3A
def weekMark : Nat := 0x57

def separator? (b : Bytes) : Option Nat :=
  let n := b.length
  if n = 7 then some 7
  else if byteAt b 4 = dash then
    if byteAt b 5 = weekMark then
      if n < 8 then none
      else if 8 < n ∧ byteAt b 8 = dash then
        if n = 9 then none
        else if 10 < n ∧ isDigit (byteAt b 10) then some 8
        else some 10
      else some 8
    else some 10
  else if byteAt b 4 = weekMark then
    let p := skipDigits b 7
    if p < 9 then some p else if p % 2 = 0 then some 7 else some 8
  else some 8

/-- A week date from the place of its `W`; the day of the week may be missing. -/
def weekDate? (b : Bytes) (year i sep : Nat) (dashed : Bool) : Option Date := do
  let week ← digits? b (i + 1) 2
  let i := i + 3
  if i < sep then
    if dashed ∧ byteAt b i ≠ dash then none
    else
      let day ← digits? b (if dashed then i + 1 else i) 1
      Date.ofWeek? year week day
  else Date.ofWeek? year week 1

def monthDate? (b : Bytes) (year i sep : Nat) (dashed : Bool) : Option Date := do
  let month ← digits? b i 2
  let i := i + 2
  if dashed ∧ byteAt b i ≠ dash then none
  else
    let i := if dashed then i + 1 else i
    let day ← digits? b i 2
    if i + 2 = sep then Date.ofParts? year month day else none

def date? (b : Bytes) (sep : Nat) : Option Date := do
  let year ← digits? b 0 4
  let dashed : Bool := byteAt b 4 = dash
  let i := if dashed then 5 else 4
  if byteAt b i = weekMark then weekDate? b year i sep dashed
  else monthDate? b year i sep dashed

structure Clock where
  hours : Nat
  minutes : Nat
  seconds : Nat
  micros : Nat
  more : Bool

/-- The fraction of a second from place `i`: six digits count, the others are skipped. -/
def fraction? (b : Bytes) (i stop hours minutes seconds : Nat) : Option Clock := do
  let count := min 6 (stop - i)
  let micros ← digits? b i count
  let next := skipDigits b (i + count)
  return ⟨hours, minutes, seconds, micros * Nat.pow 10 (6 - count), byteAt b next != 0⟩

inductive AfterPart where
  /-- The reading ends here; something may follow. -/
  | done (more : Bool)
  /-- The next part, or after the seconds the fraction, starts here. -/
  | next (i : Nat)
  | fraction (i : Nat)
  | bad

/-- Looks at the byte after a part. `colons` says that the parts are divided by colons. -/
def afterPart (b : Bytes) (i stop : Nat) (colons : Bool) : AfterPart :=
  let c := byteAt b i
  if stop ≤ i + 1 then .done (c != 0)
  else if colons ∧ c = colon then .next (i + 1)
  else if c = 0x2E ∨ c = 0x2C then .fraction (i + 1)
  else if colons then .bad
  else .next i

def clock? (b : Bytes) (start stop : Nat) : Option Clock := do
  let hours ← digits? b start 2
  let colons : Bool := byteAt b (start + 2) = colon
  match afterPart b (start + 2) stop colons with
  | .done more => return ⟨hours, 0, 0, 0, more⟩
  | .fraction i => fraction? b i stop hours 0 0
  | .bad => none
  | .next i =>
    let minutes ← digits? b i 2
    match afterPart b (i + 2) stop colons with
    | .done more => return ⟨hours, minutes, 0, 0, more⟩
    | .fraction i => fraction? b i stop hours minutes 0
    | .bad => none
    | .next i =>
      let seconds ← digits? b i 2
      match afterPart b (i + 2) stop colons with
      | .done more => return ⟨hours, minutes, seconds, 0, more⟩
      | .fraction i | .next i => fraction? b i stop hours minutes seconds
      | .bad => none

def Clock.total (c : Clock) : Nat :=
  (c.hours * 3600 + c.minutes * 60 + c.seconds) * 1000000 + c.micros

def Clock.ofDay? (c : Clock) : Option Nat :=
  if c.hours ≤ 23 ∧ c.minutes ≤ 59 ∧ c.seconds ≤ 59 then some c.total else none

def isOffsetMark (byte : Nat) : Bool :=
  byte == 0x2B || byte == dash || byte == 0x5A

def offsetMark? (b : Bytes) (i : Nat) : Option Nat :=
  ((b.drop i).findIdx? fun byte => isOffsetMark byte.toNat).map (i + ·)

/-- A distance from UTC of less than a second counts as none. -/
def distance (micros : Nat) : Nat :=
  if micros < 1000000 then 0 else micros

def offset? (b : Bytes) (z : Nat) : Option Int := do
  if byteAt b z = 0x5A then
    if byteAt b (z + 1) = 0 then some 0 else none
  else
    let c ← clock? b (z + 1) b.length
    if c.more ∨ 86400000000 ≤ c.total then none
    else some (if byteAt b z = dash then -(distance c.total : Int) else distance c.total)

def width (byte : Nat) : Nat :=
  if byte < 0x80 then 1
  else if byte / 16 = 0xE then 3
  else if byte / 16 = 0xF then 4
  else 2

def time? (b : Bytes) (date : Date) (i : Nat) : Option Reading := do
  match offsetMark? b i with
  | none =>
    let c ← clock? b i (max b.length (i + 1))
    let micros ← c.ofDay?
    if c.more then none else some ⟨date, micros, none⟩
  | some z =>
    let c ← clock? b i z
    let offset ← offset? b z
    let micros ← c.ofDay?
    some ⟨date, micros, some offset⟩

/-- The first surrogate among the code points 7, 8 and 10 is taken for a plain separator. -/
def replaceSeparator (t : Text) : Text :=
  match [7, 8, 10].find? fun i => (t[i]?).any CodePoint.isSurrogate with
  | some i => t.set i (CodePoint.ofChar 'T')
  | none => t

def read? (t : Text) : Option Reading := do
  if t.length < 7 then none
  else
    let t := replaceSeparator t
    if t.hasSurrogate then none
    else
      let b := t.utf8
      let sep ← separator? b
      let date ← date? b sep
      if b.length ≤ sep then some ⟨date, 0, none⟩
      else time? b date (sep + width (byteAt b sep))

end IsoText

/-- The local day of a reading. With an offset it is the day of the instant in the zone that lies
`zone` minutes east of UTC; the instant must be in the years 1 to 9999 both in UTC and there. -/
def Reading.localDay? (zone : Int) (r : Reading) : Option Date :=
  match r.offset with
  | none => some r.date
  | some offset => do
    let utc := ((r.date.ordinal : Int) - 1) * microsPerDay + r.micros - offset
    let _ ← dayOfMicros? utc
    dayOfMicros? (utc + zone * 60 * microsPerSecond)

def readDay? (zone : Int) (t : Text) : Option Date :=
  (IsoText.read? t.strip).bind (Reading.localDay? zone)

end FormIntake.Calendar
