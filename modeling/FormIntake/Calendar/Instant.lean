import FormIntake.Calendar.Date
/-!
# Instants

An instant is a number of microseconds. Times of day count from the midnight
that begins 0001-01-01, instants of the clock from 1970-01-01 in UTC.
-/

namespace FormIntake.Calendar

def microsPerSecond : Int := 1000000

def microsPerDay : Int := 86400000000

def epochOrdinal : Int := 719163

/-- The time of day and the microseconds, these only when they are not 0. -/
def timeText (micros : Nat) : Text :=
  let seconds := micros / 1000000
  let fraction := micros % 1000000
  let clock := Date.twoDigits (seconds / 3600) ++ ":" ++ Date.twoDigits (seconds / 60 % 60) ++
    ":" ++ Date.twoDigits (seconds % 60)
  if fraction = 0 then clock else clock ++ "." ++ Text.zeroPadded 6 (Text.ofNat fraction)

/-- An instant of the clock as `YYYY-MM-DDTHH:MM:SS`, its microseconds and the given zone. -/
def instantText (zone : Text) (micros : Int) : Text :=
  let day := (Date.ofOrdinal? (epochOrdinal + micros / microsPerDay)).elim [] Date.text
  day ++ "T" ++ timeText (micros % microsPerDay).toNat ++ zone

def dayOfMicros? (micros : Int) : Option Date :=
  Date.ofOrdinal? (micros / microsPerDay + 1)

end FormIntake.Calendar
