import FormIntake.Json.Basic
import FormIntake.Numeral
/-!
# Numbers in submitted values

A submitted number is a JSON number other than NaN, or a text. A text may be
padded with blanks and is read as

* `Infinity` with an optional sign,
* a decimal numeral: an optional sign, digits of any script with an optional
  point among them, an optional exponent; it gives the nearest double, or
* `0x`, `0o` or `0b` with digits of base 16, 8 or 2; it gives a whole number.
-/

namespace FormIntake.Number

abbrev TakeDigits := Text → List Nat × Text

def mantissa? (take : TakeDigits) (t : Text) : Option (List Nat × List Nat × Text) :=
  let (whole, rest) := take t
  let (places, rest) :=
    match rest with
    | c :: after => if c = CodePoint.ofChar '.' then take after else ([], rest)
    | [] => ([], [])
  if whole.isEmpty ∧ places.isEmpty then none else some (whole, places, rest)

def exponent? (take : TakeDigits) (t : Text) : Option Int :=
  match t with
  | [] => some 0
  | c :: rest =>
    if c = CodePoint.ofChar 'e' ∨ c = CodePoint.ofChar 'E' then
      let (negative, rest) := Numeral.takeSign rest
      match take rest with
      | (d :: digits, []) => some (Numeral.signed negative (Numeral.value 10 (d :: digits)))
      | _ => none
    else none

def decimal? (take : TakeDigits) (t : Text) : Option Double := do
  let (negative, body) := Numeral.takeSign t
  let (whole, places, rest) ← mantissa? take body
  let exponent ← exponent? take rest
  return .ofDecimal negative (Numeral.value 10 (whole ++ places)) (exponent - places.length)

def readDecimal? (t : Text) : Option Double :=
  decimal? (Numeral.takeDigits CodePoint.decimalValue?) t

/-- The base that a letter after a zero stands for. -/
def radix? (c : CodePoint) : Option Nat :=
  match c.asciiLower.val with
  | 0x78 => some 16
  | 0x6F => some 8
  | 0x62 => some 2
  | _ => none

def readRadix? (t : Text) : Option Nat :=
  match t with
  | first :: mark :: rest =>
    if first = CodePoint.ofChar '0' then do
      let base ← radix? mark
      match Numeral.takeDigits (·.digitValue? base) rest with
      | (d :: digits, []) => some (Numeral.value base (d :: digits))
      | _ => none
    else none
  | _ => none

def readInfinity? (t : Text) : Option Double :=
  if t = Text.ofString "Infinity" ∨ t = Text.ofString "+Infinity" then some (.infinite false)
  else if t = Text.ofString "-Infinity" then some (.infinite true)
  else none

def ofText? (t : Text) : Option Number :=
  let t := t.strip
  match readInfinity? t with
  | some x => some (.double x)
  | none =>
    match readDecimal? t with
    | some x => some (.double x)
    | none => (readRadix? t).map fun n => .int n

/-- The number that a submitted value stands for. A truth value is no number. -/
def ofJson? : Json → Option Number
  | .number n => if n.isNan then none else some n
  | .str t => ofText? t
  | _ => none

end FormIntake.Number
