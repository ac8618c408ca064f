import FormIntake.Double.Basic
import FormIntake.Text.Basic
/-!
# Shortest decimal form

The fewest decimal digits that read back as the same double, and among those
the digits nearest to it.
-/

namespace FormIntake.Double

structure Decimal where
  digits : Nat
  exponent : Int
  deriving DecidableEq

/-- The end points, in quarter units, of the numbers that round to `units`. -/
def readBack (units : Nat) : Nat × Nat :=
  let step := spacing units
  let low := if 1 < step ∧ units = step * Nat.pow 2 52 then 4 * units - step else 4 * units - 2 * step
  (low, 4 * units + 2 * step)

/-- Whether `d` rounds to `units`; an end point does so when the last bit of `units` is 0. -/
def roundsTo (units : Nat) (d : Decimal) : Bool :=
  let (low, high) := readBack units
  let grow := Nat.pow 10 d.exponent.toNat
  let shrink := Nat.pow 10 (-d.exponent).toNat
  let place := 4 * d.digits * grow * one
  if units / spacing units % 2 = 0 then
    low * shrink ≤ place && place ≤ high * shrink
  else
    low * shrink < place && place < high * shrink

/-- The distance of `d` from `units`, in the same measure for all decimals of one exponent. -/
def distance (units : Nat) (d : Decimal) : Nat :=
  let place : Int := (d.digits * Nat.pow 10 d.exponent.toNat * one : Nat)
  (place - (units * Nat.pow 10 (-d.exponent).toNat : Nat)).natAbs

def onGrid (units : Nat) (exponent : Int) : Option Decimal :=
  let below := units * Nat.pow 10 (-exponent).toNat / (one * Nat.pow 10 exponent.toNat)
  let lower : Decimal := ⟨below, exponent⟩
  let upper : Decimal := ⟨below + 1, exponent⟩
  match roundsTo units lower, roundsTo units upper with
  | true, true =>
    let dl := distance units lower
    let du := distance units upper
    if dl < du ∨ (dl = du ∧ below % 2 = 0) then some lower else some upper
  | true, false => some lower
  | false, true => some upper
  | false, false => none

/-- The place of the decimal point before the first digit that is not 0. -/
def magnitude (units : Nat) : Int :=
  ((Nat.toDigits 10 (units * Nat.pow 10 400 / one)).length : Int) - 400

/-- The shortest decimal for a number of units above 0. -/
def shortest (units : Nat) : Decimal :=
  let top := magnitude units
  ((List.range 17).findSome? fun (n : Nat) => onGrid units (top - 1 - n)).getD ⟨units, 0⟩

def Decimal.trimmed (d : Decimal) : List Char × Int :=
  let digits := Nat.toDigits 10 d.digits
  let kept := (digits.reverse.dropWhile (· == '0')).reverse
  (kept, d.exponent + (digits.length - kept.length : Nat))

/-- Positional between 10^-4 and 10^16, with at least one digit after the point; otherwise
one digit before the point and an exponent of at least two digits. -/
def written (digits : List Char) (exponent : Int) : List Char :=
  let point := exponent + digits.length
  if point ≤ -4 ∨ 16 < point then
    let scale := point - 1
    let mantissa :=
      match digits with
      | [] => []
      | [d] => [d]
      | d :: rest => d :: '.' :: rest
    let power := Nat.toDigits 10 scale.natAbs
    mantissa ++ ['e', if scale < 0 then '-' else '+'] ++
      (if power.length < 2 then '0' :: power else power)
  else if point ≤ 0 then
    ['0', '.'] ++ List.replicate (-point).toNat '0' ++ digits
  else if point < digits.length then
    digits.take point.toNat ++ '.' :: digits.drop point.toNat
  else
    digits ++ List.replicate (point.toNat - digits.length) '0' ++ ['.', '0']

/-- The shortest text that reads back as the same double. -/
def text : Double → Text
  | nan => "nan"
  | infinite negative => if negative then "-inf" else "inf"
  | finite negative units =>
    let sign := if negative then ['-'] else []
    let body :=
      if units = 0 then ['0', '.', '0']
      else
        let (digits, exponent) := (shortest units).trimmed
        written digits exponent
    (sign ++ body).map CodePoint.ofChar

end FormIntake.Double
