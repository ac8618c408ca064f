/-!
# Doubles

Binary floating-point numbers of 64 bits, in exact arithmetic. Every finite
double is a whole number of units of 2^-1074, so comparison, rounding and
subtraction are arithmetic on whole numbers.
-/

namespace FormIntake

inductive Double where
  | nan
  | infinite (negative : Bool)
  /-- The number of units of 2^-1074, with its sign; zero has two signs. -/
  | finite (negative : Bool) (units : Nat)
  deriving DecidableEq

namespace Double

/-- How many units make one. -/
def one : Nat := Nat.pow 2 1074

/-- As many units as lie just beyond the greatest finite double. -/
def bound : Nat := Nat.pow 2 2098

/-- The whole number nearest to `num / den`; of two, the even one. -/
def roundHalfEven (num den : Nat) : Nat :=
  let q := num / den
  let r := num % den
  if 2 * r < den then q else if den < 2 * r then q + 1 else q + q % 2

def spacing (units : Nat) : Nat :=
  Nat.pow 2 (Nat.log2 units - 52)

/-- The units of the double nearest to `num / den` units, as if the range had no end. -/
def roundUnits (num den : Nat) : Nat :=
  let step := spacing (num / den)
  step * roundHalfEven num (den * step)

def ofUnits (negative : Bool) (units : Nat) : Double :=
  if bound ≤ units then infinite negative else finite negative units

/-- The double nearest to `num / den`, ties to even; infinite beyond the range. -/
def ofRatio (negative : Bool) (num den : Nat) : Double :=
  ofUnits negative (roundUnits (num * one) den)

def ofInt (n : Int) : Double :=
  ofRatio (n < 0) n.natAbs 1

/-- The double nearest to `digits * 10 ^ exponent`. Far outside the range the answer is known
without computing the power. -/
def ofDecimal (negative : Bool) (digits : Nat) (exponent : Int) : Double :=
  if digits = 0 then finite negative 0
  else
    let magnitude := exponent + (Nat.toDigits 10 digits).length
    if 309 < magnitude then infinite negative
    else if magnitude < -324 then finite negative 0
    else if 0 ≤ exponent then ofRatio negative (digits * Nat.pow 10 exponent.toNat) 1
    else ofRatio negative digits (Nat.pow 10 (-exponent).toNat)

def signedUnits (negative : Bool) (units : Nat) : Int :=
  if negative then -(units : Int) else units

def negate : Double → Double
  | nan => nan
  | infinite negative => infinite !negative
  | finite negative units => finite (!negative) units

def add : Double → Double → Double
  | nan, _ => nan
  | _, nan => nan
  | infinite a, infinite b => if a = b then infinite a else nan
  | infinite a, finite .. => infinite a
  | finite .., infinite b => infinite b
  | finite a m, finite b n =>
    let sum := signedUnits a m + signedUnits b n
    if sum = 0 then finite (a && b) 0
    else ofUnits (sum < 0) (roundUnits sum.natAbs 1)

def sub (x y : Double) : Double :=
  x.add y.negate

def ceil? : Double → Option Int
  | finite negative units => some (-((-signedUnits negative units) / (one : Int)))
  | _ => none

def toInt? : Double → Option Int
  | finite negative units =>
    if units % one = 0 then some (signedUnits negative (units / one)) else none
  | _ => none

def isNan : Double → Bool
  | nan => true
  | _ => false

end Double

end FormIntake
