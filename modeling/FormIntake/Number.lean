import FormIntake.Double.Shortest
import FormIntake.Numeral
/-!
# Numbers

A number is a whole number of any size or a double. Comparison is that of the
exact values.
-/

namespace FormIntake

inductive Number where
  | int (n : Int)
  | double (x : Double)
  deriving DecidableEq

/-- The exact value of a number, in units of 2^-1074. -/
inductive Number.Exact where
  | nan
  | below
  | units (n : Int)
  | above
  deriving DecidableEq

def Number.Exact.lt : Exact → Exact → Bool
  | .nan, _ => false
  | _, .nan => false
  | .below, .below => false
  | .below, _ => true
  | .units _, .below => false
  | .units m, .units n => m < n
  | .units _, .above => true
  | .above, _ => false

namespace Number

def exact : Number → Exact
  | int n => .units (n * Double.one)
  | double .nan => .nan
  | double (.infinite true) => .below
  | double (.infinite false) => .above
  | double (.finite negative units) => .units (Double.signedUnits negative units)

def lt (x y : Number) : Bool :=
  x.exact.lt y.exact

def le (x y : Number) : Bool :=
  x.lt y || (x.exact == y.exact && x.exact != .nan)

def toDouble : Number → Double
  | int n => Double.ofInt n
  | double x => x

/-- Whole numbers give a whole number; otherwise the difference is a double. -/
def sub : Number → Number → Number
  | int m, int n => int (m - n)
  | x, y => double (x.toDouble.sub y.toDouble)

instance : Sub Number := ⟨sub⟩

instance : LE Number := ⟨fun x y => x.le y = true⟩

instance : DecidableLE Number := fun x y => inferInstanceAs (Decidable (x.le y = true))

instance : NatCast Number := ⟨fun n => int n⟩

def isNan : Number → Bool
  | double x => x.isNan
  | int _ => false

def ceil? : Number → Option Int
  | int n => some n
  | double x => x.ceil?

/-- Whether the numeral of a number keeps to the digit limit. -/
def isWritable : Number → Bool
  | int n => Numeral.fits n
  | double _ => true

/-- How a number stands in a message: a double without a fraction as its whole number. -/
def display : Number → Text
  | int n => Text.ofInt n
  | double x =>
    match x.toInt? with
    | some n => Text.ofInt n
    | none => x.text

end Number

end FormIntake
