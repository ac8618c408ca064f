import FormIntake.Checked
import FormIntake.Number.Reading
/-!
# Scalars in documents

Truth values, whole numbers and numbers as a document or a configuration may
spell them: as such, or as texts and numbers that stand for them.
-/

namespace FormIntake.Scalar

/-- Truth values have spellings without regard to ASCII case, and without padding. -/
def boolOfText? (t : Text) : Option Bool :=
  let t := t.asciiLower
  if ["1", "on", "t", "true", "y", "yes"].any (Text.ofString · = t) then some true
  else if ["0", "off", "f", "false", "n", "no"].any (Text.ofString · = t) then some false
  else none

/-- The least 64-bit word with sign; the words end below its opposite. -/
def leastWord : Int := -0x8000000000000000

def isWord (n : Int) : Bool :=
  leastWord ≤ n && n < -leastWord

def boolOfInt (n : Int) : Checked Bool :=
  if n = 0 then .accepted false
  else if n = 1 then .accepted true
  else if isWord n then .reject .unreadableBool
  else .reject .notABool

def readBoolText (t : Text) : Checked Bool :=
  if t.hasSurrogate then .reject .loneSurrogate
  else
    match boolOfText? t with
    | some b => .accepted b
    | none => .reject .unreadableBool

def readBool : Json → Checked Bool
  | .bool b => .accepted b
  | .str t => readBoolText t
  | .number (.int n) => boolOfInt n
  | .number (.double x) =>
    match x.toInt? with
    | some n => if n = leastWord then .reject .notABool else boolOfInt n
    | none => .reject .notABool
  | _ => .reject .notABool

def dropZeroPlaces (t : Text) : Text :=
  match t.splitOn (CodePoint.ofChar '.') with
  | [whole, places] =>
    if !places.isEmpty && places.all (· = CodePoint.ofChar '0') then whole else t
  | _ => t

/-- The sign and the digits of a whole number: white space around it, a sign, ASCII digits
grouped by low lines, and perhaps a point with zeros after it. -/
def intDigits? (t : Text) : Option (Bool × List Nat) :=
  let (negative, body) := Numeral.takeSign (dropZeroPlaces (t.trim CodePoint.isWhiteSpace))
  (Numeral.groupedDigits? (·.digitValue? 10) body).map fun digits => (negative, digits)

def readIntText (t : Text) : Checked Int :=
  if t.hasSurrogate then .reject .loneSurrogate
  else
    match intDigits? t with
    | none => .reject .unreadableInt
    | some (negative, digits) =>
      if Numeral.digitLimit < digits.length then .reject .oversizedInt
      else .accepted (Numeral.signed negative (Numeral.value 10 digits))

/-- A double without a fraction stands for its whole number if that lies within 64 bits. -/
def intOfDouble (x : Double) : Checked Int :=
  match x with
  | .finite .. =>
    match x.toInt? with
    | some n =>
      if isWord n && n ≠ leastWord then .accepted n else .reject .oversizedInt
    | none => .reject .fractionalInt
  | _ => .reject .infiniteInt

def readInt : Json → Checked Int
  | .bool b => .accepted b.toInt
  | .str t => readIntText t
  | .number (.int n) => .accepted n
  | .number (.double x) => intOfDouble x
  | _ => .reject .notAnInt

def readCount (json : Json) : Checked Nat :=
  (readInt json).andThen fun n =>
    if 0 ≤ n then .accepted n.toNat else .reject .negativeInt

def namedDouble? (t : Text) : Option Double :=
  let (negative, name) := Numeral.takeSign t.asciiLower
  if name = Text.ofString "nan" then some .nan
  else if name = Text.ofString "inf" ∨ name = Text.ofString "infinity" then some (.infinite negative)
  else none

def doubleOfText? (t : Text) : Option Double :=
  let t := t.trim CodePoint.isWhiteSpace
  match namedDouble? t with
  | some x => some x
  | none => Number.decimal? (Numeral.takeGroupedDigits (·.digitValue? 10) false) t

/-- A value that can be read neither as a whole number nor as a double has a problem with each. -/
def rejectNumber (asInt asDouble : Cause) : Checked Number :=
  .rejected [⟨[.key "int"], asInt⟩, ⟨[.key "float"], asDouble⟩]

def readNumber : Json → Checked Number
  | .bool b => .accepted (.int b.toInt)
  | .number n => .accepted n
  | .str t =>
    match readIntText t with
    | .accepted n => .accepted (.int n)
    | _ =>
      if t.hasSurrogate then rejectNumber .loneSurrogate .loneSurrogate
      else
        match doubleOfText? t with
        | some x => .accepted (.double x)
        | none => rejectNumber .unreadableInt .unreadableDouble
  | _ => rejectNumber .notAnInt .notADouble

end FormIntake.Scalar
