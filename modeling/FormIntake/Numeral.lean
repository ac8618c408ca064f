import FormIntake.Text.Blank
import FormIntake.Unicode.Digit
/-!
# Numerals

Whole numbers as they are written: runs of digits, signs, digits grouped by
single low lines, and the prefix of base sixteen.
-/

namespace FormIntake.Numeral

def lowLine : CodePoint := CodePoint.ofChar '_'

/-- The number with the given digits, the highest first. -/
def value (base : Nat) (digits : List Nat) : Nat :=
  digits.foldl (fun n d => base * n + d) 0

def takeDigits (digit? : CodePoint → Option Nat) : Text → List Nat × Text
  | [] => ([], [])
  | c :: rest =>
    match digit? c with
    | some d =>
      let (digits, rest) := takeDigits digit? rest
      (d :: digits, rest)
    | none => ([], c :: rest)

/-- Like `takeDigits`, with single low lines allowed between digits; `inside` tells whether a
digit has just been taken. -/
def takeGroupedDigits (digit? : CodePoint → Option Nat) (inside : Bool) : Text → List Nat × Text
  | [] => ([], [])
  | c :: rest =>
    match digit? c with
    | some d =>
      let (digits, rest) := takeGroupedDigits digit? true rest
      (d :: digits, rest)
    | none =>
      if inside && c = lowLine then
        match takeGroupedDigits digit? false rest with
        | ([], _) => ([], c :: rest)
        | taken => taken
      else ([], c :: rest)

def groupedDigits? (digit? : CodePoint → Option Nat) (t : Text) : Option (List Nat) :=
  ((t.splitOn lowLine).mapM fun (part : Text) =>
    if part.isEmpty then none else part.mapM digit?).map List.flatten

def takeSign : Text → Bool × Text
  | [] => (false, [])
  | c :: rest =>
    if c = CodePoint.ofChar '-' then (true, rest)
    else if c = CodePoint.ofChar '+' then (false, rest)
    else (false, c :: rest)

def signed (negative : Bool) (n : Nat) : Int :=
  if negative then -(n : Int) else n

/-- A digit of the base: an ASCII letter or digit, or a decimal digit of another script. -/
def anyDigit? (base : Nat) (c : CodePoint) : Option Nat :=
  if c.val < 0x80 then c.digitValue? base else
    match c.decimalValue? with
    | some d => if d < base then some d else none
    | none => none

def dropHexPrefix (t : Text) : Text :=
  match t with
  | zeroDigit :: mark :: rest =>
    if zeroDigit = CodePoint.ofChar '0' ∧ (mark = CodePoint.ofChar 'x' ∨ mark = CodePoint.ofChar 'X')
    then
      match rest with
      | c :: more => if c = lowLine then more else rest
      | [] => rest
    else t
  | _ => t

/-- Reads a whole number in base ten or sixteen: white space around it, a sign, in base
sixteen a prefix `0x`, then digits grouped by low lines. -/
def readInt? (base : Nat) (t : Text) : Option Int :=
  let (negative, body) := takeSign (t.trim CodePoint.isWhiteSpace)
  let body := if base = 16 then dropHexPrefix body else body
  (groupedDigits? (anyDigit? base) body).map fun digits => signed negative (value base digits)

/-- Longer decimal numerals are refused where a whole number is made of them. -/
def digitLimit : Nat := 4300

def tooLongToRead (digits : Nat) : Text :=
  "Exceeds the limit (4300 digits) for integer string conversion: value has " ++
    Text.ofNat digits ++ " digits; use sys.set_int_max_str_digits() to increase the limit"

def tooLongToWrite : Text :=
  "Exceeds the limit (4300 digits) for integer string conversion; " ++
    "use sys.set_int_max_str_digits() to increase the limit"

def fits (n : Int) : Bool :=
  n.natAbs < Nat.pow 10 digitLimit

end FormIntake.Numeral
