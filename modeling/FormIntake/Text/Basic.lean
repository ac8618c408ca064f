/-!
# Text

A text is a list of code points. Lone surrogates are code points too, so every
JSON string is a text.
-/

namespace FormIntake

/-- A Unicode code point, surrogates included. -/
abbrev CodePoint := Fin 0x110000

abbrev Text := List CodePoint

namespace CodePoint

def ofChar (c : Char) : CodePoint :=
  ⟨c.toNat, by
    have h := c.valid
    simp only [UInt32.isValidChar, Nat.isValidChar] at h
    show c.val.toNat < 0x110000
    omega⟩

def ofNat? (n : Nat) : Option CodePoint :=
  if h : n < 0x110000 then some ⟨n, h⟩ else none

/-- The code point of the given number; U+FFFD stands for numbers that have none. -/
def ofNat (n : Nat) : CodePoint :=
  if h : n < 0x110000 then ⟨n, h⟩ else ⟨0xFFFD, by decide⟩

def isSurrogate (c : CodePoint) : Bool :=
  0xD800 ≤ c.val && c.val ≤ 0xDFFF

/-- How many UTF-16 units the code point takes; a surrogate is one unit. -/
def utf16Length (c : CodePoint) : Nat :=
  if c.val < 0x10000 then 1 else 2

def isAsciiDigit (c : CodePoint) : Bool :=
  0x30 ≤ c.val && c.val ≤ 0x39

def isAsciiLetter (c : CodePoint) : Bool :=
  (0x41 ≤ c.val && c.val ≤ 0x5A) || (0x61 ≤ c.val && c.val ≤ 0x7A)

def asciiLower (c : CodePoint) : CodePoint :=
  if h : 0x41 ≤ c.val ∧ c.val ≤ 0x5A then ⟨c.val + 32, by omega⟩ else c

def asciiUpper (c : CodePoint) : CodePoint :=
  if h : 0x61 ≤ c.val ∧ c.val ≤ 0x7A then ⟨c.val - 32, by omega⟩ else c

/-- The value of an ASCII letter or digit as a digit of a base up to 36. -/
def alphanumericValue? (c : CodePoint) : Option Nat :=
  if 0x30 ≤ c.val && c.val ≤ 0x39 then some (c.val - 0x30)
  else if 0x41 ≤ c.val && c.val ≤ 0x5A then some (c.val - 0x41 + 10)
  else if 0x61 ≤ c.val && c.val ≤ 0x7A then some (c.val - 0x61 + 10)
  else none

def digitValue? (base : Nat) (c : CodePoint) : Option Nat :=
  match c.alphanumericValue? with
  | some d => if d < base then some d else none
  | none => none

end CodePoint

namespace Text

def ofString (s : String) : Text :=
  s.toList.map CodePoint.ofChar

instance : Coe String Text := ⟨ofString⟩

def utf16Length : Text → Nat
  | [] => 0
  | c :: rest => c.utf16Length + utf16Length rest

def hasSurrogate (t : Text) : Bool :=
  t.any CodePoint.isSurrogate

def ofNat (n : Nat) : Text :=
  (Nat.toDigits 10 n).map CodePoint.ofChar

def ofInt : Int → Text
  | .ofNat n => ofNat n
  | .negSucc n => ofString "-" ++ ofNat (n + 1)

def zeroPadded (width : Nat) (t : Text) : Text :=
  List.replicate (width - t.length) (CodePoint.ofChar '0') ++ t

def hex (width n : Nat) : Text :=
  zeroPadded width ((Nat.toDigits 16 n).map CodePoint.ofChar)

def joined (separator : Text) : List Text → Text
  | [] => []
  | [t] => t
  | t :: u :: rest => t ++ separator ++ joined separator (u :: rest)

/-- The parts between the separators: always one more than there are separators. -/
def splitOn (separator : CodePoint) : Text → List Text
  | [] => [[]]
  | c :: rest =>
    if c = separator then [] :: splitOn separator rest
    else
      match splitOn separator rest with
      | part :: parts => (c :: part) :: parts
      | [] => [[c]]

/-- Drops every occurrence of `phrase`, found from the left without overlap. -/
def removeAll (t phrase : Text) : Text :=
  go 0 t
where
  /-- Here `skip` code points still belong to an occurrence already found. -/
  go : Nat → Text → Text
  | _, [] => []
  | skip + 1, _ :: rest => go skip rest
  | 0, c :: rest =>
    if phrase ≠ [] ∧ phrase.isPrefixOf (c :: rest) then go (phrase.length - 1) rest
    else c :: go 0 rest

def trim (p : CodePoint → Bool) (t : Text) : Text :=
  ((t.dropWhile p).reverse.dropWhile p).reverse

def asciiLower (t : Text) : Text :=
  t.map CodePoint.asciiLower

def asciiUpper (t : Text) : Text :=
  t.map CodePoint.asciiUpper

end Text

end FormIntake
