import FormIntake.Numeral
import FormIntake.Unicode.NameTable
/-!
# Character names

The code point that a name stands for. Unified ideographs are named by their
numbers and syllables of Hangul by their letters, in capitals. The other names
may be written in either case; nearly all of them stand in a table.
-/

namespace FormIntake.Unicode

/-! ## Names by rule -/

def hangulLeads : List Text := [
  "G", "GG", "N", "D", "DD", "R", "M", "B", "BB", "S", "SS", "", "J", "JJ", "C", "K", "T", "P",
  "H"].map Text.ofString

def hangulVowels : List Text := [
  "A", "AE", "YA", "YAE", "EO", "E", "YEO", "YE", "O", "WA", "WAE", "OE", "YO", "U", "WEO", "WE",
  "WI", "YU", "EU", "YI", "I"].map Text.ofString

def hangulTails : List Text := [
  "", "G", "GG", "GS", "N", "NJ", "NH", "D", "L", "LG", "LM", "LB", "LS", "LT", "LP", "LH", "M",
  "B", "BS", "S", "SS", "NG", "J", "C", "K", "T", "P", "H"].map Text.ofString

def longest? (spellings : List Text) (t : Text) : Option (Nat × Text) :=
  let starts := spellings.zipIdx.filterMap fun (spelling, i) =>
    (spelling.isPrefixOf? t).map fun rest => (i, rest)
  starts.foldl (fun best? (i, rest) =>
    match best? with
    | some best => if rest.length < best.2.length then some (i, rest) else some best
    | none => some (i, rest)) none

def syllable? (letters : Text) : Option Nat := do
  let (lead, rest) ← longest? hangulLeads letters
  let (vowel, rest) ← longest? hangulVowels rest
  let (tail, rest) ← longest? hangulTails rest
  if rest.isEmpty then some (0xAC00 + (lead * 21 + vowel) * 28 + tail) else none

def hexValue? (t : Text) : Option Nat :=
  (t.mapM (CodePoint.digitValue? 16)).map (Numeral.value 16)

/-- The unified ideographs of Unicode 14. -/
def ideographs : List (Nat × Nat) := [
  (0x3400, 0x4DBF), (0x4E00, 0x9FFF), (0x20000, 0x2A6DF), (0x2A700, 0x2B738), (0x2B740, 0x2B81D),
  (0x2B820, 0x2CEA1), (0x2CEB0, 0x2EBE0), (0x30000, 0x3134A)]

def ideograph? (digits : Text) : Option Nat := do
  let n ← hexValue? digits
  if (digits.length = 4 ∨ digits.length = 5) ∧ digits.asciiUpper = digits ∧
      ideographs.any (fun (low, high) => low ≤ n && n ≤ high) then some n
  else none

/-- Beginnings of names that go on with the number of the code point, and the numbers. -/
def numbered : List (Text × Nat × Nat) := [
  ("CJK COMPATIBILITY IDEOGRAPH-", 0xF900, 0xFA6D),
  ("CJK COMPATIBILITY IDEOGRAPH-", 0xFA70, 0xFAD9),
  ("CJK COMPATIBILITY IDEOGRAPH-", 0x2F800, 0x2FA1D),
  ("KHITAN SMALL SCRIPT CHARACTER-", 0x18B00, 0x18CD5), ("NUSHU CHARACTER-", 0x1B170, 0x1B2FB)]

def numbered? (name : Text) : Option Nat :=
  numbered.findSome? fun (start, low, high) => do
    let digits ← start.isPrefixOf? name
    let n ← hexValue? digits
    if digits.length = (Nat.toDigits 16 n).length ∧ low ≤ n ∧ n ≤ high then some n else none

/-! ## Names in the table -/

def wordEnd : CodePoint := CodePoint.ofChar ' '
def nameEnd : CodePoint := CodePoint.ofChar ';'
def lineEnd : CodePoint := CodePoint.ofNat 0x0A

structure Search where
  number : Nat
  words : List Text
  found : Option Nat

namespace Search

def start : Search := ⟨0, [], none⟩

/-- The words of a name that is coded by what it has in common with the name before it. -/
def decode (before : List Text) : Text → List Text
  | [] => before
  | shared :: rest => before.take ((shared.digitValue? 36).getD 0) ++ Text.splitOn wordEnd rest

def step (name : List Text) (s : Search) (coded : Text) : Search :=
  let words := decode s.words coded
  ⟨s.number + 1, words, if words = name then some s.number else s.found⟩

def line (name : List Text) (s : Search) (t : Text) : Search :=
  let number := (hexValue? (t.takeWhile (· ≠ wordEnd))).getD 0
  let names := ((t.dropWhile (· ≠ wordEnd)).drop 1).splitOn nameEnd
  names.foldl (step name) { s with number := number }

end Search

def inTable? (table : String) (name : Text) : Option Nat :=
  let lines := (Text.ofString table).splitOn lineEnd
  (lines.foldl (Search.line (name.splitOn wordEnd)) .start).found

def numberOf? (name : Text) : Option Nat :=
  match (Text.ofString "HANGUL SYLLABLE ").isPrefixOf? name with
  | some letters => syllable? letters
  | none =>
    match (Text.ofString "CJK UNIFIED IDEOGRAPH-").isPrefixOf? name with
    | some digits => ideograph? digits
    | none =>
      let name := name.asciiUpper
      (numbered? name).or ((inTable? nameTable name).or (inTable? aliasTable name))

def named? (name : Text) : Option CodePoint :=
  (numberOf? name).bind CodePoint.ofNat?

end FormIntake.Unicode
