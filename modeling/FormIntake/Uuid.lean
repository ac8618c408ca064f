import FormIntake.Numeral
/-!
# UUIDs

Keys of 128 bits. The canonical text has 32 small hexadecimal digits in five
groups; the reader also takes other spellings of a key.
-/

namespace FormIntake

abbrev Uuid := Fin (Nat.pow 2 128)

namespace Uuid

def ofNat? (n : Nat) : Option Uuid :=
  if h : n < Nat.pow 2 128 then some ⟨n, h⟩ else none

def hyphen : CodePoint := CodePoint.ofChar '-'

/-- The canonical text, in groups of 8, 4, 4, 4 and 12 digits. -/
def text (id : Uuid) : Text :=
  let digits := Text.hex 32 id.val
  digits.take 8 ++ hyphen :: (digits.drop 8).take 4 ++ hyphen :: (digits.drop 12).take 4 ++
    hyphen :: (digits.drop 16).take 4 ++ hyphen :: digits.drop 20

def isBrace (c : CodePoint) : Bool :=
  c = CodePoint.ofChar '\x7b' || c = CodePoint.ofChar '\x7d'

/-- The text without the words `urn:` and `uuid:`, braces at the ends and hyphens. -/
def bare (t : Text) : Text :=
  (((t.removeAll "urn:").removeAll "uuid:").trim isBrace).filter (· ≠ hyphen)

def read? (t : Text) : Option Uuid :=
  if (bare t).length = 32 then
    match Numeral.readInt? 16 (bare t) with
    | some n => if 0 ≤ n then ofNat? n.toNat else none
    | none => none
  else none

end Uuid

end FormIntake
