import FormIntake.Text.Basic
/-!
# Blank text

Two notions of space. `isWhiteSpace` is the Unicode property White_Space, which
frames numerals in a form schema. `isBlank` adds the four information
separators and decides everywhere else what is padding and what is empty.
-/

namespace FormIntake

namespace CodePoint

def isWhiteSpace (c : CodePoint) : Bool :=
  (0x09 ≤ c.val && c.val ≤ 0x0D) || c.val == 0x20 || c.val == 0x85 || c.val == 0xA0 ||
  c.val == 0x1680 || (0x2000 ≤ c.val && c.val ≤ 0x200A) || c.val == 0x2028 ||
  c.val == 0x2029 || c.val == 0x202F || c.val == 0x205F || c.val == 0x3000

/-- White_Space and the separators U+001C to U+001F. -/
def isBlank (c : CodePoint) : Bool :=
  c.isWhiteSpace || (0x1C ≤ c.val && c.val ≤ 0x1F)

end CodePoint

namespace Text

def strip (t : Text) : Text :=
  t.trim CodePoint.isBlank

def isBlank (t : Text) : Bool :=
  t.all CodePoint.isBlank

end Text

end FormIntake
