import FormIntake.Text.Basic
import FormIntake.Unicode.RangeTable
import FormIntake.Unicode.Unprintable
/-!
# Quoted text

How a text stands in an error message: between quotation marks, with escapes
for the mark, the backslash and whatever does not print. The mark is a single
quote unless the text has one of those and no double quote. A text that cannot
be encoded is told by its lone surrogates.
-/

namespace FormIntake

def CodePoint.isPrintable (c : CodePoint) : Bool :=
  !Unicode.unprintable.contains c.val

namespace Text

def quotedCodePoint (mark c : CodePoint) : Text :=
  if c = mark ∨ c = CodePoint.ofChar '\\' then [CodePoint.ofChar '\\', c]
  else if c.val = 0x0A then "\\n"
  else if c.val = 0x0D then "\\r"
  else if c.val = 0x09 then "\\t"
  else if c.isPrintable then [c]
  else if c.val < 0x100 then "\\x" ++ hex 2 c.val
  else if c.val < 0x10000 then "\\u" ++ hex 4 c.val
  else "\\U" ++ hex 8 c.val

def quoted (t : Text) : Text :=
  let single := CodePoint.ofChar '\''
  let double := CodePoint.ofChar '"'
  let mark := if t.contains single && !t.contains double then double else single
  mark :: t.flatMap (quotedCodePoint mark) ++ [mark]

/-- Why a text with lone surrogates cannot be written in UTF-8: the first ones, and where they
stand. -/
def unencodable (t : Text) : Text :=
  let start := (t.takeWhile fun c => !c.isSurrogate).length
  let row := (t.drop start).takeWhile CodePoint.isSurrogate
  "'utf-8' codec can't encode " ++
    (match row with
      | [c] => "character '\\u" ++ hex 4 c.val ++ "' in position " ++ ofNat start
      | _ => "characters in position " ++ ofNat start ++ "-" ++ ofNat (start + row.length - 1)) ++
    ": surrogates not allowed"

end Text

end FormIntake
