import FormIntake.Text.Basic
/-!
# Surrogates

A high surrogate and a low one after it write one code point in UTF-16. Where a
text goes through an encoding, such pairs are joined, and lone surrogates may
get lost.
-/

namespace FormIntake

namespace CodePoint

def isHighSurrogate (c : CodePoint) : Bool :=
  0xD800 ≤ c.val && c.val ≤ 0xDBFF

def isLowSurrogate (c : CodePoint) : Bool :=
  0xDC00 ≤ c.val && c.val ≤ 0xDFFF

def ofSurrogates (high low : CodePoint) : CodePoint :=
  ofNat (0x10000 + (high.val - 0xD800) * 0x400 + (low.val - 0xDC00))

def replacement : CodePoint := ofNat 0xFFFD

/-- Without an encoding of its own, each of the three bytes of a surrogate is replaced. -/
def replaced (c : CodePoint) : Text :=
  if c.isSurrogate then List.replicate 3 replacement else [c]

end CodePoint

namespace Text

def joinSurrogates : Text → Text
  | high :: low :: rest =>
    if high.isHighSurrogate && low.isLowSurrogate then
      CodePoint.ofSurrogates high low :: joinSurrogates rest
    else high :: joinSurrogates (low :: rest)
  | t => t

def replaceSurrogates (t : Text) : Text :=
  t.flatMap CodePoint.replaced

end Text

end FormIntake
