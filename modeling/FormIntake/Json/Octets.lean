import FormIntake.Text.Utf8
/-!
# The encoding of JSON text

JSON text comes as octets in UTF-8, UTF-16 or UTF-32. A byte order mark tells
which one it is; without it the zeros among the first octets do, as the first
two characters are ASCII. Lone surrogates are taken in every encoding.
-/

namespace FormIntake.Json

inductive Encoding where
  | utf8
  | utf16 (bigEndian : Bool)
  | utf32 (bigEndian : Bool)
  deriving DecidableEq

namespace Encoding

/-- The encodings with their byte order marks. The mark of UTF-16 begins the one of UTF-32, which
therefore comes before it. -/
def marks : List (List Byte × Encoding) :=
  [([0x00, 0x00, 0xFE, 0xFF], utf32 true), ([0xFF, 0xFE, 0x00, 0x00], utf32 false),
    ([0xFE, 0xFF], utf16 true), ([0xFF, 0xFE], utf16 false), ([0xEF, 0xBB, 0xBF], utf8)]

def ofZeros (octets : List Byte) : Encoding :=
  match octets with
  | [0, _] => utf16 true
  | [_, 0] => utf16 false
  | 0 :: b :: _ :: _ :: _ => if b = 0 then utf32 true else utf16 true
  | _ :: 0 :: c :: d :: _ => if c = 0 ∧ d = 0 then utf32 false else utf16 false
  | _ => utf8

/-- The number that octets write, the highest first if `bigEndian`. -/
def unit (bigEndian : Bool) (octets : List Byte) : Nat :=
  let octets := if bigEndian then octets else octets.reverse
  octets.foldl (fun n octet => n * 256 + octet.toNat) 0

def units16? (bigEndian : Bool) : List Byte → Option (List Nat)
  | [] => some []
  | a :: b :: rest => (units16? bigEndian rest).map (unit bigEndian [a, b] :: ·)
  | [_] => none

def units32? (bigEndian : Bool) : List Byte → Option (List Nat)
  | [] => some []
  | a :: b :: c :: d :: rest => (units32? bigEndian rest).map (unit bigEndian [a, b, c, d] :: ·)
  | _ => none

def decode? (encoding : Encoding) (octets : List Byte) : Option Text :=
  match encoding with
  | utf8 => Text.readUtf8? octets
  | utf16 bigEndian =>
    (units16? bigEndian octets).map fun units => Text.joinSurrogates (units.map CodePoint.ofNat)
  | utf32 bigEndian => (units32? bigEndian octets).bind fun units => units.mapM CodePoint.ofNat?

end Encoding

def ofOctets? (octets : List Byte) : Option Text :=
  let marked? := Encoding.marks.findSome? fun (mark, encoding) =>
    (mark.isPrefixOf? octets).map fun rest => (encoding, rest)
  match marked? with
  | some (encoding, rest) => encoding.decode? rest
  | none => (Encoding.ofZeros octets).decode? octets

end FormIntake.Json
