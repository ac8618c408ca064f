import FormIntake.Text.Surrogates
/-!
# UTF-8

Encoding of code points as bytes, and two ways of decoding: one puts U+FFFD in
the place of every malformed part, the other takes only what is well formed,
lone surrogates included.
-/

namespace FormIntake

abbrev Byte := UInt8

/-- The UTF-8 bytes of a code point; a surrogate is encoded like its neighbours. -/
def CodePoint.utf8 (c : CodePoint) : List Byte :=
  let n := c.val
  if n < 0x80 then [n.toUInt8]
  else if n < 0x800 then [(0xC0 + n / 64).toUInt8, (0x80 + n % 64).toUInt8]
  else if n < 0x10000 then
    [(0xE0 + n / 4096).toUInt8, (0x80 + n / 64 % 64).toUInt8, (0x80 + n % 64).toUInt8]
  else
    [(0xF0 + n / 262144).toUInt8, (0x80 + n / 4096 % 64).toUInt8,
      (0x80 + n / 64 % 64).toUInt8, (0x80 + n % 64).toUInt8]

namespace Text

def utf8 (t : Text) : List Byte :=
  t.flatMap CodePoint.utf8

/-- The values a second byte may have after a leading byte, and how many bytes follow the
leading one. -/
def continuation? (lead : Nat) : Option (Nat × Nat × Nat) :=
  if 0xC2 ≤ lead ∧ lead ≤ 0xDF then some (0x80, 0xBF, 1)
  else if lead = 0xE0 then some (0xA0, 0xBF, 2)
  else if lead = 0xED then some (0x80, 0x9F, 2)
  else if 0xE1 ≤ lead ∧ lead ≤ 0xEF then some (0x80, 0xBF, 2)
  else if lead = 0xF0 then some (0x90, 0xBF, 3)
  else if 0xF1 ≤ lead ∧ lead ≤ 0xF3 then some (0x80, 0xBF, 3)
  else if lead = 0xF4 then some (0x80, 0x8F, 3)
  else none

/-- Where decoding stands: between code points, or with bytes still owed. -/
inductive Utf8State where
  | ready
  | owing (value low high owed : Nat)

def startByte (b : Nat) : Utf8State × Text :=
  if b < 0x80 then (.ready, [CodePoint.ofNat b])
  else
    match continuation? b with
    | some (low, high, owed) =>
      (.owing (b % (if owed = 1 then 32 else if owed = 2 then 16 else 8)) low high owed, [])
    | none => (.ready, [.replacement])

def stepByte (state : Utf8State) (b : Nat) : Utf8State × Text :=
  match state with
  | .ready => startByte b
  | .owing value low high owed =>
    if low ≤ b ∧ b ≤ high then
      let value := value * 64 + b % 64
      if owed = 1 then (.ready, [CodePoint.ofNat value])
      else (.owing value 0x80 0xBF (owed - 1), [])
    else
      let (next, out) := startByte b
      (next, CodePoint.replacement :: out)

def decodeFrom : Utf8State → List Byte → Text
  | .ready, [] => []
  | .owing .., [] => [.replacement]
  | state, b :: rest =>
    let (next, out) := stepByte state b.toNat
    out ++ decodeFrom next rest

/-- Reads UTF-8; the longest correct beginning of a broken sequence, or a lone byte, becomes
U+FFFD. -/
def ofUtf8 (bytes : List Byte) : Text :=
  decodeFrom .ready bytes

/-- The code points that bytes write if every leading byte is followed by as many others as it
calls for; so many are still `owed` to the `value` read so far. -/
def spelled (value owed : Nat) : List Byte → Text
  | [] => []
  | byte :: rest =>
    let b := byte.toNat
    match owed with
    | 0 =>
      if b < 0x80 then CodePoint.ofNat b :: spelled 0 0 rest
      else if b < 0xE0 then spelled (b % 32) 1 rest
      else if b < 0xF0 then spelled (b % 16) 2 rest
      else spelled (b % 8) 3 rest
    | 1 => CodePoint.ofNat (value * 64 + b % 64) :: spelled 0 0 rest
    | owed + 2 => spelled (value * 64 + b % 64) (owed + 1) rest

def readUtf8? (bytes : List Byte) : Option Text :=
  let t := spelled 0 0 bytes
  if t.utf8 = bytes then some t else none

end Text

end FormIntake
