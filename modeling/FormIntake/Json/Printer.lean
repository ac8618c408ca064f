import FormIntake.Json.Basic
/-!
# Writing JSON

Compact ASCII text; every other code point is escaped, one above U+FFFF as two
surrogates.
-/

namespace FormIntake.Json

namespace Printer

def escapeUnit (n : Nat) : Text :=
  "\\u" ++ Text.hex 4 n

def escape (c : CodePoint) : Text :=
  if c.val = 0x22 then "\\\""
  else if c.val = 0x5C then "\\\\"
  else if 0x20 ≤ c.val ∧ c.val < 0x7F then [c]
  else if c.val < 0x10000 then escapeUnit c.val
  else escapeUnit (0xD800 + (c.val - 0x10000) / 0x400) ++
    escapeUnit (0xDC00 + (c.val - 0x10000) % 0x400)

def quoted (t : Text) : Text :=
  "\"" ++ t.flatMap escape ++ "\""

def number : Number → Text
  | .int n => Text.ofInt n
  | .double .nan => "NaN"
  | .double (.infinite negative) => if negative then "-Infinity" else "Infinity"
  | .double x => x.text

end Printer

open Printer

mutual

def print : Json → Text
  | null => "null"
  | bool b => if b then "true" else "false"
  | number n => Printer.number n
  | str t => quoted t
  | arr items => "[" ++ printItems items
  | obj members => "\x7b" ++ printMembers members

def printItems : List Json → Text
  | [] => "]"
  | [item] => print item ++ "]"
  | item :: next :: rest => print item ++ "," ++ printItems (next :: rest)

def printMembers : List (Text × Json) → Text
  | [] => "\x7d"
  | [(key, value)] => quoted key ++ ":" ++ print value ++ "\x7d"
  | (key, value) :: next :: rest =>
    quoted key ++ ":" ++ print value ++ "," ++ printMembers (next :: rest)

end

end FormIntake.Json
