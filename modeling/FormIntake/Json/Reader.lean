import FormIntake.Json.Basic
import FormIntake.Numeral
import FormIntake.Text.Surrogates
/-!
# Reading JSON

A reader for JSON text. Beside the standard's grammar it takes `NaN`,
`Infinity` and `-Infinity`. An escaped pair of surrogates is one code point; a
lone one stays. Of several members with one key the last value counts, in the
place of the first.
-/

namespace FormIntake.Json

inductive ReadError where
  | malformed
  | integerTooLong
  | nestedTooDeep
  deriving DecidableEq

/-- How many digits a whole number may have, and how deep lists and objects may be nested. -/
structure Limits where
  digits : Option Nat
  depth : Option Nat

namespace Limits

def unlimited : Limits := ⟨none, none⟩

/-- The limits for text from outside. -/
def guarded : Limits := ⟨some Numeral.digitLimit, some 960⟩

def allowDigits (l : Limits) (digits : Nat) : Bool :=
  l.digits.all (digits ≤ ·)

def allowDepth (l : Limits) (depth : Nat) : Bool :=
  l.depth.all (depth < ·)

end Limits

namespace Reader

def isSpace (c : CodePoint) : Bool :=
  c.val == 0x20 || c.val == 0x09 || c.val == 0x0A || c.val == 0x0D

def skipSpace (t : Text) : Text :=
  t.dropWhile isSpace

/-- Where the reader of a string stands: at a character, after a backslash, or with
hexadecimal digits still to come. -/
inductive StringState where
  | plain
  | escape
  | hex (value left : Nat)

def simpleEscape? (c : CodePoint) : Option CodePoint :=
  match c.val with
  | 0x22 | 0x5C | 0x2F => some c
  | 0x62 => some (CodePoint.ofNat 0x08)
  | 0x66 => some (CodePoint.ofNat 0x0C)
  | 0x6E => some (CodePoint.ofNat 0x0A)
  | 0x72 => some (CodePoint.ofNat 0x0D)
  | 0x74 => some (CodePoint.ofNat 0x09)
  | _ => none

/-- Adds an escaped code point to what was read, the last first. `afterHigh` says that the last
one was an escaped high surrogate. -/
def addEscaped (c : CodePoint) (afterHigh : Bool) (done : Text) : Bool × Text :=
  match afterHigh, done with
  | true, high :: before =>
    if c.isLowSurrogate then (false, CodePoint.ofSurrogates high c :: before)
    else (c.isHighSurrogate, c :: done)
  | _, _ => (c.isHighSurrogate, c :: done)

def stringBody (state : StringState) (afterHigh : Bool) (done : Text) :
    Text → Option (Text × Text)
  | [] => none
  | c :: rest =>
    match state with
    | .plain =>
      if c.val = 0x22 then some (done.reverse, rest)
      else if c.val = 0x5C then stringBody .escape afterHigh done rest
      else if c.val < 0x20 then none
      else stringBody .plain false (c :: done) rest
    | .escape =>
      if c.val = 0x75 then stringBody (.hex 0 4) afterHigh done rest
      else
        match simpleEscape? c with
        | some e => stringBody .plain false (e :: done) rest
        | none => none
    | .hex value left =>
      match c.digitValue? 16 with
      | none => none
      | some d =>
        let value := value * 16 + d
        if left ≤ 1 then
          let (afterHigh, done) := addEscaped (CodePoint.ofNat value) afterHigh done
          stringBody .plain afterHigh done rest
        else stringBody (.hex value (left - 1)) afterHigh done rest

def decimalDigits (t : Text) : List Nat × Text :=
  Numeral.takeDigits (·.digitValue? 10) t

/-- The digits before the point: a single 0, or digits that start with another one. -/
def wholePart (t : Text) : List Nat × Text :=
  match t with
  | c :: rest => if c.val = 0x30 then ([0], rest) else decimalDigits t
  | [] => ([], [])

def fractionPart (t : Text) : Option (List Nat) × Text :=
  match t with
  | c :: rest =>
    if c.val = 0x2E then
      match decimalDigits rest with
      | ([], _) => (none, t)
      | (digits, rest) => (some digits, rest)
    else (none, t)
  | [] => (none, t)

def exponentPart (t : Text) : Option Int × Text :=
  match t with
  | c :: rest =>
    if c.val = 0x65 ∨ c.val = 0x45 then
      let (negative, rest) := Numeral.takeSign rest
      match decimalDigits rest with
      | ([], _) => (none, t)
      | (digits, rest) => (some (Numeral.signed negative (Numeral.value 10 digits)), rest)
    else (none, t)
  | [] => (none, t)

def readNumber (limits : Limits) (t : Text) : Except ReadError (Number × Text) :=
  let (negative, body) :=
    match t with
    | c :: rest => if c.val = 0x2D then (true, rest) else (false, t)
    | [] => (false, [])
  match wholePart body with
  | ([], _) => .error .malformed
  | (digits, rest) =>
    match fractionPart rest with
    | (fraction, rest) =>
      match exponentPart rest with
      | (exponent, rest) =>
        if fraction.isNone ∧ exponent.isNone then
          if limits.allowDigits digits.length then
            .ok (.int (Numeral.signed negative (Numeral.value 10 digits)), rest)
          else .error .integerTooLong
        else
          let places := fraction.getD []
          .ok (.double (.ofDecimal negative (Numeral.value 10 (digits ++ places))
            (exponent.getD 0 - places.length)), rest)

def words : List (Text × Json) := [
  ("null", .null), ("true", .bool true), ("false", .bool false),
  ("NaN", .number (.double .nan)), ("Infinity", .number (.double (.infinite false))),
  ("-Infinity", .number (.double (.infinite true)))]

def readWord? (t : Text) : Option (Json × Text) :=
  words.findSome? fun (word, json) => (word.isPrefixOf? t).map fun rest => (json, rest)

mutual

/-- Reads a value that starts here, inside `depth` lists and objects. The fuel bounds the calls
in a chain. -/
def readValue (limits : Limits) (fuel depth : Nat) (t : Text) : Except ReadError (Json × Text) :=
  match fuel with
  | 0 => .error .malformed
  | fuel + 1 =>
    match t with
    | [] => .error .malformed
    | c :: rest =>
      if c.val = 0x22 then
        match stringBody .plain false [] rest with
        | some (text, rest) => .ok (.str text, rest)
        | none => .error .malformed
      else if c.val = 0x5B then
        if limits.allowDepth depth then
          match skipSpace rest with
          | d :: after =>
            if d.val = 0x5D then .ok (.arr [], after)
            else
              (readItems limits fuel (depth + 1) (d :: after)).map
                fun (items, rest) => (.arr items, rest)
          | [] => .error .malformed
        else .error .nestedTooDeep
      else if c.val = 0x7B then
        if limits.allowDepth depth then
          match skipSpace rest with
          | d :: after =>
            if d.val = 0x7D then .ok (.obj [], after)
            else
              (readMembers limits fuel (depth + 1) [] (d :: after)).map
                fun (members, rest) => (.obj members, rest)
          | [] => .error .malformed
        else .error .nestedTooDeep
      else
        match readWord? t with
        | some (json, rest) => .ok (json, rest)
        | none => (readNumber limits t).map fun (n, rest) => (.number n, rest)

def readItems (limits : Limits) (fuel depth : Nat) (t : Text) :
    Except ReadError (List Json × Text) :=
  match fuel with
  | 0 => .error .malformed
  | fuel + 1 =>
    match readValue limits fuel depth t with
    | .error e => .error e
    | .ok (item, rest) =>
      match skipSpace rest with
      | [] => .error .malformed
      | c :: rest =>
        if c.val = 0x5D then .ok ([item], rest)
        else if c.val = 0x2C then
          (readItems limits fuel depth (skipSpace rest)).map
            fun (items, rest) => (item :: items, rest)
        else .error .malformed

def readMembers (limits : Limits) (fuel depth : Nat) (done : Assoc Text Json) (t : Text) :
    Except ReadError (Assoc Text Json × Text) :=
  match fuel with
  | 0 => .error .malformed
  | fuel + 1 =>
    match t with
    | [] => .error .malformed
    | quote :: rest =>
      if quote.val ≠ 0x22 then .error .malformed
      else
        match stringBody .plain false [] rest with
        | none => .error .malformed
        | some (key, rest) =>
          match skipSpace rest with
          | [] => .error .malformed
          | colon :: rest =>
            if colon.val ≠ 0x3A then .error .malformed
            else
              match readValue limits fuel depth (skipSpace rest) with
              | .error e => .error e
              | .ok (value, rest) =>
                match skipSpace rest with
                | [] => .error .malformed
                | c :: rest =>
                  if c.val = 0x7D then .ok (done.put key value, rest)
                  else if c.val = 0x2C then
                    readMembers limits fuel depth (done.put key value) (skipSpace rest)
                  else .error .malformed

end

end Reader

def read (limits : Limits) (t : Text) : Except ReadError Json :=
  match Reader.readValue limits (2 * t.length + 2) 0 (Reader.skipSpace t) with
  | .error e => .error e
  | .ok (json, rest) =>
    if (Reader.skipSpace rest).isEmpty then .ok json else .error .malformed

end FormIntake.Json
