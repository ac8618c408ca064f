import FormIntake.Text.Blank
import FormIntake.Unicode.Alphanumeric
import FormIntake.Unicode.Digit
import FormIntake.Unicode.LetterCase
import FormIntake.Unicode.RangeTable
/-!
# Patterns

Regular expressions over code points, with all modes resolved: every test says
itself whether it ignores case and which alphabet its classes mean.
-/

namespace FormIntake

namespace Pattern

/-- How a test treats letters that differ in case only. -/
inductive CaseMode where
  | exact
  | ascii
  | unicode
  deriving DecidableEq

inductive ClassKind where
  | digit
  | space
  | word
  deriving DecidableEq

inductive SetItem where
  | single (c : CodePoint)
  | range (low high : CodePoint)
  | kind (k : ClassKind) (ascii negated : Bool)
  deriving DecidableEq

structure CharTest where
  items : List SetItem
  negated : Bool
  mode : CaseMode
  deriving DecidableEq

inductive Edge where
  | textStart
  | lineStart
  | textEnd
  /-- The end, or just before a line break that ends the text. -/
  | lastLineEnd
  | lineEnd
  | word (ascii negated : Bool)
  deriving DecidableEq

/-- In which order the numbers of rounds of a loop are tried; `possessive` settles for the first. -/
inductive Greed where
  | greedy
  | lazy
  | possessive
  deriving DecidableEq

end Pattern

open Pattern in
inductive Pattern where
  | empty
  | one (test : CharTest)
  | edge (e : Edge)
  | seq (first second : Pattern)
  | alt (left right : Pattern)
  /-- A group whose match is kept under a number. -/
  | capture (index : Nat) (body : Pattern)
  /-- Matches the text that a group matched last. -/
  | backReference (index : Nat) (mode : CaseMode)
  /-- The first pattern if the group has matched, otherwise the second. -/
  | ifMatched (index : Nat) (yes no : Pattern)
  /-- Looks ahead, or behind from as many code points back as `behind` says, and stays in place. -/
  | look (behind : Option Nat) (negated : Bool) (body : Pattern)
  /-- Keeps the first match of the body for good. -/
  | atomic (body : Pattern)
  /-- At least `least` rounds, and at most `most` unless that is `none`. -/
  | loop (greed : Greed) (least : Nat) (most : Option Nat) (body : Pattern)
  deriving DecidableEq

namespace Pattern

def isWordChar (ascii : Bool) (c : CodePoint) : Bool :=
  c.val == 0x5F ||
    if ascii then c.isAsciiDigit || c.isAsciiLetter else Unicode.alphanumeric.contains c.val

def isAsciiSpace (c : CodePoint) : Bool :=
  (0x09 ≤ c.val && c.val ≤ 0x0D) || c.val == 0x20

def ClassKind.holds (kind : ClassKind) (ascii : Bool) (c : CodePoint) : Bool :=
  match kind with
  | .digit => if ascii then c.isAsciiDigit else c.isDecimal
  | .space => if ascii then isAsciiSpace c else c.isBlank
  | .word => isWordChar ascii c

def SetItem.holds (item : SetItem) (c : CodePoint) : Bool :=
  match item with
  | .single d => c == d
  | .range low high => low ≤ c && c ≤ high
  | .kind k ascii negated => k.holds ascii c != negated

def CaseMode.variants (mode : CaseMode) (c : CodePoint) : Text :=
  match mode with
  | .exact => [c]
  | .ascii => c.asciiCaseVariants
  | .unicode => c.caseVariants

def CharTest.holds (test : CharTest) (c : CodePoint) : Bool :=
  (test.mode.variants c).any (fun v => test.items.any (·.holds v)) != test.negated

def CaseMode.same (mode : CaseMode) (c d : CodePoint) : Bool :=
  (mode.variants c).contains d

def concat : List Pattern → Pattern
  | [] => empty
  | [p] => p
  | p :: q :: rest => seq p (concat (q :: rest))

/-- The least and the greatest number of code points of a match; no greatest means no end. -/
structure Width where
  least : Nat
  greatest : Option Nat
  deriving DecidableEq

namespace Width

def exactly (n : Nat) : Width :=
  ⟨n, some n⟩

def add (v w : Width) : Width :=
  ⟨v.least + w.least, v.greatest.bind fun m => w.greatest.map (m + ·)⟩

def either (v w : Width) : Width :=
  ⟨min v.least w.least, v.greatest.bind fun m => w.greatest.map (max m ·)⟩

def rounds (least : Nat) (most : Option Nat) (w : Width) : Width :=
  ⟨w.least * least,
    match w.greatest, most with
    | some 0, _ => some 0
    | _, some 0 => some 0
    | some m, some n => some (m * n)
    | _, _ => none⟩

end Width

/-- The width of a pattern, given the widths of the groups that it recalls. -/
def width (groups : Nat → Width) : Pattern → Width
  | empty => .exactly 0
  | one _ => .exactly 1
  | edge _ => .exactly 0
  | seq first second => (first.width groups).add (second.width groups)
  | alt left right => (left.width groups).either (right.width groups)
  | capture _ body => body.width groups
  | backReference index _ => groups index
  | ifMatched _ yes no => (yes.width groups).either (no.width groups)
  | look .. => .exactly 0
  | atomic body => body.width groups
  | loop _ least most body => (body.width groups).rounds least most

end Pattern

end FormIntake
