import FormIntake.Assoc
import FormIntake.Pattern.Syntax
/-!
# Matching

A backtracking matcher. A matcher takes a place in the text and what has to
match after it, tries its ways in order and gives the first place reached.
-/

namespace FormIntake.Pattern

/-- A place in the text: what is before it, the nearest first, what is after it, and the texts
that groups have matched so far. -/
structure Place where
  before : Text
  after : Text
  offset : Nat
  captured : Assoc Nat Text

/-- What has to match after a matcher. -/
abbrev Rest := Place → Option Place

abbrev Matcher := Place → Rest → Option Place

namespace Place

def start (t : Text) : Place :=
  ⟨[], t, 0, []⟩

def step? (s : Place) : Option (CodePoint × Place) :=
  match s.after with
  | [] => none
  | c :: rest => some (c, { s with before := c :: s.before, after := rest, offset := s.offset + 1 })

def back? : Nat → Place → Option Place
  | 0, s => some s
  | n + 1, s =>
    match s.before with
    | [] => none
    | c :: rest => back? n { s with before := rest, after := c :: s.after, offset := s.offset - 1 }

def capture (index : Nat) (s e : Place) : Place :=
  { e with captured := Assoc.put e.captured index (s.after.take (e.offset - s.offset)) }

def skip? (mode : CaseMode) : Text → Place → Option Place
  | [], s => some s
  | c :: rest, s =>
    match s.step? with
    | some (d, s) => if mode.same c d then skip? mode rest s else none
    | none => none

end Place

def isBreak (c : CodePoint) : Bool :=
  c.val == 0x0A

def Edge.holds (e : Edge) (s : Place) : Bool :=
  match e with
  | .textStart => s.before.isEmpty
  | .lineStart => (s.before.head?).all isBreak
  | .textEnd => s.after.isEmpty
  | .lastLineEnd => s.after.isEmpty || (s.after.length == 1 && s.after.all isBreak)
  | .lineEnd => (s.after.head?).all isBreak
  | .word ascii negated =>
    let left := (s.before.head?).any (isWordChar ascii)
    let right := (s.after.head?).any (isWordChar ascii)
    !(s.before.isEmpty && s.after.isEmpty) && ((left != right) != negated)

def rounds (m : Matcher) : Nat → Matcher
  | 0, s, k => k s
  | n + 1, s, k => m s fun s => rounds m n s k

/-- Up to `n` more rounds, as many as possible first. A round that starts where the last one
started is not tried. -/
def moreGreedy (m : Matcher) : Nat → Option Nat → Matcher
  | 0, _, s, k => k s
  | n + 1, last, s, k =>
    if last = some s.offset then k s
    else
      match m s fun e => moreGreedy m n (some s.offset) e k with
      | some e => some e
      | none => k s

def moreLazy (m : Matcher) : Nat → Option Nat → Matcher
  | 0, _, s, k => k s
  | n + 1, last, s, k =>
    match k s with
    | some e => some e
    | none =>
      if last = some s.offset then none
      else m s fun e => moreLazy m n (some s.offset) e k

def first? (m : Matcher) (s : Place) : Option Place :=
  m s some

/-- Up to `n` more rounds, each with its first match, until one fails or takes nothing. -/
def morePossessive (m : Matcher) : Nat → Place → Place
  | 0, s => s
  | n + 1, s =>
    match first? m s with
    | some e => if e.offset = s.offset then e else morePossessive m n e
    | none => s

/-- The number of rounds that can be useful after the required ones. -/
def spareRounds (least : Nat) (most : Option Nat) (s : Place) : Nat :=
  match most with
  | some n => min (n - least) (s.after.length + 1)
  | none => s.after.length + 1

def loops (greed : Greed) (least : Nat) (most : Option Nat) (m : Matcher) : Matcher :=
  match greed with
  | .greedy => fun s k =>
    rounds m least s fun s => moreGreedy m (spareRounds least most s) none s k
  | .lazy => fun s k =>
    rounds m least s fun s => moreLazy m (spareRounds least most s) none s k
  | .possessive => fun s k =>
    match first? (rounds (fun s k => (first? m s).bind k) least) s with
    | some s => k (morePossessive m (spareRounds least most s) s)
    | none => none

def run : Pattern → Matcher
  | empty, s, k => k s
  | one test, s, k =>
    match s.step? with
    | some (c, s) => if test.holds c then k s else none
    | none => none
  | edge e, s, k => if e.holds s then k s else none
  | seq first second, s, k => first.run s fun s => second.run s k
  | alt left right, s, k =>
    match left.run s k with
    | some e => some e
    | none => right.run s k
  | capture index body, s, k => body.run s fun e => k (Place.capture index s e)
  | backReference index mode, s, k =>
    match Assoc.get? s.captured index with
    | some t => (Place.skip? mode t s).bind k
    | none => none
  | ifMatched index yes no, s, k =>
    if Assoc.contains s.captured index then yes.run s k else no.run s k
  | look behind negated body, s, k =>
    match (Place.back? (behind.getD 0) s).bind (first? body.run) with
    | some e => if negated then none else k { s with captured := e.captured }
    | none => if negated then k s else none
  | atomic body, s, k => (first? body.run s).bind k
  | loop greed least most body, s, k => loops greed least most body.run s k

def accepts (p : Pattern) (t : Text) : Bool :=
  (p.run (.start t) fun s => if s.after.isEmpty then some s else none).isSome

end FormIntake.Pattern
