import FormIntake.Assoc
import FormIntake.Numeral
import FormIntake.Pattern.Syntax
import FormIntake.Unicode.Identifier
import FormIntake.Unicode.Name
/-!
# Reading patterns

The notation of patterns: alternatives, groups with and without names, classes,
repetition, looking around, conditions on groups, and modes. Modes are resolved
while reading: those for the whole pattern stand at its start. Left out are
warnings about notation that may change its meaning. Of the call stack only the
frames are counted that groups take, and only when a pattern is compiled.
-/

namespace FormIntake.Pattern

inductive ReadError where
  | malformed
  /-- A repetition count of `countLimit` or more. -/
  | countTooLarge
  /-- A repetition count that is written with too many digits. -/
  | countTooLong (digits : Nat)
  /-- The whole pattern is to mean both alphabets. -/
  | alphabetConflict
  /-- The name of a character holds lone surrogates. -/
  | unencodableName (name : Text)
  /-- There are groups inside more groups than the call stack has room for. -/
  | nestedTooDeep
  deriving DecidableEq

def countLimit : Nat := 4294967295

structure Modes where
  ignoreCase : Bool
  multiline : Bool
  dotAll : Bool
  verbose : Bool
  ascii : Bool
  deriving DecidableEq

def Modes.plain : Modes :=
  ⟨false, false, false, false, false⟩

def Modes.caseMode (m : Modes) : CaseMode :=
  if m.ignoreCase then if m.ascii then .ascii else .unicode else .exact

namespace Reader

/-- A character of the notation, or a backslash with the one after it. -/
inductive Token where
  | char (c : CodePoint)
  | escape (c : CodePoint)
  /-- A backslash at the end. -/
  | dangling
  deriving DecidableEq

def tokens : Text → List Token
  | [] => []
  | c :: rest =>
    if c.val = 0x5C then
      match rest with
      | [] => [.dangling]
      | d :: rest => .escape d :: tokens rest
    else .char c :: tokens rest

def Token.text : Token → Text
  | .char c => [c]
  | .escape c => [CodePoint.ofChar '\\', c]
  | .dangling => [CodePoint.ofChar '\\']

structure State where
  tokens : List Token
  modes : Modes
  /-- The width of each group, once it is closed. -/
  groups : List (Option Width)
  names : Assoc Text Nat
  /-- Inside a look behind: how many groups were open or closed before it. -/
  behindFrom : Option Nat
  /-- The greatest group number that a condition names. -/
  greatestCondition : Nat
  /-- Some look behind has no fixed width. -/
  looseBehind : Bool
  loops : Bool
  /-- Modes set for the whole pattern, the letters seen. -/
  wholeModes : List Nat
  /-- How many frames the call stack has left, if they are counted. -/
  room : Option Nat

abbrev ReaderM := StateT State (Except ReadError)

def malformed {α : Type} : ReaderM α :=
  throw .malformed

def peek : ReaderM (Option Token) := do
  return (← get).tokens.head?

def advance : ReaderM Unit :=
  modify fun s => { s with tokens := s.tokens.tail }

def next : ReaderM (Option Token) := do
  let token ← peek
  advance
  return token

def accept (c : Char) : ReaderM Bool := do
  if (← peek) = some (.char (CodePoint.ofChar c)) then
    advance
    return true
  else return false

def expect (c : Char) : ReaderM Unit := do
  if !(← accept c) then malformed

def digits (base : Nat) : Nat → ReaderM (List Nat)
  | 0 => return []
  | n + 1 => do
    match ← peek with
    | some (.char c) =>
      match c.digitValue? base with
      | some d =>
        advance
        return d :: (← digits base n)
      | none => return []
    | _ => return []

def hexCodePoint (n : Nat) : ReaderM CodePoint := do
  let ds ← digits 16 n
  if ds.length ≠ n then malformed
  else
    match CodePoint.ofNat? (Numeral.value 16 ds) with
    | some c => return c
    | none => malformed

def octalCodePoint (ds : List Nat) : ReaderM CodePoint :=
  match CodePoint.ofNat? (Numeral.value 8 ds) with
  | some c => if c.val ≤ 0o377 then return c else malformed
  | none => malformed

def controlEscape? (c : CodePoint) : Option CodePoint :=
  match c.val with
  | 0x61 => some (CodePoint.ofNat 0x07)
  | 0x66 => some (CodePoint.ofNat 0x0C)
  | 0x6E => some (CodePoint.ofNat 0x0A)
  | 0x72 => some (CodePoint.ofNat 0x0D)
  | 0x74 => some (CodePoint.ofNat 0x09)
  | 0x76 => some (CodePoint.ofNat 0x0B)
  | 0x5C => some (CodePoint.ofNat 0x5C)
  | _ => none

/-- The class that a letter after a backslash stands for, and whether it is negated. -/
def classEscape? (c : CodePoint) : Option (ClassKind × Bool) :=
  match c.val with
  | 0x64 => some (.digit, false)
  | 0x44 => some (.digit, true)
  | 0x73 => some (.space, false)
  | 0x53 => some (.space, true)
  | 0x77 => some (.word, false)
  | 0x57 => some (.word, true)
  | _ => none

def untilChar (stop : Char) : Nat → Text → ReaderM Text
  | 0, _ => malformed
  | fuel + 1, done => do
    match ← next with
    | none => malformed
    | some token =>
      if token = .char (CodePoint.ofChar stop) then
        if done.isEmpty then malformed else return done
      else untilChar stop fuel (done ++ token.text)

def nameUntil (stop : Char) : ReaderM Text := do
  untilChar stop (← get).tokens.length []

/-- The character whose name comes next in braces. -/
def namedCodePoint : ReaderM CodePoint := do
  expect '\x7b'
  let name ← nameUntil '\x7d'
  if name.hasSurrogate then throw (.unencodableName name)
  else
    match Unicode.named? name with
    | some c => return c
    | none => malformed

def charEscape (c : CodePoint) : ReaderM CodePoint := do
  match controlEscape? c with
  | some d => return d
  | none =>
    if c.val = 0x78 then hexCodePoint 2
    else if c.val = 0x75 then hexCodePoint 4
    else if c.val = 0x55 then hexCodePoint 8
    else if c.val = 0x4E then namedCodePoint
    else if c.isAsciiLetter ∨ c.isAsciiDigit then malformed
    else return c

def kindItem (kind : ClassKind) (negated : Bool) : ReaderM SetItem := do
  return .kind kind (← get).modes.ascii negated

def setEscape (c : CodePoint) : ReaderM SetItem := do
  if c.val = 0x62 then return .single (CodePoint.ofNat 0x08)
  else
    match classEscape? c with
    | some (kind, negated) => kindItem kind negated
    | none =>
      match c.digitValue? 8 with
      | some d => return .single (← octalCodePoint (d :: (← digits 8 2)))
      | none => return .single (← charEscape c)

def setItem : Token → ReaderM SetItem
  | .char c => return .single c
  | .escape c => setEscape c
  | .dangling => malformed

def rangeItem : SetItem → SetItem → ReaderM SetItem
  | .single low, .single high => if high < low then malformed else return .range low high
  | _, _ => malformed

/-- The members of a set up to its closing bracket. A bracket that comes first is a member. -/
def setItems : Nat → List SetItem → ReaderM (List SetItem)
  | 0, _ => malformed
  | fuel + 1, items => do
    match ← next with
    | none => malformed
    | some token =>
      if token = .char (CodePoint.ofChar ']') ∧ !items.isEmpty then return items
      else
        let item ← setItem token
        if ← accept '-' then
          match ← next with
          | none => malformed
          | some other =>
            if other = .char (CodePoint.ofChar ']') then
              return items ++ [item, .single (CodePoint.ofChar '-')]
            else
              let high ← setItem other
              setItems fuel (items ++ [← rangeItem item high])
        else setItems fuel (items ++ [item])

def charTest (items : List SetItem) (negated : Bool) : ReaderM Pattern := do
  return .one ⟨items, negated, (← get).modes.caseMode⟩

def literal (c : CodePoint) : ReaderM Pattern :=
  charTest [.single c] false

def bracketed : ReaderM Pattern := do
  let negated ← accept '^'
  let items ← setItems (← get).tokens.length []
  charTest items negated

def dot : ReaderM Pattern := do
  let items := if (← get).modes.dotAll then [] else [SetItem.single (CodePoint.ofNat 0x0A)]
  return .one ⟨items, true, .exact⟩

def closedGroup (index : Nat) : ReaderM Unit := do
  let s ← get
  match index with
  | 0 => malformed
  | n + 1 =>
    match s.groups[n]? with
    | some (some _) =>
      match s.behindFrom with
      | some count => if count < index then malformed else return ()
      | none => return ()
    | _ => malformed

def backReference (index : Nat) : ReaderM Pattern := do
  closedGroup index
  return .backReference index (← get).modes.caseMode

/-- What a piece of the notation is, as far as repetition goes: edges and loops are not repeated. -/
structure Piece where
  pattern : Pattern
  repeatable : Bool

def plain (p : ReaderM Pattern) : ReaderM Piece := do
  return ⟨← p, true⟩

def edgePiece (e : Edge) : Piece :=
  ⟨.edge e, false⟩

/-- A backslash with a digit other than 0: a character of three octal digits, or a group. -/
def numberEscape (d : Nat) : ReaderM Pattern := do
  match ← digits 10 1 with
  | [] => backReference d
  | e :: _ =>
    if d < 8 ∧ e < 8 then
      match ← digits 8 1 with
      | f :: _ => literal (← octalCodePoint [d, e, f])
      | [] => backReference (10 * d + e)
    else backReference (10 * d + e)

def escape (c : CodePoint) : ReaderM Piece := do
  let ascii := (← get).modes.ascii
  match c.val with
  | 0x41 => return edgePiece .textStart
  | 0x5A => return edgePiece .textEnd
  | 0x62 => return edgePiece (.word ascii false)
  | 0x42 => return edgePiece (.word ascii true)
  | _ =>
    match classEscape? c with
    | some (kind, negated) => plain do charTest [← kindItem kind negated] false
    | none =>
      match c.digitValue? 10 with
      | some 0 => plain do literal (← octalCodePoint (← digits 8 2))
      | some d => plain (numberEscape d)
      | none => plain do literal (← charEscape c)

def isIdentifier : Text → Bool
  | [] => false
  | c :: rest =>
    Unicode.identifierStart.contains c.val &&
      rest.all fun d => Unicode.identifierContinue.contains d.val

def groupNamed (name : Text) : ReaderM Nat := do
  match Assoc.get? (← get).names name with
  | some index => return index
  | none => malformed

def skipLine : ReaderM Unit :=
  modify fun s => { s with tokens := (s.tokens.dropWhile (· ≠ .char (CodePoint.ofNat 0x0A))).tail }

def skipRemark : ReaderM Unit := do
  match (← get).tokens.dropWhile (· ≠ .char (CodePoint.ofChar ')')) with
  | [] => malformed
  | _ :: rest => modify fun s => { s with tokens := rest }

def isModeLetter (c : CodePoint) : Bool :=
  [0x69, 0x4C, 0x6D, 0x73, 0x78, 0x61, 0x74, 0x75].contains c.val

def isAlphabetLetter (n : Nat) : Bool :=
  n == 0x61 || n == 0x75

/-- A letter that only the whole pattern can have. -/
def wholeLetter : Nat := 0x74

def modesOn : Nat → List Nat → CodePoint → ReaderM (List Nat × CodePoint)
  | 0, _, _ => malformed
  | fuel + 1, on, c => do
    let on := c.val :: on
    if c.val = 0x4C ∨ (on.contains 0x61 ∧ on.contains 0x75) then malformed
    else
      match ← next with
      | some (.char d) =>
        if d.val = 0x29 ∨ d.val = 0x2D ∨ d.val = 0x3A then return (on, d)
        else if isModeLetter d then modesOn fuel on d
        else malformed
      | _ => malformed

def modesOff : Nat → List Nat → ReaderM (List Nat)
  | 0, _ => malformed
  | fuel + 1, off => do
    match ← next with
    | some (.char d) =>
      if d.val = 0x3A ∧ !off.isEmpty then return off
      else if isModeLetter d ∧ d.val ≠ 0x4C ∧ !isAlphabetLetter d.val then
        modesOff fuel (d.val :: off)
      else malformed
    | _ => malformed

inductive Switch where
  | whole (on : List Nat)
  | group (on off : List Nat)

def switch (c : CodePoint) : ReaderM Switch := do
  let fuel := (← get).tokens.length + 1
  let (on, last) ← if c.val = 0x2D then pure ([], c) else modesOn fuel [] c
  if last.val = 0x29 then return .whole on
  else if on.contains wholeLetter then malformed
  else
    let off ← if last.val = 0x2D then modesOff fuel [] else pure []
    if off.contains wholeLetter ∨ on.any off.contains then malformed
    else return .group on off

def Modes.apply (m : Modes) (on off : List Nat) : Modes :=
  let choose (letter : Nat) (old : Bool) := (old || on.contains letter) && !off.contains letter
  { ignoreCase := choose 0x69 m.ignoreCase
    multiline := choose 0x6D m.multiline
    dotAll := choose 0x73 m.dotAll
    verbose := choose 0x78 m.verbose
    ascii := if on.contains 0x61 then true else if on.contains 0x75 then false else m.ascii }

/-- Counts in braces; nothing if the brace is an ordinary character. -/
def braces : ReaderM (Option (Nat × Option Nat)) := do
  let start := (← get).tokens
  if (← peek) = some (.char (CodePoint.ofChar '\x7d')) then return none
  else
    let low ← digits 10 start.length
    let comma ← accept ','
    let high ← if comma then digits 10 start.length else pure low
    if !(← accept '\x7d') then
      modify fun s => { s with tokens := start }
      return none
    else if (← peek) = some .dangling then malformed
    else
      let count (ds : List Nat) : ReaderM Nat :=
        if Numeral.digitLimit < ds.length then throw (.countTooLong ds.length)
        else if countLimit ≤ Numeral.value 10 ds then throw .countTooLarge
        else return Numeral.value 10 ds
      let least ← count low
      if high.isEmpty then return some (least, none)
      else
        let most ← count high
        if most < least then malformed else return some (least, some most)

def repetition (c : CodePoint) : ReaderM (Option (Nat × Option Nat)) :=
  match c.val with
  | 0x2A => return some (0, none)
  | 0x2B => return some (1, none)
  | 0x3F => return some (0, some 1)
  | _ => braces

def greed : ReaderM Greed := do
  if ← accept '?' then return .lazy
  else if ← accept '+' then return .possessive
  else return .greedy

def repeatLast (counts : Nat × Option Nat) (pieces : List Piece) : ReaderM (List Piece) := do
  match pieces with
  | [] => malformed
  | piece :: before =>
    if !piece.repeatable then malformed
    else
      let mark ← greed
      modify fun s => { s with loops := true }
      return ⟨.loop mark counts.1 counts.2 piece.pattern, false⟩ :: before

def conditionGroup : ReaderM Nat := do
  let text ← nameUntil ')'
  if isIdentifier text then groupNamed text
  else
    match Numeral.readInt? 10 text with
    | some n =>
      if n < 1 ∨ Numeral.digitLimit < text.length ∨ 1073741823 ≤ n then malformed
      else
        modify fun s => { s with greatestCondition := max s.greatestCondition n.toNat }
        return n.toNat
    | none => malformed

inductive Opening where
  /-- Nothing that matches: a comment or modes of the whole pattern. -/
  | none
  | piece (p : Piece)

def isSpacing (c : CodePoint) : Bool :=
  isAsciiSpace c

def groupWidth (groups : List (Option Width)) (index : Nat) : Width :=
  ((groups[index - 1]?).bind id).getD (.exactly 0)

def openGroup (name : Option Text) : ReaderM Nat := do
  let s ← get
  let index := s.groups.length + 1
  let names ←
    match name with
    | some t => if Assoc.contains s.names t then malformed else pure (Assoc.put s.names t index)
    | none => pure s.names
  set { s with groups := s.groups ++ [none], names := names }
  return index

def closeGroup (index : Nat) (body : Pattern) : ReaderM Unit :=
  modify fun s =>
    { s with groups := s.groups.set (index - 1) (some (body.width (groupWidth s.groups))) }

/-- Reads what stands inside something, which takes so many frames of the call stack. -/
def deeper {α : Type} (frames : Nat) (body : ReaderM α) : ReaderM α := do
  match (← get).room with
  | none => body
  | some left =>
    if left < frames then throw .nestedTooDeep
    else
      modify fun s => { s with room := some (left - frames) }
      let a ← body
      modify fun s => { s with room := some left }
      return a

mutual

/-- Alternatives up to a closing parenthesis or the end. `first` says that the pattern starts here. -/
def alternatives : Nat → Bool → ReaderM Pattern
  | 0, _ => malformed
  | fuel + 1, first => do
    let left ← row fuel first []
    if ← accept '|' then return .alt left (← alternatives fuel false)
    else return left

/-- Pieces in a row. Those read so far are given, the last first. -/
def row : Nat → Bool → List Piece → ReaderM Pattern
  | 0, _, _ => malformed
  | fuel + 1, first, pieces => do
    match ← peek with
    | none => return concat (pieces.reverse.map (·.pattern))
    | some .dangling => malformed
    | some (.escape c) =>
      advance
      row fuel first ((← escape c) :: pieces)
    | some (.char c) =>
      if c.val = 0x7C ∨ c.val = 0x29 then return concat (pieces.reverse.map (·.pattern))
      else
        advance
        let modes := (← get).modes
        if modes.verbose ∧ isSpacing c then row fuel first pieces
        else if modes.verbose ∧ c.val = 0x23 then
          skipLine
          row fuel first pieces
        else if c.val = 0x5B then row fuel first (⟨← bracketed, true⟩ :: pieces)
        else if c.val = 0x2A ∨ c.val = 0x2B ∨ c.val = 0x3F ∨ c.val = 0x7B then
          match ← repetition c with
          | some counts => row fuel first (← repeatLast counts pieces)
          | none => row fuel first (⟨← literal c, true⟩ :: pieces)
        else if c.val = 0x2E then row fuel first (⟨← dot, true⟩ :: pieces)
        else if c.val = 0x5E then
          row fuel first (edgePiece (if modes.multiline then .lineStart else .textStart) :: pieces)
        else if c.val = 0x24 then
          row fuel first (edgePiece (if modes.multiline then .lineEnd else .lastLineEnd) :: pieces)
        else if c.val = 0x28 then
          match ← opening fuel (first && pieces.isEmpty) with
          | .none => row fuel first pieces
          | .piece p => row fuel first (p :: pieces)
        else row fuel first (⟨← literal c, true⟩ :: pieces)

def opening : Nat → Bool → ReaderM Opening
  | 0, _ => malformed
  | fuel + 1, first => do
    if !(← accept '?') then return .piece (← captured fuel none)
    else
      match ← next with
      | some (.char c) =>
        match c.val with
        | 0x50 =>
          if ← accept '<' then
            let name ← nameUntil '>'
            if isIdentifier name then return .piece (← captured fuel (some name)) else malformed
          else if ← accept '=' then
            let name ← nameUntil ')'
            if isIdentifier name then
              return .piece ⟨← backReference (← groupNamed name), true⟩
            else malformed
          else malformed
        | 0x3A => return .piece (← enclosed fuel fun p => p)
        | 0x23 =>
          skipRemark
          return .none
        | 0x3D => return .piece (← enclosed fuel (.look none false))
        | 0x21 => return .piece (← enclosed fuel (.look none true))
        | 0x3C =>
          if ← accept '=' then return .piece (← behind fuel false)
          else if ← accept '!' then return .piece (← behind fuel true)
          else malformed
        | 0x28 => return .piece (← condition fuel)
        | 0x3E => return .piece (← enclosed fuel .atomic)
        | _ =>
          if isModeLetter c ∨ c.val = 0x2D then
            match ← switch c with
            | .whole on =>
              if first then
                modify fun s =>
                  { s with modes := Modes.apply s.modes on [], wholeModes := on ++ s.wholeModes }
                return .none
              else malformed
            | .group on off =>
              let modes := (← get).modes
              modify fun s => { s with modes := Modes.apply s.modes on off }
              let piece ← enclosed fuel fun p => p
              modify fun s => { s with modes := modes }
              return .piece piece
          else malformed
      | _ => malformed

def captured : Nat → Option Text → ReaderM Piece
  | 0, _ => malformed
  | fuel + 1, name => do
    let index ← openGroup name
    let body ← deeper 2 (alternatives fuel false)
    expect ')'
    closeGroup index body
    return ⟨.capture index body, true⟩

def enclosed : Nat → (Pattern → Pattern) → ReaderM Piece
  | 0, _ => malformed
  | fuel + 1, make => do
    let body ← deeper 2 (alternatives fuel false)
    expect ')'
    return ⟨make body, true⟩

def behind : Nat → Bool → ReaderM Piece
  | 0, _ => malformed
  | fuel + 1, negated => do
    let outer := (← get).behindFrom
    modify fun s => { s with behindFrom := some (outer.getD s.groups.length) }
    let body ← deeper 2 (alternatives fuel false)
    modify fun s => { s with behindFrom := outer }
    expect ')'
    let width := body.width (groupWidth (← get).groups)
    if width.greatest ≠ some width.least ∨ countLimit < width.least then
      modify fun s => { s with looseBehind := true }
    return ⟨.look (some width.least) negated body, true⟩

def condition : Nat → ReaderM Piece
  | 0 => malformed
  | fuel + 1 => do
    let index ← conditionGroup
    if (← get).behindFrom.isSome then closedGroup index
    let yes ← deeper 1 (row fuel false [])
    let no ← if ← accept '|' then deeper 1 (row fuel false []) else pure .empty
    expect ')'
    return ⟨.ifMatched index yes no, true⟩

end

def whole : ReaderM Pattern := do
  let tokens := (← get).tokens
  let pattern ← alternatives (4 * tokens.length + 4) true
  let s ← get
  if s.wholeModes.contains 0x61 ∧ s.wholeModes.contains 0x75 then throw .alphabetConflict
  else if !s.tokens.isEmpty ∨ s.groups.length < s.greatestCondition then malformed
  else if s.looseBehind ∨ (s.wholeModes.contains wholeLetter ∧ s.loops) then malformed
  else return pattern

def start (t : Text) : State :=
  ⟨tokens t, .plain, [], [], none, 0, false, false, [], none⟩

/-- The frames of the call stack that are left for groups. This is as the service finds it, so no
more is proved from it than that it is not zero. -/
def stackRoom : Nat := 970

end Reader

def read (t : Text) : Except ReadError Pattern :=
  (Reader.whole.run (Reader.start t)).map Prod.fst

/-- Reads the notation of a pattern, unless the call stack has no room for its groups. -/
def compile (t : Text) : Except ReadError Pattern :=
  match Reader.whole.run { Reader.start t with room := some Reader.stackRoom } with
  | .error .nestedTooDeep => .error .nestedTooDeep
  | _ => read t

theorem read_of_compile {t : Text} {p : Pattern} (h : compile t = .ok p) : read t = .ok p := by
  unfold compile at h
  split at h
  · cases h
  · exact h

end FormIntake.Pattern
