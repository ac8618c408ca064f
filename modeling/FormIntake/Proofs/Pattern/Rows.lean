import FormIntake.Proofs.Pattern.Counts
import FormIntake.Proofs.Pattern.Escapes
/-!
# Reading rows

What one step of a row does about the character that comes next, where no modes
are set, and how groups are opened and closed.
-/

namespace FormIntake.Pattern.Reader

open CodePoint (ofChar)
open Notation

def patterns (pieces : List Piece) : List Pattern :=
  pieces.reverse.map (·.pattern)

variable {s s' : State}

/-! ## Steps of a row -/

section Rows

variable {t rest : Text} {c : CodePoint}

theorem row_nil (hends : Next (fun c => c = ofChar '|' ∨ c = ofChar ')') rest) (fuel : Nat)
    (first : Bool) (pieces : List Piece) (s : State) :
    row (fuel + 1) first pieces (s.at rest) = .ok (concat (patterns pieces), s.at rest) := by
  cases rest with
  | nil => rfl
  | cons c rest =>
      rcases hends c rfl with rfl | rfl
      · rw [row, bind_ok (peek_char (by decide) s rest)]
        rfl
      · rw [row, bind_ok (peek_char (by decide) s rest)]
        rfl

theorem row_escape {piece : Piece} (hread : escape c (s.at t) = .ok (piece, s.at rest)) (fuel : Nat)
    (first : Bool) (pieces : List Piece) :
    row (fuel + 1) first pieces (s.at (backslash :: c :: t)) =
      row fuel first (piece :: pieces) (s.at rest) := by
  have hpeek : peek (s.at (backslash :: c :: t)) =
      .ok (some (.escape c), s.at (backslash :: c :: t)) := rfl
  have hadvance : advance (s.at (backslash :: c :: t)) = .ok ((), s.at t) := rfl
  rw [row, bind_ok hpeek]
  dsimp only
  rw [bind_ok hadvance, bind_ok hread]

theorem row_char (hs : s.modes = .plain) (hc : c ≠ backslash)
    (hend : ¬ (c.val = 0x7C ∨ c.val = 0x29)) (fuel : Nat) (first : Bool) (pieces : List Piece) :
    row (fuel + 1) first pieces (s.at (c :: t)) =
      (if c.val = 0x5B then do row fuel first (⟨← bracketed, true⟩ :: pieces)
      else if c.val = 0x2A ∨ c.val = 0x2B ∨ c.val = 0x3F ∨ c.val = 0x7B then do
        match ← repetition c with
        | some counts => row fuel first (← repeatLast counts pieces)
        | none => row fuel first (⟨← literal c, true⟩ :: pieces)
      else if c.val = 0x2E then do row fuel first (⟨← dot, true⟩ :: pieces)
      else if c.val = 0x5E then row fuel first (edgePiece .textStart :: pieces)
      else if c.val = 0x24 then row fuel first (edgePiece .lastLineEnd :: pieces)
      else if c.val = 0x28 then do
        match ← opening fuel (first && pieces.isEmpty) with
        | .none => row fuel first pieces
        | .piece p => row fuel first (p :: pieces)
      else do row fuel first (⟨← literal c, true⟩ :: pieces)) (s.at t) := by
  rw [row, bind_ok (peek_char hc s t)]
  simp only [if_neg hend]
  rw [bind_ok (advance_char hc s t), bind_ok (get_ok _)]
  have hmodes : (s.at t).modes = .plain := hs
  rw [hmodes]
  rfl

theorem val_of_not_mark (hc : c ∉ marks) :
    c.val ∉ [0x2A, 0x2B, 0x3F, 0x2E, 0x5E, 0x24, 0x7B, 0x5B, 0x5C, 0x7C, 0x28, 0x29] := by
  have hvals : marks.map Fin.val =
      [0x2A, 0x2B, 0x3F, 0x2E, 0x5E, 0x24, 0x7B, 0x5B, 0x5C, 0x7C, 0x28, 0x29] := rfl
  rw [← hvals]
  intro hmem
  obtain ⟨d, hd, hval⟩ := List.mem_map.1 hmem
  obtain rfl := Fin.ext hval
  exact hc hd

theorem row_literal (hs : s.modes = .plain) (hc : c ∉ marks) (fuel : Nat) (first : Bool)
    (pieces : List Piece) :
    row (fuel + 1) first pieces (s.at (c :: t)) =
      row fuel first (⟨only c, true⟩ :: pieces) (s.at t) := by
  have hval := val_of_not_mark hc
  simp only [List.mem_cons, List.not_mem_nil, or_false, not_or] at hval
  obtain ⟨hstar, hplus, hquery, hdot, hcaret, hdollar, hbrace, hbracket, hbackslash, hbar, hopen,
    hclose⟩ := hval
  have hplain : c ≠ backslash := fun h => hbackslash (congrArg Fin.val h)
  rw [row_char hs hplain (by simp [hbar, hclose]), if_neg hbracket,
    if_neg (by simp [hstar, hplus, hquery, hbrace]), if_neg hdot, if_neg hcaret, if_neg hdollar,
    if_neg hopen, bind_ok (literal_plain (s := s.at t) hs c)]

theorem row_brace (hs : s.modes = .plain) (h : ∀ low high rest, ¬ Braces t low high rest)
    (fuel : Nat) (first : Bool) (pieces : List Piece) :
    row (fuel + 1) first pieces (s.at (ofChar '\x7b' :: t)) =
      row fuel first (⟨only (ofChar '\x7b'), true⟩ :: pieces) (s.at t) := by
  have hnone : repetition (ofChar '\x7b') (s.at t) = .ok (none, s.at t) := braces_none h s
  rw [row_char hs (by decide) (by decide), if_neg (by decide), if_pos (by decide), bind_ok hnone]
  exact bind_ok (literal_plain (s := s.at t) hs _) _

def anyButBreak : Pattern :=
  .one ⟨[.single (ofChar '\n')], true, .exact⟩

theorem row_dot (hs : s.modes = .plain) (fuel : Nat) (first : Bool) (pieces : List Piece) :
    row (fuel + 1) first pieces (s.at (ofChar '.' :: t)) =
      row fuel first (⟨anyButBreak, true⟩ :: pieces) (s.at t) := by
  have hdot : dot (s.at t) = .ok (anyButBreak, s.at t) := by
    have hmodes : (s.at t).modes = .plain := hs
    rw [dot, bind_ok (get_ok _), hmodes]
    rfl
  rw [row_char hs (by decide) (by decide), if_neg (by decide), if_neg (by decide),
    if_pos (by decide), bind_ok hdot]

theorem row_set (hs : s.modes = .plain) {p : Pattern}
    (hread : bracketed (s.at t) = .ok (p, s.at rest)) (fuel : Nat) (first : Bool)
    (pieces : List Piece) :
    row (fuel + 1) first pieces (s.at (ofChar '[' :: t)) =
      row fuel first (⟨p, true⟩ :: pieces) (s.at rest) := by
  rw [row_char hs (by decide) (by decide), if_pos (by decide), bind_ok hread]

theorem row_start (hs : s.modes = .plain) (fuel : Nat) (first : Bool) (pieces : List Piece) :
    row (fuel + 1) first pieces (s.at (ofChar '^' :: t)) =
      row fuel first (edgePiece .textStart :: pieces) (s.at t) := by
  rw [row_char hs (by decide) (by decide), if_neg (by decide), if_neg (by decide),
    if_neg (by decide), if_pos (by decide)]

theorem row_end (hs : s.modes = .plain) (fuel : Nat) (first : Bool) (pieces : List Piece) :
    row (fuel + 1) first pieces (s.at (ofChar '$' :: t)) =
      row fuel first (edgePiece .lastLineEnd :: pieces) (s.at t) := by
  rw [row_char hs (by decide) (by decide), if_neg (by decide), if_neg (by decide),
    if_neg (by decide), if_neg (by decide), if_pos (by decide)]

theorem row_group (hs : s.modes = .plain) {fuel : Nat} {piece : Piece}
    (hread : ∀ first, opening fuel first (s.at t) = .ok (.piece piece, s'.at rest)) (first : Bool)
    (pieces : List Piece) :
    row (fuel + 1) first pieces (s.at (ofChar '(' :: t)) =
      row fuel first (piece :: pieces) (s'.at rest) := by
  rw [row_char hs (by decide) (by decide), if_neg (by decide), if_neg (by decide),
    if_neg (by decide), if_neg (by decide), if_neg (by decide), if_pos (by decide),
    bind_ok (hread _)]

theorem row_repeated (hs : s.modes = .plain) {least : Nat} {most : Option Nat}
    (hmark : Quantifier t least most rest) (hrest : Starts rest) (p : Pattern) (fuel : Nat)
    (first : Bool) (pieces : List Piece) :
    row (fuel + 1) first (⟨p, true⟩ :: pieces) (s.at t) =
      row fuel first (⟨.loop .greedy least most p, false⟩ :: pieces)
        ({ s with loops := true }.at rest) := by
  obtain ⟨c, t, rfl, hc, hread⟩ := repetition_run hmark hrest.1 s
  have hplain : c ≠ backslash := by
    rintro rfl
    revert hc
    decide
  rw [row_char hs hplain (by omega), if_neg (by omega), if_pos hc, bind_ok hread]
  exact bind_ok (repeatLast_run hrest (least, most) p pieces s) _

end Rows

/-! ## Groups -/

section Groups

variable {input rest name : Text} {body : Pattern} {fuel : Nat}

def State.closing (s : State) (index : Nat) (body : Pattern) : State :=
  { s with groups := s.groups.set (index - 1) (some (body.width (groupWidth s.groups))) }

theorem deeper_run {α : Type} (hroom : s.room = none) (frames : Nat) (m : ReaderM α) :
    deeper frames m (s.at input) = m (s.at input) := by
  have hnone : (s.at input).room = none := hroom
  rw [deeper, bind_ok (get_ok _), hnone]

theorem captured_run {name : Option Text} {index : Nat} {s'' : State} (hroom : s'.room = none)
    (hopen : openGroup name (s.at input) = .ok (index, s'.at input))
    (hbody : alternatives fuel false (s'.at input) = .ok (body, s''.at (ofChar ')' :: rest))) :
    captured (fuel + 1) name (s.at input) =
      .ok (⟨.capture index body, true⟩, (s''.closing index body).at rest) := by
  have hinside := (deeper_run hroom 2 (alternatives fuel false)).trans hbody
  rw [captured, bind_ok hopen, bind_ok hinside, bind_ok (expect_yes (by decide) s'' rest)]
  rfl

theorem enclosed_run (hroom : s.room = none)
    (hbody : alternatives fuel false (s.at input) = .ok (body, s'.at (ofChar ')' :: rest))) :
    enclosed (fuel + 1) (fun p => p) (s.at input) = .ok (⟨body, true⟩, s'.at rest) := by
  have hinside := (deeper_run hroom 2 (alternatives fuel false)).trans hbody
  rw [enclosed, bind_ok hinside, bind_ok (expect_yes (by decide) s' rest)]
  rfl

def State.opening (s : State) (names : Assoc Text Nat) : State :=
  { s with groups := s.groups ++ [none], names := names }

theorem openGroup_none (s : State) (input : Text) :
    openGroup none (s.at input) = .ok (s.groups.length + 1, (s.opening s.names).at input) :=
  rfl

theorem openGroup_some (hname : name ∉ Assoc.keys s.names) :
    openGroup (some name) (s.at input) =
      .ok (s.groups.length + 1,
        (s.opening (Assoc.put s.names name (s.groups.length + 1))).at input) := by
  have hnone : Assoc.get? s.names name = none := (Assoc.get?_eq_none_iff _ _).2 hname
  have hcontains : Assoc.contains (s.at input).names name = false := by
    show (Assoc.get? s.names name).isSome = false
    rw [hnone]
    rfl
  rw [openGroup, bind_ok (get_ok _)]
  simp only [hcontains, Bool.false_eq_true, if_false]
  rfl

theorem opening_group (hinput : Next (· ≠ ofChar '?') input) {piece : Piece}
    (hread : captured fuel none (s.at input) = .ok (piece, s'.at rest)) (first : Bool) :
    opening (fuel + 1) first (s.at input) = .ok (.piece piece, s'.at rest) := by
  rw [opening, bind_ok (accept_no hinput s)]
  exact bind_ok hread _

theorem opening_bare {piece : Piece}
    (hread : enclosed fuel (fun p => p) (s.at input) = .ok (piece, s'.at rest)) (first : Bool) :
    opening (fuel + 1) first (s.at (ofChar '?' :: ofChar ':' :: input)) =
      .ok (.piece piece, s'.at rest) := by
  rw [opening, bind_ok (accept_yes (by decide) s _)]
  simp only [Bool.not_true, Bool.false_eq_true, if_false]
  rw [bind_ok (next_char (by decide) s input)]
  exact bind_ok hread _

theorem opening_named (hname : isIdentifier name = true) {piece : Piece}
    (hread : captured fuel (some name) (s.at input) = .ok (piece, s'.at rest)) (first : Bool) :
    opening (fuel + 1) first
        (s.at (ofChar '?' :: ofChar 'P' :: ofChar '<' :: (name ++ ofChar '>' :: input))) =
      .ok (.piece piece, s'.at rest) := by
  have hne : name ≠ [] := by
    rintro rfl
    cases hname
  have huntil : nameUntil '>' (s.at (name ++ ofChar '>' :: input)) = .ok (name, s.at input) :=
    nameUntil_run (plain_of_isIdentifier hname) (by decide) hne s
  rw [opening, bind_ok (accept_yes (by decide) s _)]
  simp only [Bool.not_true, Bool.false_eq_true, if_false]
  rw [bind_ok (next_char (by decide) s _)]
  refine (bind_ok (accept_yes (by decide) s _) _).trans ?_
  simp only [if_true]
  rw [bind_ok huntil, if_pos hname]
  exact bind_ok hread _

end Groups

end FormIntake.Pattern.Reader
