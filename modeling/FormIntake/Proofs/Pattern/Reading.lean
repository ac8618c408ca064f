import FormIntake.Proofs.Pattern.Rows
/-!
# Reading regular patterns

Every text that the notation derives is read, as a pattern that recognizes the
language that it denotes. The induction is on the derivation; what is shown of
each part says how the reader goes on after it and how much fuel is left.
-/

namespace FormIntake.Pattern

open CodePoint (ofChar)
open Notation

namespace Reader

/-! ## All parts take tokens -/

def leastTokens : Part → Nat
  | .regex | .row => 0
  | .piece | .atom => 1

theorem length_of_denotes {part : Part} {input rest : Text} {L : Language CodePoint}
    {names : List Text} (h : Denotes part input L names rest) :
    (tokens rest).length + leastTokens part ≤ (tokens input).length := by
  induction h with
  | last _ _ ih => exact ih
  | alt _ _ ih ih' =>
      rw [tokens_char (by decide), List.length_cons] at ih
      simp only [leastTokens] at ih ih' ⊢
      omega
  | nil _ => exact le_rfl
  | cons _ _ ih ih' =>
      simp only [leastTokens] at ih ih' ⊢
      omega
  | once _ ih => exact ih
  | repeated _ hmark ih => exact (Nat.add_le_add_right (quantifier_length hmark).le _).trans ih
  | char hc =>
      rw [tokens_char (not_repetition_of_not_mark hc).2]
      exact le_rfl
  | brace _ | dot =>
      rw [tokens_char (by decide)]
      exact le_rfl
  | escaped h =>
      obtain ⟨c, t, rfl⟩ := List.exists_cons_of_ne_nil h.ne_nil
      exact Nat.succ_le_succ (escaped_length h)
  | octal h _ =>
      obtain ⟨c, t, rfl⟩ := List.exists_cons_of_ne_nil h.ne_nil
      exact Nat.succ_le_succ (octal_length h)
  | kind _ => exact le_rfl
  | set _ h =>
      rw [tokens_char (by decide)]
      exact Nat.succ_le_succ (members_length h).le
  | others h =>
      rw [tokens_char (by decide), tokens_char (by decide)]
      exact Nat.succ_le_succ ((members_length h).le.trans (Nat.le_succ _))
  | group _ ih =>
      rw [tokens_char (by decide), List.length_cons, leastTokens] at ih
      rw [tokens_char (by decide)]
      simp only [List.length_cons, leastTokens]
      omega
  | bare _ ih =>
      rw [tokens_char (by decide), List.length_cons, leastTokens] at ih
      rw [tokens_char (by decide), tokens_char (by decide), tokens_char (by decide)]
      simp only [List.length_cons, leastTokens]
      omega
  | named hname _ ih =>
      rw [tokens_char (by decide), List.length_cons, leastTokens] at ih
      rw [tokens_char (by decide), tokens_char (by decide), tokens_char (by decide),
        tokens_char (by decide), tokens_append fun c hc => (plain_of_isIdentifier hname c hc).1,
        tokens_char (by decide)]
      simp only [List.length_cons, List.length_append, leastTokens]
      omega

/-! ## The state of the reader -/

/-- No modes are set, nothing that the end of the pattern would be checked for, and no frames are
counted. -/
structure Plain (s : State) : Prop where
  modes : s.modes = .plain
  whole : s.wholeModes = []
  condition : s.greatestCondition = 0
  behind : s.looseBehind = false
  room : s.room = none

structure After (s : State) (names : List Text) (s' : State) : Prop where
  plain : Plain s'
  names : Assoc.keys s'.names = Assoc.keys s.names ++ names

structure Ready (s : State) (names : List Text) : Prop where
  plain : Plain s
  nodup : (Assoc.keys s.names ++ names).Nodup

variable {s s' : State} {names others : List Text}

theorem Ready.left (h : Ready s (names ++ others)) : Ready s names where
  plain := h.plain
  nodup := by
    have hnodup := h.nodup
    rw [← List.append_assoc] at hnodup
    exact hnodup.of_append_left

theorem Ready.after (h : Ready s (names ++ others)) (hafter : After s names s') :
    Ready s' others where
  plain := hafter.plain
  nodup := by
    rw [hafter.names, List.append_assoc]
    exact h.nodup

theorem After.trans {s'' : State} (h : After s names s') (h' : After s' others s'') :
    After s (names ++ others) s'' where
  plain := h'.plain
  names := by rw [h'.names, h.names, List.append_assoc]

theorem After.refl (h : Plain s) : After s [] s :=
  ⟨h, (List.append_nil _).symm⟩

/-! ## What is shown of each part -/

section Complete

variable (input : Text) (L : Language CodePoint) (names : List Text) (rest : Text)

def RegexComplete : Prop :=
  ∀ (s : State) (fuel : Nat) (first : Bool), Ready s names → 4 * (tokens input).length + 4 ≤ fuel →
    ∃ p s', alternatives fuel first (s.at input) = .ok (p, s'.at rest) ∧ After s names s' ∧
      Recognizes p.run L

def RowComplete : Prop :=
  ∀ (s : State) (fuel : Nat) (first : Bool) (pieces : List Piece) (M : Language CodePoint),
    Ready s names → 4 * (tokens input).length + 3 ≤ fuel →
    Recognizes (run (concat (patterns pieces))) M →
    ∃ p s', row fuel first pieces (s.at input) = .ok (p, s'.at rest) ∧ After s names s' ∧
      Recognizes p.run (M * L)

/-- After a piece, the row goes on with it among the pieces read so far. -/
def PieceComplete : Prop :=
  ∀ (s : State) (fuel : Nat), Ready s names → Starts rest → 4 * (tokens input).length + 3 ≤ fuel →
    ∃ fuel' piece s', 4 * (tokens rest).length + 3 ≤ fuel' ∧
      (∀ first pieces, row fuel first pieces (s.at input) =
        row fuel' first (piece :: pieces) (s'.at rest)) ∧
      After s names s' ∧ Recognizes piece.pattern.run L

def AtomComplete : Prop :=
  ∀ (s : State) (fuel : Nat), Ready s names → 4 * (tokens input).length + 2 ≤ fuel →
    ∃ p s', (∀ first pieces, row (fuel + 1) first pieces (s.at input) =
        row fuel first (⟨p, true⟩ :: pieces) (s'.at rest)) ∧
      After s names s' ∧ Recognizes p.run L

def Complete : Part → Prop
  | .regex => RegexComplete input L names rest
  | .row => RowComplete input L names rest
  | .piece => PieceComplete input L names rest
  | .atom => AtomComplete input L names rest

end Complete

/-! ## All parts -/

section Parts

variable {input mid rest : Text} {L M : Language CodePoint} {least : Nat} {most : Option Nat}

theorem complete_last (h : RowComplete input L names rest) (hbar : Next (· ≠ ofChar '|') rest) :
    RegexComplete input L names rest := by
  intro s fuel first hready hfuel
  obtain ⟨left, rfl, hleft⟩ := exists_fuel (Nat.lt_succ_self _) hfuel
  obtain ⟨p, s', hread, hafter, hp⟩ := h s left first [] 1 hready hleft Recognizes.empty
  rw [one_mul] at hp
  refine ⟨p, s', ?_, hafter, hp⟩
  rw [alternatives, bind_ok hread, bind_ok (accept_no hbar s')]
  rfl

theorem complete_alt (h : RowComplete input L names (ofChar '|' :: mid))
    (hlength : (tokens (ofChar '|' :: mid)).length ≤ (tokens input).length)
    (hmore : RegexComplete mid M others rest) :
    RegexComplete input (L + M) (names ++ others) rest := by
  intro s fuel first hready hfuel
  rw [tokens_char (by decide), List.length_cons] at hlength
  obtain ⟨left, rfl, hleft⟩ := exists_fuel (Nat.lt_succ_self _) hfuel
  obtain ⟨p, s', hread, hafter, hp⟩ := h s left first [] 1 hready.left hleft Recognizes.empty
  rw [one_mul] at hp
  obtain ⟨q, s'', hread', hafter', hq⟩ :=
    hmore s' left false (hready.after hafter) (by omega)
  refine ⟨.alt p q, s'', ?_, hafter.trans hafter', hp.alt hq⟩
  rw [alternatives, bind_ok hread, bind_ok (accept_yes (by decide) s' mid), if_pos rfl,
    bind_ok hread']
  rfl

theorem complete_nil (hends : Next (fun c => c = ofChar '|' ∨ c = ofChar ')') rest) :
    RowComplete rest 1 [] rest := by
  intro s fuel first pieces M hready hfuel hM
  obtain ⟨left, rfl, -⟩ := exists_fuel (Nat.lt_succ_self _) hfuel
  rw [mul_one]
  exact ⟨_, s, row_nil hends left first pieces s, .refl hready.plain, hM⟩

theorem complete_cons (h : PieceComplete input L names mid) (hmid : Starts mid)
    (hmore : RowComplete mid M others rest) : RowComplete input (L * M) (names ++ others) rest := by
  intro s fuel first pieces N hready hfuel hN
  obtain ⟨left, piece, s', hleft, hread, hafter, hpiece⟩ := h s fuel hready.left hmid hfuel
  have hpieces : Recognizes (run (concat (patterns (piece :: pieces)))) (N * L) := by
    rw [patterns, List.reverse_cons, List.map_append]
    exact hN.snoc hpiece
  obtain ⟨p, s'', hread', hafter', hp⟩ :=
    hmore s' left first (piece :: pieces) (N * L) (hready.after hafter) hleft hpieces
  rw [mul_assoc] at hp
  exact ⟨p, s'', (hread first pieces).trans hread', hafter.trans hafter', hp⟩

theorem complete_once (h : AtomComplete input L names rest)
    (hlength : (tokens rest).length < (tokens input).length) :
    PieceComplete input L names rest := by
  intro s fuel hready _ hfuel
  obtain ⟨left, rfl, hleft⟩ := exists_fuel (Nat.lt_succ_self _) hfuel
  obtain ⟨p, s', hread, hafter, hp⟩ := h s left hready hleft
  exact ⟨left, ⟨p, true⟩, s', by omega, hread, hafter, hp⟩

theorem quantifier_bounds (h : Quantifier input least most rest) :
    ∀ bound ∈ most, least ≤ bound := by
  cases h with
  | star => simp
  | plus => simp
  | optional => simp
  | atLeast _ _ => simp
  | between _ _ _ _ hle => simpa using hle

theorem complete_repeated (h : AtomComplete input L names mid)
    (hlength : (tokens mid).length < (tokens input).length)
    (hmark : Quantifier mid least most rest) :
    PieceComplete input (repeated L least most) names rest := by
  intro s fuel hready hrest hfuel
  obtain ⟨left, rfl, hleft⟩ := exists_fuel (Nat.lt_succ_self _) hfuel
  obtain ⟨p, s', hread, hafter, hp⟩ := h s left hready hleft
  obtain ⟨left, rfl, hleft⟩ := exists_fuel (Nat.lt_succ_self _) hleft
  have hless := quantifier_length hmark
  refine ⟨left, ⟨.loop .greedy least most p, false⟩, { s' with loops := true }, by omega, ?_,
    ⟨⟨hafter.plain.modes, hafter.plain.whole, hafter.plain.condition, hafter.plain.behind,
      hafter.plain.room⟩, hafter.names⟩, hp.loop (quantifier_bounds hmark)⟩
  intro first pieces
  rw [hread, row_repeated hafter.plain.modes hmark hrest]

theorem complete_leaf {p : Pattern} (hp : Recognizes p.run L)
    (hread : ∀ s : State, s.modes = .plain → ∀ fuel first pieces,
      row (fuel + 1) first pieces (s.at input) =
        row fuel first (⟨p, true⟩ :: pieces) (s.at rest)) :
    AtomComplete input L [] rest := by
  intro s fuel hready _
  exact ⟨p, s, hread s hready.plain.modes fuel, .refl hready.plain, hp⟩

theorem After.closing (h : After s names s') (index : Nat) (body : Pattern) :
    After s names (s'.closing index body) where
  plain := ⟨h.plain.modes, h.plain.whole, h.plain.condition, h.plain.behind, h.plain.room⟩
  names := h.names

theorem Plain.opening (h : Plain s) (names : Assoc Text Nat) : Plain (s.opening names) :=
  ⟨h.modes, h.whole, h.condition, h.behind, h.room⟩

theorem complete_group (h : RegexComplete input L names (ofChar ')' :: rest))
    (hinput : Next (· ≠ ofChar '?') input) :
    AtomComplete (ofChar '(' :: input) L names rest := by
  intro s fuel hready hfuel
  rw [tokens_char (by decide), List.length_cons] at hfuel
  obtain ⟨left, rfl⟩ := Nat.exists_eq_add_of_le' (Nat.le_of_add_left_le hfuel)
  obtain ⟨body, s', hbody, hafter, hp⟩ := h (s.opening s.names) left false
    ⟨hready.plain.opening s.names, hready.nodup⟩ (by omega)
  have hread := captured_run (hready.plain.opening s.names).room (openGroup_none s input) hbody
  have hclosed := hafter.closing (s.groups.length + 1) body
  exact ⟨_, _, row_group hready.plain.modes (opening_group hinput hread),
    ⟨hclosed.plain, hclosed.names⟩, hp.capture _⟩

theorem complete_bare (h : RegexComplete input L names (ofChar ')' :: rest)) :
    AtomComplete (ofChar '(' :: ofChar '?' :: ofChar ':' :: input) L names rest := by
  intro s fuel hready hfuel
  rw [tokens_char (by decide), tokens_char (by decide), tokens_char (by decide)] at hfuel
  simp only [List.length_cons] at hfuel
  obtain ⟨left, rfl⟩ := Nat.exists_eq_add_of_le' (Nat.le_of_add_left_le hfuel)
  obtain ⟨body, s', hbody, hafter, hp⟩ := h s left false hready (by omega)
  have hopening := opening_bare (enclosed_run hready.plain.room hbody)
  exact ⟨body, s', row_group hready.plain.modes hopening, hafter, hp⟩

theorem complete_named {name : Text} (hname : isIdentifier name = true)
    (h : RegexComplete input L names (ofChar ')' :: rest)) :
    AtomComplete
      (ofChar '(' :: ofChar '?' :: ofChar 'P' :: ofChar '<' :: (name ++ ofChar '>' :: input)) L
      (name :: names) rest := by
  intro s fuel hready hfuel
  rw [tokens_char (by decide), tokens_char (by decide), tokens_char (by decide),
    tokens_char (by decide), tokens_append fun c hc => (plain_of_isIdentifier hname c hc).1,
    tokens_char (by decide)] at hfuel
  simp only [List.length_cons, List.length_append] at hfuel
  obtain ⟨left, rfl⟩ := Nat.exists_eq_add_of_le' (Nat.le_of_add_left_le hfuel)
  have hnodup := hready.nodup
  have hnew : name ∉ Assoc.keys s.names := by
    intro hmem
    exact (List.nodup_append.1 hnodup).2.2 name hmem name List.mem_cons_self rfl
  have hkeys : Assoc.keys (Assoc.put s.names name (s.groups.length + 1)) =
      Assoc.keys s.names ++ [name] := by
    rw [Assoc.keys_put, if_neg hnew]
  obtain ⟨body, s', hbody, hafter, hp⟩ :=
    h (s.opening (Assoc.put s.names name (s.groups.length + 1))) left false
      ⟨hready.plain.opening _, by
        show (Assoc.keys (Assoc.put s.names name (s.groups.length + 1)) ++ names).Nodup
        rwa [hkeys, List.append_assoc, List.singleton_append]⟩ (by omega)
  have hread := captured_run (hready.plain.opening (Assoc.put s.names name _)).room
    (openGroup_some hnew) hbody
  have hclosed := hafter.closing (s.groups.length + 1) body
  have hnames : Assoc.keys s'.names =
      Assoc.keys (Assoc.put s.names name (s.groups.length + 1)) ++ names := hafter.names
  rw [hkeys, List.append_assoc, List.singleton_append] at hnames
  exact ⟨_, _, row_group hready.plain.modes (opening_named hname hread),
    ⟨hclosed.plain, hnames⟩, hp.capture _⟩

theorem complete {part : Part} (h : Denotes part input L names rest) :
    Complete input L names rest part := by
  induction h with
  | last _ hbar ih => exact complete_last ih hbar
  | alt h _ ih ih' => exact complete_alt ih (length_of_denotes h) ih'
  | nil hends => exact complete_nil hends
  | cons _ hmore ih ih' => exact complete_cons ih hmore.starts ih'
  | once h ih => exact complete_once ih (length_of_denotes h)
  | repeated h hmark ih => exact complete_repeated ih (length_of_denotes h) hmark
  | char hc => exact complete_leaf (.only _) fun s hs => row_literal hs hc
  | brace hbraces => exact complete_leaf (.only _) fun s hs => row_brace hs hbraces
  | dot => exact complete_leaf (.set fun c => by simp [SetItem.holds, bne]) fun s hs => row_dot hs
  | escaped h =>
      obtain ⟨c, t, rfl⟩ := List.exists_cons_of_ne_nil h.ne_nil
      exact complete_leaf (.only _) fun s hs => row_escape (escape_escaped hs h)
  | octal h hdigits =>
      obtain ⟨c, t, rfl⟩ := List.exists_cons_of_ne_nil h.ne_nil
      exact complete_leaf (.only _) fun s hs => row_escape (escape_octal hs h hdigits)
  | @kind mark kind negated rest hmark =>
      exact complete_leaf (.set fun c => by simp [SetItem.holds]) fun s hs =>
        row_escape (escape_kind (s := s.at rest) hs hmark)
  | set hinput h =>
      exact complete_leaf (.set fun c => by simp) fun s hs => row_set hs (bracketed_set hs hinput h)
  | others h =>
      exact complete_leaf (.set fun c => by simp) fun s hs => row_set hs (bracketed_others hs h)
  | group h ih => exact complete_group ih (h.starts.next_ne (by decide))
  | bare _ ih => exact complete_bare ih
  | named hname _ ih => exact complete_named hname ih

end Parts

/-! ## Whole patterns -/

theorem start_eq (source : Text) : start source = (start []).at source :=
  rfl

theorem ready_start {names : List Text} (hnames : names.Nodup) : Ready (start []) names :=
  ⟨⟨rfl, rfl, rfl, rfl, rfl⟩, hnames⟩

theorem read_of_alternatives {source : Text} {p : Pattern} (hs : Plain s')
    (h : alternatives (4 * (tokens source).length + 4) true ((start []).at source) =
      .ok (p, s'.at [])) : Pattern.read source = .ok p := by
  have hwhole : (s'.at []).wholeModes = [] := hs.whole
  have hcondition : (s'.at []).greatestCondition = 0 := hs.condition
  have hbehind : (s'.at []).looseBehind = false := hs.behind
  have hread : whole ((start []).at source) = .ok (p, s'.at []) := by
    rw [whole, bind_ok (get_ok _)]
    refine (bind_ok h _).trans ?_
    rw [bind_ok (get_ok _), hwhole, hcondition, hbehind]
    rfl
  show (whole (start source)).map Prod.fst = .ok p
  rw [start_eq, hread]
  rfl

end Reader

open Reader

variable {source : Text} {L : Language CodePoint}

/-- The notation of a regular pattern is read. -/
theorem read_regular (h : Regular source L) :
    ∃ p, Pattern.read source = .ok p ∧ Recognizes p.run L := by
  obtain ⟨names, hdenotes, hnames⟩ := h
  have hregex : RegexComplete source L names [] := complete hdenotes
  obtain ⟨p, s, hread, hafter, hp⟩ := hregex (start []) _ true (ready_start hnames) le_rfl
  exact ⟨p, read_of_alternatives hafter.plain hread, hp⟩

/-- A text is the notation of a pattern for one language at most. -/
theorem Regular.unique {M : Language CodePoint} (h : Regular source L) (h' : Regular source M) :
    L = M := by
  obtain ⟨p, hread, hp⟩ := read_regular h
  obtain ⟨q, hread', hq⟩ := read_regular h'
  obtain rfl : p = q := Except.ok.inj (hread.symm.trans hread')
  ext t
  rw [← hp.accepts_iff, hq.accepts_iff]

def anchored (source : Text) : Text :=
  Text.ofString "^(?:" ++ source ++ Text.ofString ")$"

theorem anchored_eq (source : Text) : anchored source =
    ofChar '^' :: ofChar '(' :: ofChar '?' :: ofChar ':' :: closed source [ofChar '$'] := by
  show Text.ofString "^(?:" ++ source ++ Text.ofString ")$" = _
  rw [List.append_assoc]
  rfl

theorem read_edges {atom : Text} {names : List Text} (hnames : names.Nodup)
    (h : AtomComplete atom L names [ofChar '$']) :
    ∃ p, Pattern.read (ofChar '^' :: atom) =
      .ok (.seq (.edge .textStart) (.seq p (.edge .lastLineEnd))) ∧ Recognizes p.run L := by
  obtain ⟨p, s, hread, hafter, hp⟩ :=
    h (start []) (4 * (tokens atom).length + 5) (ready_start hnames) (by omega)
  have hplain := (ready_start hnames).plain.modes
  have hrow : row (4 * (tokens atom).length + 7) true [] ((start []).at (ofChar '^' :: atom)) =
      .ok (.seq (.edge .textStart) (.seq p (.edge .lastLineEnd)), s.at []) := by
    rw [row_start hplain, hread, row_end hafter.plain.modes]
    exact row_nil (next_nil _) _ _ _ _
  refine ⟨p, read_of_alternatives hafter.plain ?_, hp⟩
  rw [tokens_char (by decide), List.length_cons, Nat.mul_succ, alternatives, bind_ok hrow,
    bind_ok (accept_no (next_nil _) s)]
  rfl

theorem read_anchored (h : Regular source L) :
    ∃ p, Pattern.read (anchored source) =
      .ok (.seq (.edge .textStart) (.seq p (.edge .lastLineEnd))) ∧ Recognizes p.run L := by
  obtain ⟨names, hdenotes, hnames⟩ := h
  rw [anchored_eq]
  exact read_edges hnames (complete (.bare (hdenotes.closed [ofChar '$'])))

end FormIntake.Pattern
