import FormIntake.Proofs.Pattern.Tokens
/-!
# Reading escapes and sets

The readers of escapes and of sets read what the notation says, and go on
exactly at the rest.
-/

namespace FormIntake.Pattern.Reader

open CodePoint (ofChar)
open Notation

/-! ## Escapes -/

section Escapes

variable {base n : Nat} {t rest : Text} {ds : List Nat} {c : CodePoint} {s : State}

theorem ofNat?_val {n : Nat} (h : c.val = n) : CodePoint.ofNat? n = some c := by
  subst h
  rw [CodePoint.ofNat?, dif_pos c.isLt]

theorem hexCodePoint_run (hrun : Run 16 t ds) (hvalue : c.val = Numeral.value 16 ds) (s : State) :
    hexCodePoint ds.length (s.at (t ++ rest)) = .ok (c, s.at rest) := by
  rw [hexCodePoint, bind_ok (digits_run hrun le_rfl (Or.inl rfl) s), if_neg (not_not.2 rfl),
    ofNat?_val hvalue]
  rfl

theorem octalCodePoint_value (hvalue : c.val = Numeral.value 8 ds) (hlimit : c.val ≤ 0o377)
    (s : State) : octalCodePoint ds s = .ok (c, s) := by
  rw [octalCodePoint, ofNat?_val hvalue]
  exact congrFun (if_pos hlimit) s

theorem charEscape_control {mark : Char} {n : Nat} (hmark : (mark, n) ∈ controls) :
    charEscape (ofChar mark) = pure (CodePoint.ofNat n) := by
  simp only [controls, List.mem_cons, List.not_mem_nil, Prod.mk.injEq, or_false] at hmark
  rcases hmark with ⟨rfl, rfl⟩ | ⟨rfl, rfl⟩ | ⟨rfl, rfl⟩ | ⟨rfl, rfl⟩ | ⟨rfl, rfl⟩ | ⟨rfl, rfl⟩
  all_goals rfl

theorem charEscape_hex {mark : Char} {width : Nat} (hmark : (mark, width) ∈ hexMarks) :
    charEscape (ofChar mark) = hexCodePoint width := by
  simp only [hexMarks, List.mem_cons, List.not_mem_nil, Prod.mk.injEq, or_false] at hmark
  rcases hmark with ⟨rfl, rfl⟩ | ⟨rfl, rfl⟩ | ⟨rfl, rfl⟩ <;> rfl

theorem not_letter_iff : c.isAsciiLetter = false ↔
    ¬ (0x41 ≤ c.val ∧ c.val ≤ 0x5A) ∧ ¬ (0x61 ≤ c.val ∧ c.val ≤ 0x7A) := by
  simp [CodePoint.isAsciiLetter]

theorem not_digit_iff : c.isAsciiDigit = false ↔ ¬ (0x30 ≤ c.val ∧ c.val ≤ 0x39) := by
  simp [CodePoint.isAsciiDigit]

theorem charEscape_sign (hletter : c.isAsciiLetter = false) (hdigit : c.isAsciiDigit = false) :
    charEscape c = pure c := by
  have hval := not_letter_iff.1 hletter
  unfold charEscape controlEscape?
  split
  · rename_i d hcontrol
    split at hcontrol
    all_goals first | omega | cases hcontrol
    rename_i hbackslash
    exact congrArg pure (Fin.ext hbackslash.symm)
  · rw [if_neg (by omega), if_neg (by omega), if_neg (by omega), if_neg (by omega),
      if_neg (by simp [hletter, hdigit])]

theorem charEscape_run {d : CodePoint} {input : Text} (h : Escaped (c :: input) d rest)
    (s : State) : charEscape c (s.at input) = .ok (d, s.at rest) := by
  cases h with
  | control hmark =>
      rw [charEscape_control hmark]
      rfl
  | hex hmark hdigits hwidth hvalue =>
      rw [charEscape_hex hmark, ← hwidth]
      exact hexCodePoint_run hdigits hvalue s
  | sign hletter hdigit =>
      rw [charEscape_sign hletter hdigit]
      rfl

/-- Edges and classes of characters are not written with this code point after a backslash. -/
structure Unmarked (c : CodePoint) : Prop where
  not_edge : c.val ≠ 0x41 ∧ c.val ≠ 0x5A ∧ c.val ≠ 0x62 ∧ c.val ≠ 0x42
  not_class : classEscape? c = none

theorem unmarked_of_val (h : ∀ n ∈ [0x41, 0x42, 0x44, 0x53, 0x57, 0x5A, 0x62, 0x64, 0x73, 0x77],
    c.val ≠ n) : Unmarked c := by
  simp only [List.forall_mem_cons, List.not_mem_nil, false_imp_iff, implies_true, and_true] at h
  refine ⟨⟨?_, ?_, ?_, ?_⟩, ?_⟩
  · omega
  · omega
  · omega
  · omega
  · unfold classEscape?
    split
    all_goals first | omega | rfl

theorem decimalDigit_of_octalDigit {d : Nat} (h : c.digitValue? 8 = some d) :
    c.digitValue? 10 = some d := by
  obtain ⟨hvalue, hlt⟩ := CodePoint.digitValue?_eq_some_iff.1 h
  exact CodePoint.digitValue?_eq_some_iff.2 ⟨hvalue, by omega⟩

theorem unmarked_of_octalDigit {d : Nat} (h : c.digitValue? 8 = some d) : Unmarked c := by
  have hval := CodePoint.val_of_digitValue? (by decide) h
  have hlt := CodePoint.digitValue?_lt h
  apply unmarked_of_val
  simp only [List.forall_mem_cons, List.not_mem_nil, false_imp_iff, implies_true, and_true]
  omega

theorem digitValue?_sign (hletter : c.isAsciiLetter = false) (hdigit : c.isAsciiDigit = false)
    (base : Nat) : c.digitValue? base = none := by
  have hletter := not_letter_iff.1 hletter
  have hdigit := not_digit_iff.1 hdigit
  have hnone : c.alphanumericValue? = none := by
    unfold CodePoint.alphanumericValue?
    simp only [Bool.and_eq_true, decide_eq_true_eq]
    rw [if_neg hdigit, if_neg hletter.1, if_neg hletter.2]
  rw [CodePoint.digitValue?, hnone]

theorem escaped_unmarked {d : CodePoint} {input : Text} (h : Escaped (c :: input) d rest) :
    Unmarked c ∧ c.digitValue? 8 = none ∧ c.digitValue? 10 = none := by
  cases h with
  | @control mark n _ hmark =>
      simp only [controls, List.mem_cons, List.not_mem_nil, Prod.mk.injEq, or_false] at hmark
      rcases hmark with ⟨rfl, -⟩ | ⟨rfl, -⟩ | ⟨rfl, -⟩ | ⟨rfl, -⟩ | ⟨rfl, -⟩ | ⟨rfl, -⟩
      all_goals exact ⟨unmarked_of_val (by decide), by decide, by decide⟩
  | @hex mark width t _ _ _ hmark _ _ _ =>
      simp only [hexMarks, List.mem_cons, List.not_mem_nil, Prod.mk.injEq, or_false] at hmark
      rcases hmark with ⟨rfl, -⟩ | ⟨rfl, -⟩ | ⟨rfl, -⟩
      all_goals exact ⟨unmarked_of_val (by decide), by decide, by decide⟩
  | sign hletter hdigit =>
      have hval := not_letter_iff.1 hletter
      refine ⟨unmarked_of_val ?_, digitValue?_sign hletter hdigit 8,
        digitValue?_sign hletter hdigit 10⟩
      simp only [List.forall_mem_cons, List.not_mem_nil, false_imp_iff, implies_true, and_true]
      omega

theorem escape_unmarked (hc : Unmarked c) (s : State) :
    escape c s =
      (match c.digitValue? 10 with
        | some 0 => plain do literal (← octalCodePoint (← digits 8 2))
        | some d => plain (numberEscape d)
        | none => plain do literal (← charEscape c)) s := by
  obtain ⟨⟨hA, hZ, hb, hB⟩, hclass⟩ := hc
  rw [escape, bind_ok (get_ok _)]
  refine congrFun ?_ s
  split
  · contradiction
  · contradiction
  · contradiction
  · contradiction
  · split
    · rename_i hsome
      cases hclass.symm.trans hsome
    · rfl

theorem octal_cons {d : CodePoint} {input : Text} (h : Octal (c :: input) ds d rest) :
    ∃ e es t, ds = e :: es ∧ input = t ++ rest ∧ c.digitValue? 8 = some e ∧ Run 8 t es ∧
      es.length ≤ 2 ∧ (es.length = 2 ∨ Next (fun c => c.digitValue? 8 = none) rest) ∧
      d.val = Numeral.value 8 (e :: es) ∧ d.val ≤ 0o377 := by
  generalize htext : c :: input = text at h
  cases h with
  | @mk t _ _ _ hdigits hne hmost hall hvalue hlimit =>
      obtain ⟨e, es, rfl⟩ := List.exists_cons_of_ne_nil hne
      cases t with
      | nil => cases hdigits
      | cons c' t =>
          obtain ⟨rfl, rfl⟩ := List.cons.inj htext
          obtain ⟨hc, hdigits⟩ := List.cons.inj hdigits
          exact ⟨e, es, t, rfl, rfl, hc, hdigits, Nat.le_of_succ_le_succ hmost,
            hall.imp_left Nat.succ.inj, hvalue, hlimit⟩

theorem charTest_plain (hs : s.modes = .plain) (items : List SetItem) (negated : Bool) :
    charTest items negated s = .ok (.one ⟨items, negated, .exact⟩, s) := by
  show Except.ok (Pattern.one ⟨items, negated, s.modes.caseMode⟩, s) = _
  rw [hs]
  rfl

theorem literal_plain (hs : s.modes = .plain) (c : CodePoint) :
    literal c s = .ok (only c, s) :=
  charTest_plain hs _ _

theorem plain_ok {p : Pattern} {m : ReaderM Pattern} {s' : State} (h : m s = .ok (p, s')) :
    plain m s = .ok (⟨p, true⟩, s') := by
  rw [plain, bind_ok h]
  rfl

theorem escape_escaped (hs : s.modes = .plain) {d : CodePoint} {input : Text}
    (h : Escaped (c :: input) d rest) :
    escape c (s.at input) = .ok (⟨only d, true⟩, s.at rest) := by
  obtain ⟨hunmarked, -, hdigit⟩ := escaped_unmarked h
  rw [escape_unmarked hunmarked, hdigit]
  apply plain_ok
  rw [bind_ok (charEscape_run h s)]
  exact literal_plain (s := s.at rest) hs d

theorem kindItem_plain (hs : s.modes = .plain) (kind : ClassKind) (negated : Bool) :
    kindItem kind negated s = .ok (.kind kind false negated, s) := by
  show Except.ok (SetItem.kind kind s.modes.ascii negated, s) = _
  rw [hs]
  rfl

theorem escape_kind (hs : s.modes = .plain) {mark : Char} {kind : ClassKind} {negated : Bool}
    (hmark : (mark, kind, negated) ∈ classes) :
    escape (ofChar mark) s =
      .ok (⟨.one ⟨[.kind kind false negated], false, .exact⟩, true⟩, s) := by
  have hescape : escape (ofChar mark) s =
      plain (do charTest [← kindItem kind negated] false) s := by
    simp only [classes, List.mem_cons, List.not_mem_nil, Prod.mk.injEq, or_false] at hmark
    rcases hmark with ⟨rfl, rfl, rfl⟩ | ⟨rfl, rfl, rfl⟩ | ⟨rfl, rfl, rfl⟩ | ⟨rfl, rfl, rfl⟩ |
      ⟨rfl, rfl, rfl⟩ | ⟨rfl, rfl, rfl⟩ <;> rfl
  rw [hescape]
  apply plain_ok
  rw [bind_ok (kindItem_plain hs kind negated)]
  exact charTest_plain hs _ _

theorem numberEscape_run (hs : s.modes = .plain) {d : CodePoint} {e f g : Nat} {x y : CodePoint}
    (he : e < 8) (hx : x.digitValue? 8 = some f) (hy : y.digitValue? 8 = some g)
    (hvalue : d.val = Numeral.value 8 [e, f, g]) (hlimit : d.val ≤ 0o377) :
    numberEscape e (s.at (x :: y :: rest)) = .ok (only d, s.at rest) := by
  have hfirst : digits 10 1 (s.at (x :: y :: rest)) = .ok ([f], s.at (y :: rest)) :=
    digits_run (t := [x]) (run_one (decimalDigit_of_octalDigit hx)) le_rfl (Or.inl rfl) s
  have hsecond : digits 8 1 (s.at (y :: rest)) = .ok ([g], s.at rest) :=
    digits_run (t := [y]) (run_one hy) le_rfl (Or.inl rfl) s
  rw [numberEscape, bind_ok hfirst]
  simp only [if_pos (And.intro he (CodePoint.digitValue?_lt hx))]
  rw [bind_ok hsecond]
  dsimp only
  rw [bind_ok (octalCodePoint_value hvalue hlimit (s.at rest))]
  exact literal_plain (s := s.at rest) hs d

theorem escape_octal (hs : s.modes = .plain) {d : CodePoint} {input : Text}
    (h : Octal (c :: input) ds d rest) (hds : ds.head? = some 0 ∨ ds.length = 3) :
    escape c (s.at input) = .ok (⟨only d, true⟩, s.at rest) := by
  obtain ⟨e, es, t, rfl, rfl, hc, hrun, hmost, hall, hvalue, hlimit⟩ := octal_cons h
  rw [escape_unmarked (unmarked_of_octalDigit hc), decimalDigit_of_octalDigit hc]
  cases e with
  | zero =>
      have hzero : d.val = Numeral.value 8 es := hvalue
      apply plain_ok
      rw [bind_ok (digits_run hrun hmost hall s),
        bind_ok (octalCodePoint_value hzero hlimit (s.at rest))]
      exact literal_plain (s := s.at rest) hs d
  | succ e =>
      have hthree : es.length = 2 := by
        rcases hds with hzero | hthree
        · cases hzero
        · exact Nat.succ.inj hthree
      obtain ⟨f, g, rfl⟩ := List.length_eq_two.1 hthree
      have htwo : t.length = 2 := by simpa using congrArg List.length hrun
      obtain ⟨x, y, rfl⟩ := List.length_eq_two.1 htwo
      obtain ⟨hx, hrest⟩ := List.cons.inj hrun
      obtain ⟨hy, -⟩ := List.cons.inj hrest
      exact plain_ok (numberEscape_run hs (CodePoint.digitValue?_lt hc) hx hy hvalue hlimit)

end Escapes

/-! ## What is left of the tokens -/

section Lengths

variable {rest : Text} {c d : CodePoint} {ds : List Nat}

theorem escaped_length {input : Text} (h : Escaped (c :: input) d rest) :
    (tokens rest).length ≤ (tokens input).length := by
  cases h with
  | control _ => exact le_rfl
  | hex _ hdigits _ _ =>
      rw [tokens_run hdigits, List.length_append]
      exact Nat.le_add_left _ _
  | sign _ _ => exact le_rfl

theorem octal_length {input : Text} (h : Octal (c :: input) ds d rest) :
    (tokens rest).length ≤ (tokens input).length := by
  obtain ⟨e, es, t, -, rfl, -, hrun, -⟩ := octal_cons h
  rw [tokens_run hrun, List.length_append]
  exact Nat.le_add_left _ _

theorem member_length {input : Text} {item : SetItem} (h : Member input item rest) :
    (tokens rest).length < (tokens input).length := by
  cases h with
  | plain hc =>
      rw [tokens_char hc]
      exact Nat.lt_succ_self _
  | backspace => exact Nat.lt_succ_self _
  | kind _ => exact Nat.lt_succ_self _
  | octal h =>
      obtain ⟨first, t, rfl⟩ := List.exists_cons_of_ne_nil h.ne_nil
      exact Nat.lt_succ_of_le (octal_length h)
  | escaped h =>
      obtain ⟨first, t, rfl⟩ := List.exists_cons_of_ne_nil h.ne_nil
      exact Nat.lt_succ_of_le (escaped_length h)

theorem members_length {first : Bool} {input : Text} {items : List SetItem}
    (h : Members first input items rest) : (tokens rest).length < (tokens input).length := by
  induction h with
  | close =>
      rw [tokens_char (by decide)]
      exact Nat.lt_succ_self _
  | one _ hitem _ _ ih => exact ih.trans (member_length hitem)
  | range _ hlow _ hhigh _ _ ih =>
      have hdash := member_length hlow
      have hhigh := member_length hhigh
      rw [tokens_char (by decide), List.length_cons] at hdash
      omega
  | dash _ hitem =>
      have hdash := member_length hitem
      rw [tokens_char (by decide), tokens_char (by decide), List.length_cons,
        List.length_cons] at hdash
      omega

end Lengths

/-! ## Sets -/

section Sets

variable {s : State} {input rest : Text} {item : SetItem} {items : List SetItem}

theorem setEscape_digit {c : CodePoint} {d : Nat} (hdigit : c.digitValue? 8 = some d) :
    setEscape c = do return .single (← octalCodePoint (d :: (← digits 8 2))) := by
  obtain ⟨⟨-, -, hb, -⟩, hclass⟩ := unmarked_of_octalDigit hdigit
  rw [setEscape, if_neg hb]
  simp only [hclass, hdigit]

theorem setEscape_char {c : CodePoint} (hc : Unmarked c) (hdigit : c.digitValue? 8 = none) :
    setEscape c = do return .single (← charEscape c) := by
  obtain ⟨⟨-, -, hb, -⟩, hclass⟩ := hc
  rw [setEscape, if_neg hb]
  simp only [hclass, hdigit]

theorem setEscape_kind (hs : s.modes = .plain) {mark : Char} {kind : ClassKind} {negated : Bool}
    (hmark : (mark, kind, negated) ∈ classes) :
    setEscape (ofChar mark) s = .ok (.kind kind false negated, s) := by
  have hescape : setEscape (ofChar mark) = kindItem kind negated := by
    simp only [classes, List.mem_cons, List.not_mem_nil, Prod.mk.injEq, or_false] at hmark
    rcases hmark with ⟨rfl, rfl, rfl⟩ | ⟨rfl, rfl, rfl⟩ | ⟨rfl, rfl, rfl⟩ | ⟨rfl, rfl, rfl⟩ |
      ⟨rfl, rfl, rfl⟩ | ⟨rfl, rfl, rfl⟩ <;> rfl
  rw [hescape]
  exact kindItem_plain hs kind negated

theorem setItem_member (hs : s.modes = .plain) (h : Member input item rest) :
    ∃ token t, tokens input = token :: tokens t ∧
      setItem token (s.at t) = .ok (item, s.at rest) ∧
      (token = .char (ofChar ']') → input.head? = some (ofChar ']')) := by
  cases h with
  | @plain c rest hc =>
      refine ⟨.char c, rest, tokens_char hc rest, rfl, ?_⟩
      intro htoken
      cases htoken
      rfl
  | @backspace rest =>
      exact ⟨.escape (ofChar 'b'), rest, rfl, rfl, fun h => (nomatch h)⟩
  | @kind mark kind negated rest hmark =>
      exact ⟨.escape (ofChar mark), rest, rfl, setEscape_kind (s := s.at rest) hs hmark,
        fun h => (nomatch h)⟩
  | @octal text rest digits c h =>
      obtain ⟨first, t, rfl⟩ := List.exists_cons_of_ne_nil h.ne_nil
      refine ⟨.escape first, t, rfl, ?_, fun h => (nomatch h)⟩
      obtain ⟨e, es, u, -, rfl, hfirst, hrun, hmost, hall, hvalue, hlimit⟩ := octal_cons h
      show setEscape first _ = _
      rw [setEscape_digit hfirst, bind_ok (digits_run hrun hmost hall s),
        bind_ok (octalCodePoint_value hvalue hlimit (s.at rest))]
      rfl
  | @escaped text rest c h =>
      obtain ⟨first, t, rfl⟩ := List.exists_cons_of_ne_nil h.ne_nil
      refine ⟨.escape first, t, rfl, ?_, fun h => (nomatch h)⟩
      obtain ⟨hunmarked, hdigit, -⟩ := escaped_unmarked h
      show setEscape first _ = _
      rw [setEscape_char hunmarked hdigit, bind_ok (charEscape_run h s)]
      rfl

def afterItem (fuel : Nat) (items : List SetItem) (item : SetItem) : ReaderM (List SetItem) := do
  if ← accept '-' then
    match ← next with
    | none => malformed
    | some other =>
      if other = .char (ofChar ']') then return items ++ [item, .single (ofChar '-')]
      else
        let high ← setItem other
        setItems fuel (items ++ [← rangeItem item high])
  else setItems fuel (items ++ [item])

theorem setItems_taken (hs : s.modes = .plain) (fuel : Nat)
    (hopen : items.isEmpty = false → Next (· ≠ ofChar ']') input) (hitem : Member input item rest) :
    setItems (fuel + 1) items (s.at input) = afterItem fuel items item (s.at rest) := by
  obtain ⟨token, t, htokens, hread, hclose⟩ := setItem_member hs hitem
  have hmember : ¬ (token = .char (ofChar ']') ∧ !items.isEmpty) := by
    rintro ⟨htoken, hitems⟩
    exact hopen (by simpa using hitems) _ (hclose htoken) rfl
  rw [setItems, bind_ok (next_token htokens s)]
  simp only [if_neg hmember]
  rw [bind_ok hread]
  rfl

theorem afterItem_one (hdash : Next (· ≠ ofChar '-') input) (fuel : Nat) (item : SetItem)
    (s : State) :
    afterItem fuel items item (s.at input) = setItems fuel (items ++ [item]) (s.at input) := by
  rw [afterItem, bind_ok (accept_no hdash s)]
  rfl

theorem afterItem_range (hs : s.modes = .plain) {low high : CodePoint}
    (hinput : Next (· ≠ ofChar ']') input) (hhigh : Member input (.single high) rest)
    (hle : low ≤ high) (fuel : Nat) :
    afterItem fuel items (.single low) (s.at (ofChar '-' :: input)) =
      setItems fuel (items ++ [.range low high]) (s.at rest) := by
  obtain ⟨token, t, htokens, hread, hclose⟩ := setItem_member hs hhigh
  have hother : token ≠ .char (ofChar ']') := fun h => hinput _ (hclose h) rfl
  have hrange : rangeItem (.single low) (.single high) (s.at rest) =
      .ok (.range low high, s.at rest) := by
    rw [rangeItem, if_neg (not_lt.2 hle)]
    rfl
  rw [afterItem, bind_ok (accept_yes (by decide) s input)]
  simp only [if_true]
  rw [bind_ok (next_token htokens s)]
  simp only [if_neg hother]
  rw [bind_ok hread, bind_ok hrange]

theorem afterItem_dash (fuel : Nat) (item : SetItem) (s : State) (rest : Text) :
    afterItem fuel items item (s.at (ofChar '-' :: ofChar ']' :: rest)) =
      .ok (items ++ [item, .single (ofChar '-')], s.at rest) := by
  rw [afterItem, bind_ok (accept_yes (by decide) s _)]
  simp only [if_true]
  rw [bind_ok (next_char (by decide) s rest)]
  simp only [if_true]
  rfl

theorem exists_fuel {n m fuel : Nat} (h : n < m) (hfuel : m ≤ fuel) :
    ∃ left, fuel = left + 1 ∧ n ≤ left :=
  ⟨fuel - 1, by omega, by omega⟩

/-- Members are read up to the bracket that closes the set. With every member a token is taken,
so the fuel is enough. -/
theorem setItems_run (hs : s.modes = .plain) {first : Bool} {new : List SetItem}
    (h : Members first input new rest) {fuel : Nat} (hfuel : (tokens input).length ≤ fuel)
    (hfirst : items.isEmpty = first) :
    setItems fuel items (s.at input) = .ok (items ++ new, s.at rest) := by
  have hgrown : ∀ (items : List SetItem) (item : SetItem),
      (items ++ [item]).isEmpty = false := by simp
  induction h generalizing fuel items with
  | @close rest =>
      have htokens : tokens (ofChar ']' :: rest) = .char (ofChar ']') :: tokens rest :=
        tokens_char (by decide) rest
      rw [htokens] at hfuel
      obtain ⟨left, rfl, -⟩ := exists_fuel (Nat.lt_succ_self _) hfuel
      rw [setItems, bind_ok (next_token htokens s)]
      simp only [hfirst, Bool.not_false, and_self, if_true, List.append_nil]
      rfl
  | one hopen hitem hdash _ ih =>
      obtain ⟨left, rfl, hleft⟩ := exists_fuel (member_length hitem) hfuel
      rw [setItems_taken hs left (hfirst ▸ hopen) hitem, afterItem_one hdash,
        ih hleft (hgrown _ _), List.append_assoc]
      rfl
  | range hopen hlow hmid hhigh hle _ ih =>
      have hlength := member_length hlow
      rw [tokens_char (by decide)] at hlength
      obtain ⟨left, rfl, hleft⟩ := exists_fuel hlength hfuel
      have hmore := (member_length hhigh).le.trans ((Nat.le_succ _).trans hleft)
      rw [setItems_taken hs left (hfirst ▸ hopen) hlow, afterItem_range hs hmid hhigh hle,
        ih hmore (hgrown _ _), List.append_assoc]
      rfl
  | dash hopen hitem =>
      obtain ⟨left, rfl, -⟩ := exists_fuel (member_length hitem) hfuel
      rw [setItems_taken hs left (hfirst ▸ hopen) hitem]
      exact afterItem_dash left _ s _

theorem bracketed_set (hs : s.modes = .plain) (hinput : Next (· ≠ ofChar '^') input)
    (h : Members true input items rest) :
    bracketed (s.at input) = .ok (.one ⟨items, false, .exact⟩, s.at rest) := by
  have hread : setItems (tokens input).length [] (s.at input) = .ok (items, s.at rest) :=
    setItems_run hs h le_rfl rfl
  rw [bracketed, bind_ok (accept_no hinput s), bind_ok (get_ok _)]
  exact (bind_ok hread _).trans (charTest_plain (s := s.at rest) hs items false)

theorem bracketed_others (hs : s.modes = .plain) (h : Members true input items rest) :
    bracketed (s.at (ofChar '^' :: input)) = .ok (.one ⟨items, true, .exact⟩, s.at rest) := by
  have hread : setItems (tokens input).length [] (s.at input) = .ok (items, s.at rest) :=
    setItems_run hs h le_rfl rfl
  rw [bracketed, bind_ok (accept_yes (by decide) s input), bind_ok (get_ok _)]
  exact (bind_ok hread _).trans (charTest_plain (s := s.at rest) hs items true)

end Sets

end FormIntake.Pattern.Reader
