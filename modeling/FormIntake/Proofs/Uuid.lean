import FormIntake.Proofs.Numeral
import FormIntake.Proofs.Numeral.Grammar
import FormIntake.Proofs.Text.Blank
import FormIntake.Uuid
/-!
# How an id is spelled

An id may be spelled with small or capital digits, with or without hyphens, in
braces and after the marks `urn:` and `uuid:`. The reader takes all but the
digits away and reads them as the id. The canonical text is one of these
spellings, so it names one id only.
-/

namespace FormIntake

/-! ## Digits of base sixteen -/

def smallDigit (d : Nat) : CodePoint :=
  CodePoint.ofChar (Nat.digitChar d)

theorem digitValue_smallDigit : ∀ d < 16, (smallDigit d).digitValue? 16 = some d := by
  decide

theorem CodePoint.val_of_hexDigit {c : CodePoint} {d : Nat} (h : c.digitValue? 16 = some d) :
    (0x30 ≤ c.val ∧ c.val ≤ 0x39) ∨ (0x41 ≤ c.val ∧ c.val ≤ 0x46) ∨
      (0x61 ≤ c.val ∧ c.val ≤ 0x66) := by
  obtain ⟨hvalue, hlt⟩ := digitValue?_eq_some_iff.1 h
  unfold alphanumericValue? at hvalue
  simp only [Bool.and_eq_true, decide_eq_true_eq] at hvalue
  split at hvalue
  · omega
  · split at hvalue
    · have hd := Option.some.inj hvalue
      omega
    · split at hvalue
      · have hd := Option.some.inj hvalue
        omega
      · cases hvalue

/-- A code point that the reader of keys neither takes away nor takes for a mark. -/
structure Ordinary (c : CodePoint) : Prop where
  ne_hyphen : c ≠ Uuid.hyphen
  not_brace : Uuid.isBrace c = false
  not_space : c.isWhiteSpace = false
  ne_u : c ≠ CodePoint.ofChar 'u'
  ne_plus : c ≠ CodePoint.ofChar '+'
  ne_x : c ≠ CodePoint.ofChar 'x' ∧ c ≠ CodePoint.ofChar 'X'

theorem ordinary_of_hexDigit {c : CodePoint} {d : Nat} (h : c.digitValue? 16 = some d) :
    Ordinary c := by
  have hval := CodePoint.val_of_hexDigit h
  have hne : ∀ mark : CodePoint, mark.digitValue? 16 = none → c ≠ mark := by
    rintro mark hmark rfl
    rw [hmark] at h
    cases h
  refine ⟨hne _ rfl, ?_, ?_, hne _ rfl, hne _ rfl, hne _ rfl, hne _ rfl⟩
  · rw [Uuid.isBrace, decide_eq_false (hne _ rfl), decide_eq_false (hne _ rfl), Bool.or_false]
  · simp only [CodePoint.isWhiteSpace, Bool.or_eq_false_iff, Bool.and_eq_false_iff,
      decide_eq_false_iff_not, beq_eq_false_iff_ne]
    omega

theorem anyDigit?_of_hexDigit {c : CodePoint} {d : Nat} (h : c.digitValue? 16 = some d) :
    Numeral.anyDigit? 16 c = some d := by
  have hval := CodePoint.val_of_hexDigit h
  rw [Numeral.anyDigit?, if_pos (by omega), h]

def HexRow (row : Text) (digits : List Nat) : Prop :=
  row.map (CodePoint.digitValue? 16) = digits.map some

namespace HexRow

variable {row : Text} {digits : List Nat}

theorem ordinary (h : HexRow row digits) : ∀ c ∈ row, Ordinary c := by
  intro c hc
  obtain ⟨d, hd⟩ := Numeral.exists_of_mem_run h hc
  exact ordinary_of_hexDigit hd

theorem length_eq (h : HexRow row digits) : row.length = digits.length := by
  have hlength := congrArg List.length h
  rwa [List.length_map, List.length_map] at hlength

theorem map_anyDigit? (h : HexRow row digits) :
    row.map (Numeral.anyDigit? 16) = digits.map some := by
  calc
    row.map (Numeral.anyDigit? 16) = row.map (CodePoint.digitValue? 16) := by
      apply List.map_congr_left
      intro c hc
      obtain ⟨d, hd⟩ := Numeral.exists_of_mem_run h hc
      rw [anyDigit?_of_hexDigit hd, hd]
    _ = digits.map some := h

theorem groupedDigits? (h : HexRow row digits) (hne : digits ≠ []) :
    Numeral.groupedDigits? (Numeral.anyDigit? 16) row = some digits :=
  (Numeral.groupedDigits?_eq_some_iff (by decide)).2 (Numeral.Grouped.of_run h.map_anyDigit? hne)

/-- A row of digits is a numeral of base sixteen as it stands. -/
theorem readInt? (h : HexRow row digits) (hlength : 2 ≤ digits.length) :
    Numeral.readInt? 16 row = some (Numeral.value 16 digits : Int) := by
  have hordinary := h.ordinary
  have hrow := h.length_eq
  obtain ⟨first, second, rest, rfl⟩ : ∃ first second rest, row = first :: second :: rest := by
    match row with
    | first :: second :: rest => exact ⟨first, second, rest, rfl⟩
    | [] | [_] =>
        simp only [List.length_nil, List.length_singleton] at hrow
        omega
  have hfirst := hordinary first List.mem_cons_self
  have hsecond := hordinary second (List.mem_cons_of_mem _ List.mem_cons_self)
  have hsign : Numeral.takeSign (first :: second :: rest) = (false, first :: second :: rest) := by
    have hhyphen : first ≠ CodePoint.ofChar '-' := hfirst.ne_hyphen
    rw [Numeral.takeSign, if_neg hhyphen, if_neg hfirst.ne_plus]
  have hbegins : Numeral.dropHexPrefix (first :: second :: rest) = first :: second :: rest := by
    simp only [Numeral.dropHexPrefix]
    rw [if_neg]
    rintro ⟨-, hmark | hmark⟩
    · exact hsecond.ne_x.1 hmark
    · exact hsecond.ne_x.2 hmark
  have hne : digits ≠ [] := List.ne_nil_of_length_pos (by omega)
  simp only [Numeral.readInt?, Text.trim_eq_self fun c hc => (hordinary c hc).not_space, hsign,
    if_true, hbegins, h.groupedDigits? hne]
  rfl

end HexRow

/-! ## Texts that nothing is taken from -/

namespace Text

/-- A phrase is not found in a text that lacks its first code point. -/
theorem removeAll_eq_self {first : CodePoint} {phrase t : Text} (h : first ∉ t) :
    t.removeAll (first :: phrase) = t := by
  unfold removeAll
  induction t with
  | nil => rfl
  | cons c rest ih =>
      have hne : ¬ (first :: phrase ≠ [] ∧ (first :: phrase).isPrefixOf (c :: rest) = true) := by
        rintro ⟨-, hbegins⟩
        rw [List.isPrefixOf, Bool.and_eq_true, beq_iff_eq] at hbegins
        exact h (hbegins.1 ▸ List.mem_cons_self)
      rw [removeAll.go, if_neg hne, ih fun hrest => h (List.mem_cons_of_mem _ hrest)]

end Text

namespace Uuid

/-! ## Spellings -/

def marks : List Text :=
  ["", "urn:", "uuid:", "urn:uuid:"]

/-- A text that spells an id: after a mark and in braces, or without them, its 32 digits, small or
capital, with hyphens anywhere. -/
inductive Spelling (id : Uuid) : Text → Prop
  | mk {mark opening body closing : Text} {digits : List Nat} (hmark : mark ∈ marks)
      (hopening : ∀ c ∈ opening, isBrace c = true) (hclosing : ∀ c ∈ closing, isBrace c = true)
      (hbody : HexRow (body.filter (· ≠ hyphen)) digits) (hlength : digits.length = 32)
      (hvalue : Numeral.value 16 digits = id.val) :
      Spelling id (mark ++ (opening ++ body ++ closing))

theorem Spelling.plain {id : Uuid} {body : Text} {digits : List Nat}
    (hbody : HexRow (body.filter (· ≠ hyphen)) digits) (hlength : digits.length = 32)
    (hvalue : Numeral.value 16 digits = id.val) : Spelling id body := by
  have hempty : ∀ c ∈ ([] : Text), isBrace c = true := fun c hc => absurd hc List.not_mem_nil
  have hspelling : Spelling id ([] ++ ([] ++ body ++ [])) :=
    .mk List.mem_cons_self hempty hempty hbody hlength hvalue
  rwa [List.append_nil] at hspelling

/-- The marks are taken away, wherever else the letter u is missing. -/
theorem removeAll_marks {mark rest : Text} (hmark : mark ∈ marks)
    (hrest : CodePoint.ofChar 'u' ∉ rest) :
    ((mark ++ rest).removeAll "urn:").removeAll "uuid:" = rest := by
  have hurn : rest.removeAll "urn:" = rest := Text.removeAll_eq_self hrest
  have huuid : rest.removeAll "uuid:" = rest := Text.removeAll_eq_self hrest
  simp only [marks, List.mem_cons, List.not_mem_nil, or_false] at hmark
  rcases hmark with rfl | rfl | rfl | rfl
  · show (rest.removeAll "urn:").removeAll "uuid:" = rest
    rw [hurn, huuid]
  · show (rest.removeAll "urn:").removeAll "uuid:" = rest
    rw [hurn, huuid]
  · show (Text.ofString "uuid:" ++ rest.removeAll "urn:").removeAll "uuid:" = rest
    rw [hurn]
    exact huuid
  · show (Text.ofString "uuid:" ++ rest.removeAll "urn:").removeAll "uuid:" = rest
    rw [hurn]
    exact huuid

/-- Only the digits of a spelling are left. -/
theorem bare_of_body {mark opening body closing : Text} (hmark : mark ∈ marks)
    (hopening : ∀ c ∈ opening, isBrace c = true) (hclosing : ∀ c ∈ closing, isBrace c = true)
    (hbody : ∀ c ∈ body, c = hyphen ∨ Ordinary c) :
    bare (mark ++ (opening ++ body ++ closing)) = body.filter (· ≠ hyphen) := by
  have hnotBrace : ∀ c ∈ body, isBrace c = false := by
    intro c hc
    rcases hbody c hc with rfl | hordinary
    · rfl
    · exact hordinary.not_brace
  have hu : CodePoint.ofChar 'u' ∉ opening ++ body ++ closing := by
    intro hmem
    have hbrace : isBrace (CodePoint.ofChar 'u') ≠ true := by decide
    rcases List.mem_append.1 hmem with hmem | hmem
    · rcases List.mem_append.1 hmem with hmem | hmem
      · exact hbrace (hopening _ hmem)
      · rcases hbody _ hmem with hhyphen | hordinary
        · exact absurd hhyphen (by decide)
        · exact hordinary.ne_u rfl
    · exact hbrace (hclosing _ hmem)
  rw [bare, removeAll_marks hmark hu, Text.trim_padded hopening hnotBrace hclosing]

/-- The reader gives back the id that a text spells. -/
theorem read?_of_spelling {id : Uuid} {t : Text} (h : Spelling id t) : read? t = some id := by
  cases h with
  | @mk mark opening body closing digits hmark hopening hclosing hbody hlength hvalue =>
      have hbare : bare (mark ++ (opening ++ body ++ closing)) = body.filter (· ≠ hyphen) := by
        apply bare_of_body hmark hopening hclosing
        intro c hc
        by_cases hhyphen : c = hyphen
        · exact Or.inl hhyphen
        · exact Or.inr (hbody.ordinary c (List.mem_filter.2 ⟨hc, decide_eq_true hhyphen⟩))
      have hsize : (bare (mark ++ (opening ++ body ++ closing))).length = 32 := by
        rw [hbare, hbody.length_eq, hlength]
      rw [read?, if_pos hsize, hbare, hbody.readInt? (by omega), hvalue]
      simp only [Int.natCast_nonneg, if_true, Int.toNat_natCast, ofNat?]
      rw [dif_pos id.isLt]

/-! ## The canonical text -/

/-- The digits of an id, filled up to 32. -/
theorem exists_digits (id : Uuid) :
    ∃ digits : List Nat, HexRow (Text.hex 32 id.val) digits ∧ digits.length = 32 ∧
      Numeral.value 16 digits = id.val := by
  obtain ⟨digits, hdigits, hbound, hvalue⟩ := Numeral.exists_toDigits (by decide : 1 < 16) id.val
  have hlength : digits.length ≤ 32 := by
    have hlt : id.val < 16 ^ 32 := id.isLt
    rw [← Nat.length_toDigits_le_iff (by decide) (by decide), hdigits, List.length_map] at hlt
    exact hlt
  have hrow : Text.hex 32 id.val =
      (List.replicate (32 - digits.length) 0 ++ digits).map smallDigit := by
    simp only [Text.hex, Text.zeroPadded, hdigits, List.map_append, List.map_replicate,
      List.map_map, List.length_map]
    rfl
  refine ⟨List.replicate (32 - digits.length) 0 ++ digits, ?_, ?_, ?_⟩
  · rw [HexRow, hrow, List.map_map]
    apply List.map_congr_left
    intro d hd
    apply digitValue_smallDigit
    rcases List.mem_append.1 hd with hd | hd
    · rw [List.eq_of_mem_replicate hd]
      decide
    · exact hbound d hd
  · rw [List.length_append, List.length_replicate]
    omega
  · rw [Numeral.value_zeros, hvalue]

theorem take_append_drop (t : Text) (i n : Nat) :
    (t.drop i).take n ++ t.drop (i + n) = t.drop i := by
  rw [← List.drop_drop, List.take_append_drop]

theorem filter_hyphen_eq_self {t : Text} (h : ∀ c ∈ t, c ≠ hyphen) :
    t.filter (· ≠ hyphen) = t := by
  rw [List.filter_eq_self]
  intro c hc
  exact decide_eq_true (h c hc)

/-- Without its hyphens a canonical text is the row of digits. -/
theorem filter_text {id : Uuid} (h : ∀ c ∈ Text.hex 32 id.val, c ≠ hyphen) :
    (text id).filter (· ≠ hyphen) = Text.hex 32 id.val := by
  have htake : ∀ i n, ((((Text.hex 32 id.val).drop i).take n).filter (· ≠ hyphen)) =
      ((Text.hex 32 id.val).drop i).take n :=
    fun i n => filter_hyphen_eq_self fun c hc =>
      h c (List.mem_of_mem_drop (List.mem_of_mem_take hc))
  have hdrop : ((Text.hex 32 id.val).drop 20).filter (· ≠ hyphen) =
      (Text.hex 32 id.val).drop 20 :=
    filter_hyphen_eq_self fun c hc => h c (List.mem_of_mem_drop hc)
  have hhyphen : ∀ rest : Text, (hyphen :: rest).filter (· ≠ hyphen) =
      rest.filter (· ≠ hyphen) :=
    fun rest => List.filter_cons_of_neg (by decide)
  have hfirst := htake 0 8
  rw [List.drop_zero] at hfirst
  simp only [text, List.filter_append, hhyphen, hfirst, htake, hdrop, List.append_assoc]
  rw [take_append_drop _ 16 4, take_append_drop _ 12 4, take_append_drop _ 8 4,
    List.take_append_drop]

/-- The canonical text is a spelling, and so is the row of its digits. -/
theorem spelling_text (id : Uuid) : Spelling id (text id) ∧ Spelling id (Text.hex 32 id.val) := by
  obtain ⟨digits, hrow, hlength, hvalue⟩ := exists_digits id
  have hhyphen : ∀ c ∈ Text.hex 32 id.val, c ≠ hyphen := fun c hc => (hrow.ordinary c hc).ne_hyphen
  constructor
  · apply Spelling.plain _ hlength hvalue
    rwa [filter_text hhyphen]
  · apply Spelling.plain _ hlength hvalue
    rwa [filter_hyphen_eq_self hhyphen]

/-- The reader gives back the id of a canonical text. -/
theorem read?_text (id : Uuid) : read? (text id) = some id :=
  read?_of_spelling (spelling_text id).1

theorem text_injective {a b : Uuid} (h : text a = text b) : a = b := by
  have hread := read?_text a
  rw [h, read?_text b] at hread
  exact (Option.some.inj hread).symm

end Uuid

end FormIntake
