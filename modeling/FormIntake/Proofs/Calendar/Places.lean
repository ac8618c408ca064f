import FormIntake.Calendar.IsoText
import FormIntake.Proofs.Calendar.Weeks
import FormIntake.Proofs.Numeral
import FormIntake.Proofs.Text.Surrogates
/-!
# Reading at a place

The reader of dates and times looks at the bytes of a text by their places.
What it finds at a place is said here of the bytes from that place on:
rows of digits, marks between them, and the four ways to write a day.
-/

namespace FormIntake.Calendar.IsoText

open Numeral

variable {b run rest : Bytes} {i n value : Nat} {byte : Byte}

/-! ## Bytes -/

theorem byteAt_of_drop (h : b.drop i = byte :: rest) : byteAt b i = byte.toNat := by
  have hget : b[i]? = some byte := by
    rw [← Nat.add_zero i, ← List.getElem?_drop, h, List.getElem?_cons_zero]
  rw [byteAt, List.getD_eq_getElem?_getD, hget, Option.getD_some]

theorem byteAt_of_drop_nil (h : b.drop i = []) : byteAt b i = 0 := by
  have hget : b[i]? = none := List.getElem?_eq_none (List.drop_eq_nil_iff.1 h)
  rw [byteAt, List.getD_eq_getElem?_getD, hget, Option.getD_none]
  rfl

theorem drop_of_drop (h : b.drop i = run ++ rest) : b.drop (i + run.length) = rest := by
  rw [← List.drop_drop, h, List.drop_left]

theorem drop_succ_of_drop (h : b.drop i = byte :: rest) : b.drop (i + 1) = rest :=
  @drop_of_drop b [byte] rest i h

theorem length_of_drop (h : b.drop i = run) (hi : i ≤ b.length) : b.length = i + run.length := by
  rw [← h, List.length_drop]
  omega

/-! ## Encoded texts -/

theorem utf8_append (t u : Text) : Text.utf8 (t ++ u) = t.utf8 ++ u.utf8 :=
  List.flatMap_append

theorem utf8_cons (c : CodePoint) (t : Text) : Text.utf8 (c :: t) = c.utf8 ++ t.utf8 :=
  List.flatMap_cons

theorem exists_utf8 (c : CodePoint) :
    ∃ first others, c.utf8 = first :: others ∧ width first.toNat = others.length + 1 := by
  have hval := c.isLt
  unfold CodePoint.utf8
  dsimp only
  split
  · refine ⟨_, _, rfl, ?_⟩
    rw [Nat.toUInt8, UInt8.toNat_ofNat', Nat.mod_eq_of_lt (by omega), width, if_pos (by omega)]
    rfl
  · split
    · refine ⟨_, _, rfl, ?_⟩
      rw [Nat.toUInt8, UInt8.toNat_ofNat', Nat.mod_eq_of_lt (by omega), width, if_neg (by omega),
        if_neg (by omega), if_neg (by omega)]
      rfl
    · split
      · refine ⟨_, _, rfl, ?_⟩
        rw [Nat.toUInt8, UInt8.toNat_ofNat', Nat.mod_eq_of_lt (by omega), width,
          if_neg (by omega), if_pos (by omega)]
        rfl
      · refine ⟨_, _, rfl, ?_⟩
        rw [Nat.toUInt8, UInt8.toNat_ofNat', Nat.mod_eq_of_lt (by omega), width,
          if_neg (by omega), if_neg (by omega), if_pos (by omega)]
        rfl

/-! ## Rows of digits -/

/-- The bytes are `n` digits with the given value. -/
structure DigitRow (run : Bytes) (n value : Nat) : Prop where
  length_eq : run.length = n
  isDigit : ∀ byte ∈ run, isDigit byte.toNat = true
  value_eq : Numeral.value 10 (run.map fun byte => byte.toNat - 0x30) = value

theorem digits?_of_isDigit (hrun : ∀ byte ∈ run, isDigit byte.toNat = true)
    (h : b.drop i = run ++ rest) :
    digits? b i run.length = some (Numeral.value 10 (run.map fun byte => byte.toNat - 0x30)) := by
  induction run using List.reverseRecOn generalizing rest with
  | nil => rfl
  | append_singleton run byte ih =>
      rw [List.append_assoc] at h
      have hfirst := ih (fun d hd => hrun d (List.mem_append_left _ hd)) h
      have hlast := byteAt_of_drop (drop_of_drop h)
      have hdigit := hrun byte (List.mem_append_right _ (List.mem_singleton_self byte))
      rw [List.length_append, List.length_singleton, digits?, hfirst]
      simp only [hlast, hdigit, if_true, List.map_append, List.map_cons, List.map_nil,
        Numeral.value, List.foldl_append, List.foldl_cons, List.foldl_nil]
      rw [Nat.mul_comm]

namespace DigitRow

variable (hrow : DigitRow run n value)

include hrow

theorem digits? (h : b.drop i = run ++ rest) : digits? b i n = some value := by
  rw [← hrow.length_eq, ← hrow.value_eq]
  exact digits?_of_isDigit hrow.isDigit h

theorem drop (h : b.drop i = run ++ rest) : b.drop (i + n) = rest := by
  rw [← hrow.length_eq]
  exact drop_of_drop h

/-- Where a row begins there is a digit, and so no mark. -/
theorem isDigit_byteAt (hpos : 0 < n) (h : b.drop i = run ++ rest) :
    IsoText.isDigit (byteAt b i) = true := by
  cases run with
  | nil =>
      have hlength := hrow.length_eq
      rw [List.length_nil] at hlength
      omega
  | cons byte run =>
      rw [byteAt_of_drop h]
      exact hrow.isDigit byte List.mem_cons_self

end DigitRow

theorem ne_of_isDigit {byte : Nat} (h : isDigit byte = true) :
    byte ≠ dash ∧ byte ≠ weekMark ∧ byte ≠ colon ∧ isOffsetMark byte = false := by
  unfold isDigit at h
  unfold isOffsetMark dash weekMark colon
  simp only [Bool.and_eq_true, decide_eq_true_eq] at h
  simp only [Bool.or_eq_false_iff, beq_eq_false_iff_ne]
  omega

theorem skipDigits_of_drop (hrun : ∀ byte ∈ run, isDigit byte.toNat = true)
    (hrest : ∀ byte ∈ rest.head?, isDigit byte.toNat = false) (h : b.drop i = run ++ rest) :
    skipDigits b i = i + run.length := by
  have hstop : rest.takeWhile (fun byte => isDigit byte.toNat) = [] := by
    cases rest with
    | nil => rfl
    | cons byte rest =>
        have hbyte := hrest byte rfl
        exact List.takeWhile_cons_of_neg (by rw [hbyte]; exact Bool.false_ne_true)
  rw [skipDigits, h, List.takeWhile_append_of_pos hrun, hstop, List.append_nil]

/-! ### Digits of a text -/

def figure (c : CodePoint) : Nat :=
  c.val - 0x30

theorem utf8_of_isAsciiDigit {c : CodePoint} (h : c.isAsciiDigit = true) :
    c.utf8 = [c.val.toUInt8] ∧ c.val.toUInt8.toNat = c.val ∧ isDigit c.val = true := by
  have hval : 0x30 ≤ c.val ∧ c.val ≤ 0x39 := by
    simpa [CodePoint.isAsciiDigit] using h
  refine ⟨?_, ?_, h⟩
  · unfold CodePoint.utf8
    dsimp only
    rw [if_pos (by omega)]
  · rw [Nat.toUInt8, UInt8.toNat_ofNat', Nat.mod_eq_of_lt (by omega)]

theorem utf8_of_digits {t : Text} (h : ∀ c ∈ t, c.isAsciiDigit = true) :
    t.utf8 = t.map fun c => c.val.toUInt8 := by
  induction t with
  | nil => rfl
  | cons c t ih =>
      have hc := utf8_of_isAsciiDigit (h c List.mem_cons_self)
      rw [utf8_cons, hc.1, ih fun d hd => h d (List.mem_cons_of_mem _ hd)]
      rfl

theorem map_utf8_of_digits {t : Text} (h : ∀ c ∈ t, c.isAsciiDigit = true) :
    (t.utf8.map fun byte => byte.toNat - 0x30) = t.map figure := by
  rw [utf8_of_digits h, List.map_map]
  apply List.map_congr_left
  intro c hc
  show c.val.toUInt8.toNat - 0x30 = figure c
  rw [(utf8_of_isAsciiDigit (h c hc)).2.1, figure]

theorem digitRow_utf8 {t : Text} (h : ∀ c ∈ t, c.isAsciiDigit = true) :
    DigitRow t.utf8 t.length (Numeral.value 10 (t.map figure)) := by
  refine ⟨?_, ?_, congrArg _ (map_utf8_of_digits h)⟩
  · rw [utf8_of_digits h, List.length_map]
  · rw [utf8_of_digits h]
    intro byte hbyte
    obtain ⟨c, hc, rfl⟩ := List.mem_map.1 hbyte
    obtain ⟨-, hval, hdigit⟩ := utf8_of_isAsciiDigit (h c hc)
    rw [hval]
    exact hdigit

theorem isAsciiDigit_digitChar :
    ∀ d < 10, (CodePoint.ofChar d.digitChar).isAsciiDigit = true ∧
      figure (CodePoint.ofChar d.digitChar) = d := by
  decide +kernel

theorem zeroPadded_spec {n value : Nat} (hpos : 0 < n) (h : value < 10 ^ n) :
    (Text.zeroPadded n (Text.ofNat value)).length = n ∧
      (∀ c ∈ Text.zeroPadded n (Text.ofNat value), c.isAsciiDigit = true) ∧
      Numeral.value 10 ((Text.zeroPadded n (Text.ofNat value)).map figure) = value := by
  obtain ⟨digits, hdigits, hten, hvalue⟩ := exists_toDigits (by decide : 1 < 10) value
  have hlength : digits.length ≤ n := by
    have hle := (Nat.length_toDigits_le_iff (b := 10) (by decide) hpos).2 h
    rwa [hdigits, List.length_map] at hle
  have htext : Text.zeroPadded n (Text.ofNat value) =
      (List.replicate (n - digits.length) 0 ++ digits).map fun d =>
        CodePoint.ofChar (Nat.digitChar d) := by
    rw [Text.zeroPadded, Text.ofNat, hdigits, List.map_map, List.length_map, List.map_append,
      List.map_replicate]
    rfl
  have hall : ∀ d ∈ List.replicate (n - digits.length) 0 ++ digits, d < 10 := by
    intro d hd
    rcases List.mem_append.1 hd with hzero | hd
    · rw [List.eq_of_mem_replicate hzero]
      decide
    · exact hten d hd
  rw [htext]
  refine ⟨?_, ?_, ?_⟩
  · rw [List.length_map, List.length_append, List.length_replicate]
    omega
  · intro c hc
    obtain ⟨d, hd, rfl⟩ := List.mem_map.1 hc
    exact (isAsciiDigit_digitChar d (hall d hd)).1
  · have hback := List.map_congr_left fun d hd => (isAsciiDigit_digitChar d (hall d hd)).2
    rw [List.map_map]
    show Numeral.value 10 (List.map (fun d => figure (CodePoint.ofChar (Nat.digitChar d))) _) = _
    rw [hback, List.map_id', value_zeros, hvalue]

theorem digitRow_zeroPadded {n value : Nat} (hpos : 0 < n) (h : value < 10 ^ n) :
    DigitRow (Text.utf8 (Text.zeroPadded n (Text.ofNat value))) n value := by
  obtain ⟨hlength, hdigits, hvalue⟩ := zeroPadded_spec hpos h
  have hrow := digitRow_utf8 hdigits
  rwa [hlength, hvalue] at hrow

/-! ## Dates -/

section

variable {yearRow monthRow dayRow weekRow weekdayRow : Bytes} {year month day week weekday : Nat}

/-- `YYYY-MM-DD`, whatever follows. -/
theorem date?_dashed (hyear : DigitRow yearRow 4 year) (hmonth : DigitRow monthRow 2 month)
    (hday : DigitRow dayRow 2 day)
    (hb : b = yearRow ++ 0x2D :: (monthRow ++ 0x2D :: (dayRow ++ rest))) :
    separator? b = some 10 ∧ date? b 10 = Date.ofParts? year month day := by
  have hplace0 : b.drop 0 = yearRow ++ 0x2D :: (monthRow ++ 0x2D :: (dayRow ++ rest)) := hb
  have hplace4 := hyear.drop hplace0
  have hplace5 := drop_succ_of_drop hplace4
  have hplace7 := hmonth.drop hplace5
  have hplace8 := drop_succ_of_drop hplace7
  have hplace10 := hday.drop hplace8
  have hmark := ne_of_isDigit (hmonth.isDigit_byteAt (by decide) hplace5)
  have hlength : b.length = 10 + rest.length := by
    apply length_of_drop hplace10
    have hlong := congrArg List.length hplace8
    have h2 := hday.length_eq
    rw [List.length_drop, List.length_append] at hlong
    omega
  have hdash4 : byteAt b 4 = dash := byteAt_of_drop hplace4
  have hdash7 : byteAt b 7 = dash := byteAt_of_drop hplace7
  constructor
  · unfold separator?
    rw [if_neg (by omega), if_pos hdash4, if_neg hmark.2.1]
  · simp only [date?, hyear.digits? hplace0, hdash4, Option.bind_eq_bind, Option.bind_some,
      decide_true, if_true, if_neg hmark.2.1, monthDate?, hmonth.digits? hplace5,
      hday.digits? hplace8, hdash7, ne_eq, not_true_eq_false, and_false, if_false]

/-- `YYYYMMDD`. -/
theorem date?_compact (hyear : DigitRow yearRow 4 year) (hmonth : DigitRow monthRow 2 month)
    (hday : DigitRow dayRow 2 day) (hb : b = yearRow ++ (monthRow ++ dayRow)) :
    separator? b = some 8 ∧ date? b 8 = Date.ofParts? year month day := by
  have hplace0 : b.drop 0 = yearRow ++ (monthRow ++ dayRow) := hb
  have hplace4 := hyear.drop hplace0
  have hplace6 : b.drop 6 = dayRow ++ [] := by
    rw [List.append_nil]
    exact hmonth.drop hplace4
  have hmark := ne_of_isDigit (hmonth.isDigit_byteAt (by decide) hplace4)
  have hlength : b.length = 8 := by
    have h4 := hyear.length_eq
    have h2 := hmonth.length_eq
    have h2' := hday.length_eq
    rw [hb, List.length_append, List.length_append]
    omega
  constructor
  · unfold separator?
    rw [if_neg (by omega), if_neg hmark.1, if_neg hmark.2.1]
  · simp only [date?, hyear.digits? hplace0, hmark.1, Option.bind_eq_bind, Option.bind_some,
      decide_false, Bool.false_eq_true, if_false, if_neg hmark.2.1, monthDate?,
      hmonth.digits? hplace4, hday.digits? hplace6, false_and, if_true]

/-- `YYYY-Www-D`. -/
theorem date?_dashedWeek (hyear : DigitRow yearRow 4 year) (hweek : DigitRow weekRow 2 week)
    (hweekday : DigitRow weekdayRow 1 weekday)
    (hb : b = yearRow ++ 0x2D :: 0x57 :: (weekRow ++ 0x2D :: weekdayRow)) :
    separator? b = some 10 ∧ date? b 10 = Date.ofWeek? year week weekday := by
  have hplace0 : b.drop 0 = yearRow ++ 0x2D :: 0x57 :: (weekRow ++ 0x2D :: weekdayRow) := hb
  have hplace4 := hyear.drop hplace0
  have hplace5 := drop_succ_of_drop hplace4
  have hplace6 := drop_succ_of_drop hplace5
  have hplace8 := hweek.drop hplace6
  have hplace9 : b.drop 9 = weekdayRow ++ [] := by
    rw [List.append_nil]
    exact drop_succ_of_drop hplace8
  have hlength : b.length = 10 := by
    have h4 := hyear.length_eq
    have h2 := hweek.length_eq
    have h1 := hweekday.length_eq
    simp only [hb, List.length_append, List.length_cons]
    omega
  have hdash4 : byteAt b 4 = dash := byteAt_of_drop hplace4
  have hmark5 : byteAt b 5 = weekMark := byteAt_of_drop hplace5
  have hdash8 : byteAt b 8 = dash := byteAt_of_drop hplace8
  constructor
  · unfold separator?
    rw [if_neg (by omega), if_pos hdash4, if_pos hmark5, if_neg (by omega),
      if_pos ⟨by omega, hdash8⟩, if_neg (by omega), if_neg (by omega)]
  · simp only [date?, hyear.digits? hplace0, hdash4, Option.bind_eq_bind, Option.bind_some,
      decide_true, if_true, hmark5, weekDate?, hweek.digits? hplace6, Nat.reduceAdd, Nat.reduceLT,
      hdash8, ne_eq, not_true_eq_false, and_false, if_false, hweekday.digits? hplace9]

/-- `YYYYWwwD`. -/
theorem date?_compactWeek (hyear : DigitRow yearRow 4 year) (hweek : DigitRow weekRow 2 week)
    (hweekday : DigitRow weekdayRow 1 weekday)
    (hb : b = yearRow ++ 0x57 :: (weekRow ++ weekdayRow)) :
    separator? b = some 8 ∧ date? b 8 = Date.ofWeek? year week weekday := by
  have hplace0 : b.drop 0 = yearRow ++ 0x57 :: (weekRow ++ weekdayRow) := hb
  have hplace4 := hyear.drop hplace0
  have hplace5 := drop_succ_of_drop hplace4
  have hplace7 : b.drop 7 = weekdayRow ++ [] := by
    rw [List.append_nil]
    exact hweek.drop hplace5
  have hlength : b.length = 8 := by
    have h4 := hyear.length_eq
    have h2 := hweek.length_eq
    have h1 := hweekday.length_eq
    simp only [hb, List.length_append, List.length_cons]
    omega
  have hmark4 : byteAt b 4 = weekMark := byteAt_of_drop hplace4
  have hnoDash : weekMark ≠ dash := by decide
  have hskip : skipDigits b 7 = 8 := by
    rw [skipDigits_of_drop hweekday.isDigit (fun _ h => by cases h) hplace7, hweekday.length_eq]
  constructor
  · unfold separator?
    simp only [hlength, hmark4, hskip, if_neg hnoDash, if_true, Nat.reduceEqDiff, Nat.reduceLT,
      if_false]
  · simp only [date?, hyear.digits? hplace0, hmark4, hnoDash, Option.bind_eq_bind,
      Option.bind_some, decide_false, Bool.false_eq_true, if_false, if_true, weekDate?,
      hweek.digits? hplace5, Nat.reduceAdd, Nat.reduceLT, false_and, hweekday.digits? hplace7]

end

end FormIntake.Calendar.IsoText
