import FormIntake.Proofs.Calendar.Clock
import FormIntake.Proofs.Text.Blank
/-!
# The spellings of a day

A day can be written by month or by week, with hyphens or without, and by
month with hyphens it can be followed by a time of day after any separator.
All of these read back to the day, in every zone. A week date is read as no
other day than the one it is the week date of.
-/

namespace FormIntake

open Calendar Calendar.IsoText

namespace Date

def compactText (d : Date) : Text :=
  Text.zeroPadded 4 (Text.ofNat d.year) ++ twoDigits d.month ++ twoDigits d.day

def weekText (year week weekday : Nat) : Text :=
  Text.zeroPadded 4 (Text.ofNat year) ++ "-W" ++ twoDigits week ++ "-" ++ Text.ofNat weekday

def compactWeekText (year week weekday : Nat) : Text :=
  Text.zeroPadded 4 (Text.ofNat year) ++ "W" ++ twoDigits week ++ Text.ofNat weekday

/-- The ways to write a day without a time. -/
def spellings (d : Date) : List Text :=
  [d.text, d.compactText, weekText d.isoYear d.isoWeek d.isoWeekday,
    compactWeekText d.isoYear d.isoWeek d.isoWeekday]

end Date

namespace Calendar

open Date

/-! ## Code points -/

def Plain (c : CodePoint) : Prop :=
  c.isBlank = false ∧ c.val < 0x80

instance (c : CodePoint) : Decidable (Plain c) :=
  inferInstanceAs (Decidable (_ ∧ _))

theorem plain_of_isAsciiDigit {c : CodePoint} (h : c.isAsciiDigit = true) : Plain c := by
  simp only [CodePoint.isAsciiDigit, Bool.and_eq_true, decide_eq_true_eq] at h
  simp only [Plain, CodePoint.isBlank, CodePoint.isWhiteSpace, Bool.or_eq_false_iff,
    Bool.and_eq_false_iff, decide_eq_false_iff_not, beq_eq_false_iff_ne]
  omega

theorem hasSurrogate_of_plain {t : Text} (h : ∀ c ∈ t, Plain c) : t.hasSurrogate = false := by
  rw [Text.hasSurrogate_eq_false_iff]
  intro c hc
  have hascii := (h c hc).2
  simp only [CodePoint.isSurrogate, Bool.and_eq_false_iff, decide_eq_false_iff_not]
  omega

theorem length_utf8_of_plain {t : Text} (h : ∀ c ∈ t, Plain c) : t.utf8.length = t.length := by
  induction t with
  | nil => rfl
  | cons c t ih =>
      have hascii : c.utf8 = [c.val.toUInt8] := if_pos (h c List.mem_cons_self).2
      rw [utf8_cons, hascii, List.singleton_append, List.length_cons,
        ih fun d hd => h d (List.mem_cons_of_mem _ hd), List.length_cons]

theorem plain_zeroPadded {n value : Nat} (hpos : 0 < n) (h : value < 10 ^ n) :
    ∀ c ∈ Text.zeroPadded n (Text.ofNat value), Plain c :=
  fun c hc => plain_of_isAsciiDigit ((zeroPadded_spec hpos h).2.1 c hc)

theorem plain_twoDigits {n : Nat} (h : n < 100) : ∀ c ∈ twoDigits n, Plain c :=
  plain_zeroPadded (by decide) h

theorem zeroPadded_one (n : Nat) : Text.zeroPadded 1 (Text.ofNat n) = Text.ofNat n := by
  have hpos : 1 ≤ (Text.ofNat n).length := by
    rw [Text.ofNat, List.length_map]
    exact List.length_pos_of_ne_nil Nat.toDigits_ne_nil
  rw [Text.zeroPadded, Nat.sub_eq_zero_of_le hpos]
  rfl

theorem plain_ofNat {n : Nat} (h : n < 10) : ∀ c ∈ Text.ofNat n, Plain c := by
  rw [← zeroPadded_one]
  exact plain_zeroPadded (by decide) h

theorem plain_ofString {s : String}
    (h : s.toList.all (fun char => decide (Plain (CodePoint.ofChar char))) = true) :
    ∀ c ∈ Text.ofString s, Plain c := by
  intro c hc
  obtain ⟨char, hchar, rfl⟩ := List.mem_map.1 hc
  exact of_decide_eq_true (List.all_eq_true.1 h char hchar)

theorem plain_hyphen : ∀ c ∈ Text.ofString "-", Plain c :=
  plain_ofString (by decide)

theorem plain_colon : ∀ c ∈ Text.ofString ":", Plain c :=
  plain_ofString (by decide)

theorem month_lt (d : Date) : d.month < 100 :=
  Nat.lt_of_le_of_lt d.isDate.month_le (by decide)

theorem day_lt (d : Date) : d.day < 100 := by
  have hday := d.isDate.day_le
  unfold daysInMonth at hday
  split at hday <;> split at hday <;> omega

theorem year_lt (d : Date) : d.year < 10 ^ 4 :=
  Nat.lt_succ_of_le d.isDate.year_le

theorem plain_text (d : Date) : ∀ c ∈ d.text, Plain c := by
  have hyear := plain_zeroPadded (by decide) (year_lt d)
  have hmonth := plain_twoDigits (month_lt d)
  have hday := plain_twoDigits (day_lt d)
  simp only [Date.text, List.forall_mem_append]
  exact ⟨⟨⟨⟨hyear, plain_hyphen⟩, hmonth⟩, plain_hyphen⟩, hday⟩

theorem plain_compactText (d : Date) : ∀ c ∈ d.compactText, Plain c := by
  have hyear := plain_zeroPadded (by decide) (year_lt d)
  simp only [compactText, List.forall_mem_append]
  exact ⟨⟨hyear, plain_twoDigits (month_lt d)⟩, plain_twoDigits (day_lt d)⟩

section

variable {year week weekday : Nat} (hyear : year < 10 ^ 4) (hweek : week < 100)
  (hweekday : weekday < 10)

include hyear hweek hweekday

theorem plain_weekText : ∀ c ∈ weekText year week weekday, Plain c := by
  simp only [weekText, List.forall_mem_append]
  exact ⟨⟨⟨⟨plain_zeroPadded (by decide) hyear, plain_ofString (by decide)⟩, plain_twoDigits hweek⟩,
    plain_hyphen⟩, plain_ofNat hweekday⟩

theorem plain_compactWeekText : ∀ c ∈ compactWeekText year week weekday, Plain c := by
  simp only [compactWeekText, List.forall_mem_append]
  exact ⟨⟨⟨plain_zeroPadded (by decide) hyear, plain_ofString (by decide)⟩, plain_twoDigits hweek⟩,
    plain_ofNat hweekday⟩

end

theorem ClockText.plain {t : Text} {micros : Nat} (h : ClockText t micros) : ∀ c ∈ t, Plain c := by
  have htwo : ∀ {n : Nat}, n ≤ 59 → ∀ c ∈ twoDigits n, Plain c :=
    fun hn => plain_twoDigits (Nat.lt_of_le_of_lt hn (by decide))
  cases h with
  | hours hhours => exact htwo (Nat.le_trans hhours (by decide))
  | minutes hhours hminutes =>
      simp only [List.forall_mem_append]
      exact ⟨⟨htwo (Nat.le_trans hhours (by decide)), plain_colon⟩, htwo hminutes⟩
  | seconds hhours hminutes hseconds =>
      simp only [List.forall_mem_append]
      exact ⟨⟨⟨⟨htwo (Nat.le_trans hhours (by decide)), plain_colon⟩, htwo hminutes⟩,
        plain_colon⟩, htwo hseconds⟩
  | @fraction _ _ _ hhours hminutes hseconds mark hmark _ _ hplaces =>
      have hmarkPlain : Plain (CodePoint.ofChar mark) := by
        rcases hmark with rfl | rfl <;> decide
      simp only [List.forall_mem_append, List.forall_mem_cons]
      exact ⟨⟨⟨⟨⟨htwo (Nat.le_trans hhours (by decide)), plain_colon⟩, htwo hminutes⟩,
        plain_colon⟩, htwo hseconds⟩, hmarkPlain,
        fun c hc => plain_of_isAsciiDigit (hplaces c hc)⟩

theorem OffsetText.plain {t : Text} {offset : Int} (h : OffsetText t offset) :
    ∀ c ∈ t, Plain c := by
  cases h with
  | utc => exact plain_ofString (by decide)
  | east hclock => exact List.forall_mem_cons.2 ⟨by decide, hclock.plain⟩
  | west hclock => exact List.forall_mem_cons.2 ⟨by decide, hclock.plain⟩

/-! ## Lengths -/

theorem length_text (d : Date) : d.text.length = 10 := by
  have hyear := (zeroPadded_spec (by decide) (year_lt d)).1
  have hmonth : (twoDigits d.month).length = 2 := (zeroPadded_spec (by decide) (month_lt d)).1
  have hday : (twoDigits d.day).length = 2 := (zeroPadded_spec (by decide) (day_lt d)).1
  have hhyphen : (Text.ofString "-").length = 1 := rfl
  simp only [Date.text, List.length_append, hyear, hmonth, hday, hhyphen]

theorem length_compactText (d : Date) : d.compactText.length = 8 := by
  have hyear := (zeroPadded_spec (by decide) (year_lt d)).1
  have hmonth : (twoDigits d.month).length = 2 := (zeroPadded_spec (by decide) (month_lt d)).1
  have hday : (twoDigits d.day).length = 2 := (zeroPadded_spec (by decide) (day_lt d)).1
  simp only [compactText, List.length_append, hyear, hmonth, hday]

section

variable {year week weekday : Nat} (hyear : year < 10 ^ 4) (hweek : week < 100)
  (hweekday : weekday < 10)

include hyear hweek hweekday

theorem length_weekTexts :
    (weekText year week weekday).length = 10 ∧ (compactWeekText year week weekday).length = 8 := by
  have hfour := (zeroPadded_spec (by decide) hyear).1
  have htwo : (twoDigits week).length = 2 := (zeroPadded_spec (by decide) hweek).1
  have hone := (zeroPadded_spec (n := 1) (by decide) hweekday).1
  rw [zeroPadded_one] at hone
  have hmarks : (Text.ofString "-W").length = 2 ∧ (Text.ofString "W").length = 1 ∧
      (Text.ofString "-").length = 1 := ⟨rfl, rfl, rfl⟩
  simp only [weekText, compactWeekText, List.length_append, hfour, htwo, hone, hmarks, and_self]

end

/-! ## Encoded dates -/

theorem utf8_text (d : Date) (rest : Bytes) :
    d.text.utf8 ++ rest = Text.utf8 (Text.zeroPadded 4 (Text.ofNat d.year)) ++
      0x2D :: (Text.utf8 (twoDigits d.month) ++ 0x2D :: (Text.utf8 (twoDigits d.day) ++ rest)) := by
  simp only [Date.text, utf8_append, List.append_assoc]
  rfl

theorem length_utf8_text (d : Date) : d.text.utf8.length = 10 := by
  rw [length_utf8_of_plain (plain_text d), length_text]

theorem ofParts?_self (d : Date) : Date.ofParts? d.year d.month d.day = some d := by
  rw [Date.ofParts?, dif_pos d.isDate]

theorem date?_text (d : Date) (rest : Bytes) :
    separator? (d.text.utf8 ++ rest) = some 10 ∧ date? (d.text.utf8 ++ rest) 10 = some d := by
  have hread := date?_dashed (digitRow_zeroPadded (by decide) (year_lt d))
    (digitRow_zeroPadded (by decide) (month_lt d)) (digitRow_zeroPadded (by decide) (day_lt d))
    (utf8_text d rest)
  rwa [ofParts?_self] at hread

theorem date?_compactText (d : Date) :
    separator? d.compactText.utf8 = some 8 ∧ date? d.compactText.utf8 8 = some d := by
  have hread := date?_compact (digitRow_zeroPadded (by decide) (year_lt d))
    (digitRow_zeroPadded (by decide) (month_lt d)) (digitRow_zeroPadded (by decide) (day_lt d))
    (b := d.compactText.utf8) (by simp only [compactText, utf8_append, List.append_assoc]; rfl)
  rwa [ofParts?_self] at hread

section

variable {year week weekday : Nat} (hyear : year < 10 ^ 4) (hweek : week < 100)
  (hweekday : weekday < 10)

theorem digitRow_ofNat {n : Nat} (h : n < 10) : DigitRow (Text.utf8 (Text.ofNat n)) 1 n := by
  rw [← zeroPadded_one]
  exact digitRow_zeroPadded (by decide) h

include hyear hweek hweekday

theorem date?_weekText :
    separator? (weekText year week weekday).utf8 = some 10 ∧
      date? (weekText year week weekday).utf8 10 = Date.ofWeek? year week weekday :=
  date?_dashedWeek (digitRow_zeroPadded (by decide) hyear) (digitRow_zeroPadded (by decide) hweek)
    (digitRow_ofNat hweekday) (by simp only [weekText, utf8_append, List.append_assoc]; rfl)

theorem date?_compactWeekText :
    separator? (compactWeekText year week weekday).utf8 = some 8 ∧
      date? (compactWeekText year week weekday).utf8 8 = Date.ofWeek? year week weekday :=
  date?_compactWeek (digitRow_zeroPadded (by decide) hyear)
    (digitRow_zeroPadded (by decide) hweek) (digitRow_ofNat hweekday)
    (by simp only [compactWeekText, utf8_append, List.append_assoc]; rfl)

end

/-! ## Whole texts -/

theorem replaceSeparator_eq_self {t : Text} (h : t.hasSurrogate = false) :
    replaceSeparator t = t := by
  have hnone : ∀ i ∈ [7, 8, 10], ¬ (t[i]?).any CodePoint.isSurrogate = true := by
    intro i _ hany
    obtain ⟨c, hc, hsurrogate⟩ := (Option.any_eq_true _ _).1 hany
    rw [(Text.hasSurrogate_eq_false_iff t).1 h c (List.mem_of_getElem? hc)] at hsurrogate
    cases hsurrogate
  rw [replaceSeparator, List.find?_eq_none.2 hnone]

/-- After ten code points there may be a surrogate; it is taken for a plain separator. -/
theorem replaceSeparator_append {before rest : Text} (hlength : before.length = 10)
    (hbefore : before.hasSurrogate = false) (hrest : rest.hasSurrogate = false)
    (c : CodePoint) :
    ∃ separator : CodePoint, separator.isSurrogate = false ∧
      replaceSeparator (before ++ c :: rest) = before ++ separator :: rest := by
  by_cases hc : c.isSurrogate = true
  · refine ⟨CodePoint.ofChar 'T', CodePoint.isSurrogate_ofChar 'T', ?_⟩
    have hbefore10 : ∀ i < 10, ((before ++ c :: rest)[i]?).any CodePoint.isSurrogate = false := by
      intro i hi
      rw [List.getElem?_append_left (by omega), List.getElem?_eq_getElem (by omega),
        Option.any_some]
      exact (Text.hasSurrogate_eq_false_iff before).1 hbefore _ (List.getElem_mem _)
    have h10 : (before ++ c :: rest)[10]? = some c := by
      rw [List.getElem?_append_right (by omega), hlength]
      rfl
    have hfound : [7, 8, 10].find? (fun i =>
        ((before ++ c :: rest)[i]?).any CodePoint.isSurrogate) = some 10 := by
      simp only [List.find?_cons, hbefore10 7 (by decide), hbefore10 8 (by decide), h10,
        Option.any_some, hc]
    rw [replaceSeparator, hfound]
    show (before ++ c :: rest).set 10 (CodePoint.ofChar 'T') = _
    rw [List.set_append_right _ _ (by omega), hlength]
    rfl
  · have hplain : Text.hasSurrogate (before ++ c :: rest) = false := by
      rw [Text.hasSurrogate_append, Text.hasSurrogate_cons, hbefore, hrest,
        eq_false_of_ne_true hc]
      rfl
    exact ⟨c, eq_false_of_ne_true hc, replaceSeparator_eq_self hplain⟩

theorem read?_of_plain {t : Text} (h : ∀ c ∈ t, Plain c) (hlong : 7 ≤ t.length)
    (hsep : separator? t.utf8 = some t.length) :
    read? t = (date? t.utf8 t.length).map fun date => ⟨date, 0, none⟩ := by
  have hsurrogate := hasSurrogate_of_plain h
  unfold read?
  rw [if_neg (Nat.not_lt.2 hlong), replaceSeparator_eq_self hsurrogate]
  dsimp only
  rw [if_neg (by rw [hsurrogate]; exact Bool.false_ne_true), hsep]
  simp only [Option.bind_eq_bind, Option.bind_some, length_utf8_of_plain h, if_pos (Nat.le_refl _)]
  cases date? t.utf8 t.length <;> rfl

theorem read?_of_time (d : Date) (separator : CodePoint) {rest : Text}
    (hrest : rest.hasSurrogate = false) {reading : Reading}
    (htime : ∀ (b : Bytes) (i : Nat), b.drop i = rest.utf8 → time? b d i = some reading) :
    read? (d.text ++ separator :: rest) = some reading := by
  have hlength : d.text.length = 10 := length_text d
  obtain ⟨plain, hplain, hreplaced⟩ :=
    replaceSeparator_append hlength d.hasSurrogate_text hrest separator
  have hsurrogate : Text.hasSurrogate (d.text ++ plain :: rest) = false := by
    rw [Text.hasSurrogate_append, Text.hasSurrogate_cons, d.hasSurrogate_text, hplain, hrest]
    rfl
  obtain ⟨first, others, hutf8, hwidth⟩ := exists_utf8 plain
  have hbytes : Text.utf8 (d.text ++ plain :: rest) =
      d.text.utf8 ++ first :: (others ++ rest.utf8) := by
    rw [utf8_append, utf8_cons, hutf8, List.cons_append]
  have hseparator : (d.text.utf8 ++ first :: (others ++ rest.utf8)).drop 10 =
      first :: (others ++ rest.utf8) :=
    List.drop_left' (length_utf8_text d)
  have htimePlace : (d.text.utf8 ++ first :: (others ++ rest.utf8)).drop
      (10 + width first.toNat) = rest.utf8 := by
    rw [hwidth, Nat.add_comm others.length, ← Nat.add_assoc]
    exact drop_of_drop (drop_succ_of_drop hseparator)
  obtain ⟨hsep, hdate⟩ := date?_text d (first :: (others ++ rest.utf8))
  have hmore : ¬ (d.text.utf8 ++ first :: (others ++ rest.utf8)).length ≤ 10 := by
    rw [List.length_append, length_utf8_text, List.length_cons]
    omega
  unfold read?
  rw [if_neg (by rw [List.length_append, hlength]; omega), hreplaced]
  dsimp only
  rw [if_neg (by rw [hsurrogate]; exact Bool.false_ne_true), hbytes, hsep]
  simp only [Option.bind_eq_bind, Option.bind_some, hdate, if_neg hmore,
    byteAt_of_drop hseparator]
  exact htime _ _ htimePlace

/-! ## Padding -/

theorem strip_of_plain {before core after : Text} (hbefore : before.isBlank = true)
    (hafter : after.isBlank = true) (hcore : ∀ c ∈ core, Plain c) :
    Text.strip (before ++ core ++ after) = core :=
  Text.trim_padded (List.all_eq_true.1 hbefore) (fun c hc => (hcore c hc).1)
    (List.all_eq_true.1 hafter)

/-- A text that begins and ends with plain text is framed by no padding of its own. -/
theorem strip_of_plain_ends {before first last after : Text} (middle : Text)
    (hbefore : before.isBlank = true) (hafter : after.isBlank = true) (hfirst : first ≠ [])
    (hlast : last ≠ []) (hplainFirst : ∀ c ∈ first, Plain c) (hplainLast : ∀ c ∈ last, Plain c) :
    Text.strip (before ++ (first ++ middle ++ last) ++ after) = first ++ middle ++ last := by
  apply Text.trim_padded_of_ends (List.all_eq_true.1 hbefore) (List.all_eq_true.1 hafter)
  · intro c hc
    rw [List.append_assoc, List.head?_append_of_ne_nil _ hfirst] at hc
    exact (hplainFirst c (List.mem_of_mem_head? hc)).1
  · intro c hc
    rw [List.getLast?_append_of_ne_nil _ hlast] at hc
    exact (hplainLast c (List.mem_of_getLast? hc)).1

/-! ## Reading back -/

theorem readDay?_of_plain (zone : Int) {before t after : Text} (hbefore : before.isBlank = true)
    (hafter : after.isBlank = true) (h : ∀ c ∈ t, Plain c) (hlong : 7 ≤ t.length)
    (hsep : separator? t.utf8 = some t.length) :
    readDay? zone (before ++ t ++ after) = date? t.utf8 t.length := by
  rw [readDay?, strip_of_plain hbefore hafter h, read?_of_plain h hlong hsep]
  cases date? t.utf8 t.length <;> rfl

theorem readDay?_of_time (zone : Int) {before after : Text} (hbefore : before.isBlank = true)
    (hafter : after.isBlank = true) (d : Date) (separator : CodePoint) {rest : Text}
    (hne : rest ≠ []) (hplain : ∀ c ∈ rest, Plain c) {reading : Reading}
    (htime : ∀ (b : Bytes) (i : Nat), b.drop i = rest.utf8 → time? b d i = some reading) :
    readDay? zone (before ++ (d.text ++ separator :: rest) ++ after) = reading.localDay? zone := by
  have hfirst : d.text ≠ [] := by
    rw [← List.length_pos_iff, length_text]
    decide
  have hsplit : d.text ++ separator :: rest = d.text ++ [separator] ++ rest := by
    rw [List.append_assoc, List.singleton_append]
  rw [readDay?, hsplit,
    strip_of_plain_ends [separator] hbefore hafter hfirst hne (plain_text d) hplain, ← hsplit,
    read?_of_time d separator (hasSurrogate_of_plain hplain) htime, Option.bind_some]

theorem ClockText.ne_nil {t : Text} {micros : Nat} (h : ClockText t micros) : t ≠ [] := by
  rintro rfl
  have hlength := (utf8_of_clockText h).1
  cases hlength

section

variable (zone : Int) {before after : Text} (hbefore : before.isBlank = true)
  (hafter : after.isBlank = true)

include hbefore hafter

theorem readDay?_text (d : Date) : readDay? zone (before ++ d.text ++ after) = some d := by
  have hread := date?_text d []
  rw [List.append_nil, ← length_text d] at hread
  rw [readDay?_of_plain zone hbefore hafter (plain_text d) (by rw [length_text]; decide) hread.1,
    hread.2]

theorem readDay?_compactText (d : Date) :
    readDay? zone (before ++ d.compactText ++ after) = some d := by
  have hread := date?_compactText d
  rw [← length_compactText d] at hread
  rw [readDay?_of_plain zone hbefore hafter (plain_compactText d)
    (by rw [length_compactText]; decide) hread.1, hread.2]

theorem readDay?_weekTexts {year week weekday : Nat} (hyear : year < 10 ^ 4) (hweek : week < 100)
    (hweekday : weekday < 10) :
    readDay? zone (before ++ weekText year week weekday ++ after) =
        Date.ofWeek? year week weekday ∧
      readDay? zone (before ++ compactWeekText year week weekday ++ after) =
        Date.ofWeek? year week weekday := by
  obtain ⟨hlength, hlength'⟩ := length_weekTexts hyear hweek hweekday
  have hread := date?_weekText hyear hweek hweekday
  have hread' := date?_compactWeekText hyear hweek hweekday
  rw [← hlength] at hread
  rw [← hlength'] at hread'
  constructor
  · rw [readDay?_of_plain zone hbefore hafter (plain_weekText hyear hweek hweekday)
      (by rw [hlength]; decide) hread.1, hread.2]
  · rw [readDay?_of_plain zone hbefore hafter (plain_compactWeekText hyear hweek hweekday)
      (by rw [hlength']; decide) hread'.1, hread'.2]

end

theorem isWeekDate_bounds {year week weekday : Nat} (h : IsWeekDate year week weekday) :
    year < 10 ^ 4 ∧ week < 100 ∧ weekday < 10 := by
  obtain ⟨⟨-, hyear⟩, ⟨-, hweek, -⟩, -, hweekday⟩ := h
  exact ⟨Nat.lt_succ_of_le hyear, by omega, by omega⟩

/-- Every spelling of a day is read as the day, padding and a time of day make no difference, and
a week date is read exactly if there is such a day, as that day. -/
theorem day_reads_back (zone : Int) {before after : Text} (hbefore : before.isBlank = true)
    (hafter : after.isBlank = true) :
    (∀ d : Date, ∀ t ∈ d.spellings, readDay? zone (before ++ t ++ after) = some d) ∧
    (∀ (d : Date) (separator : CodePoint) (t : Text) (micros : Nat), ClockText t micros →
      readDay? zone (before ++ (d.text ++ separator :: t) ++ after) = some d) ∧
    ∀ year week weekday : Nat, year < 10 ^ 4 → week < 100 → weekday < 10 →
      (∀ d, readDay? zone (before ++ weekText year week weekday ++ after) = some d ↔
        d.isoYear = year ∧ d.isoWeek = week ∧ d.isoWeekday = weekday) ∧
      ((∃ d, readDay? zone (before ++ weekText year week weekday ++ after) = some d) ↔
        IsWeekDate year week weekday ∧ ¬ (year = 9999 ∧ week = 52 ∧ 5 < weekday)) := by
  refine ⟨?_, ?_, ?_⟩
  · intro d t ht
    obtain ⟨hyear, hweek, hweekday⟩ := isWeekDate_bounds d.isWeekDate
    have hself := ofWeek?_eq_some_iff.2 ⟨(rfl : d.isoYear = d.isoYear), rfl, rfl⟩
    obtain ⟨hdashed, hcompact⟩ :=
      readDay?_weekTexts zone hbefore hafter hyear hweek hweekday
    simp only [spellings, List.mem_cons, List.not_mem_nil, or_false] at ht
    rcases ht with rfl | rfl | rfl | rfl
    · exact readDay?_text zone hbefore hafter d
    · exact readDay?_compactText zone hbefore hafter d
    · exact hdashed.trans hself
    · exact hcompact.trans hself
  · intro d separator t micros hclock
    exact readDay?_of_time zone hbefore hafter d separator hclock.ne_nil hclock.plain
      fun b i hb => time?_of_clockText hclock hb d
  · intro year week weekday hyear hweek hweekday
    rw [(readDay?_weekTexts zone hbefore hafter hyear hweek hweekday).1]
    exact ⟨fun d => ofWeek?_eq_some_iff, exists_ofWeek?_iff⟩

def yearEnd : Date :=
  ⟨2020, 12, 31, by decide⟩

/-- A lone surrogate divides the day from a time just before midnight. -/
theorem year_end_reads_back :
    Text.isBlank "\t" = true ∧ Text.isBlank "\n " = true ∧
      Text.ofString "2020W534" ∈ yearEnd.spellings ∧
      readDay? 330 (Text.ofString "\t" ++ "2020W534" ++ "\n ") = some yearEnd ∧
      ClockText "23:59:59,9" (dayMicros 23 59 59 900000) ∧
      readDay? 330 (Text.ofString "\t" ++
        (yearEnd.text ++ CodePoint.ofNat 0xD800 :: Text.ofString "23:59:59,9") ++ "\n ") =
          some yearEnd ∧
      ¬ IsWeekDate 2019 53 1 ∧
      ¬ ∃ d, readDay? 330 (Text.ofString "\t" ++ weekText 2019 53 1 ++ "\n ") = some d := by
  have hbefore : Text.isBlank "\t" = true := by decide +kernel
  have hafter : Text.isBlank "\n " = true := by decide +kernel
  have hspelling : Text.ofString "2020W534" ∈ yearEnd.spellings := by decide +kernel
  have hclock : ClockText "23:59:59,9" (dayMicros 23 59 59 900000) :=
    @ClockText.fraction 23 59 59 (by decide) (by decide) (by decide) ',' (Or.inr rfl) _
      (List.cons_ne_nil (CodePoint.ofChar '9') []) (List.forall_mem_singleton.2 rfl)
  have hweek : ¬ IsWeekDate 2019 53 1 := fun h => absurd (h.2.1.2.2 rfl) (by decide)
  have hback := day_reads_back 330 hbefore hafter
  refine ⟨hbefore, hafter, hspelling, hback.1 yearEnd _ hspelling, hclock,
    hback.2.1 yearEnd _ _ _ hclock, hweek, ?_⟩
  rw [(hback.2.2 2019 53 1 (by decide) (by decide) (by decide)).2]
  exact fun h => hweek h.1

end Calendar

end FormIntake
