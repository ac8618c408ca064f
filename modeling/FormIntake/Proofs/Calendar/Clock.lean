import FormIntake.Proofs.Calendar.Places
/-!
# Times of day

How a time of day is written, said without the reader, and that the reader
finds it wherever it stands in a text. Offsets from UTC are written as times
of day with a sign.
-/

namespace FormIntake.Calendar

open Date IsoText

/-- The first six places of a fraction of a second, filled up with zeros. -/
def fractionMicros (places : Text) : Nat :=
  Numeral.value 10 (((places.map figure) ++ List.replicate 6 0).take 6)

def dayMicros (hours minutes seconds fraction : Nat) : Nat :=
  (hours * 3600 + minutes * 60 + seconds) * 1000000 + fraction

/-- The ways to write a time of day, each with the microseconds after midnight. -/
inductive ClockText : Text → Nat → Prop
  | hours {hours : Nat} (hhours : hours ≤ 23) :
      ClockText (twoDigits hours) (dayMicros hours 0 0 0)
  | minutes {hours minutes : Nat} (hhours : hours ≤ 23) (hminutes : minutes ≤ 59) :
      ClockText (twoDigits hours ++ ":" ++ twoDigits minutes) (dayMicros hours minutes 0 0)
  | seconds {hours minutes seconds : Nat} (hhours : hours ≤ 23) (hminutes : minutes ≤ 59)
      (hseconds : seconds ≤ 59) :
      ClockText (twoDigits hours ++ ":" ++ twoDigits minutes ++ ":" ++ twoDigits seconds)
        (dayMicros hours minutes seconds 0)
  | fraction {hours minutes seconds : Nat} (hhours : hours ≤ 23) (hminutes : minutes ≤ 59)
      (hseconds : seconds ≤ 59) {mark : Char} (hmark : mark = '.' ∨ mark = ',') {places : Text}
      (hne : places ≠ []) (hplaces : ∀ c ∈ places, c.isAsciiDigit = true) :
      ClockText (twoDigits hours ++ ":" ++ twoDigits minutes ++ ":" ++ twoDigits seconds ++
          CodePoint.ofChar mark :: places)
        (dayMicros hours minutes seconds (fractionMicros places))

namespace IsoText

variable {b rest : Bytes} {i : Nat}

/-! ## The parts of a clock time -/

theorem afterPart_end (b : Bytes) (i : Nat) (colons : Bool) :
    afterPart b i i colons = .done (byteAt b i != 0) := by
  unfold afterPart
  rw [if_pos (Nat.le_succ i)]

theorem afterPart_colon (stop : Nat) (hi : i + 1 < stop) (hcolon : byteAt b i = colon) :
    afterPart b i stop true = .next (i + 1) := by
  unfold afterPart
  rw [if_neg (by omega), if_pos ⟨rfl, hcolon⟩]

theorem afterPart_fraction (stop : Nat) (hi : i + 1 < stop)
    (hmark : byteAt b i = 0x2E ∨ byteAt b i = 0x2C) (colons : Bool) :
    afterPart b i stop colons = .fraction (i + 1) := by
  have hcolon : ¬ (colons = true ∧ byteAt b i = colon) := by
    unfold colon
    omega
  unfold afterPart
  rw [if_neg (by omega), if_neg hcolon, if_pos hmark]

theorem fraction?_of_drop {places : Bytes}
    (hplaces : ∀ byte ∈ places, isDigit byte.toNat = true)
    (hrest : ∀ byte ∈ rest.head?, isDigit byte.toNat = false) (hb : b.drop i = places ++ rest)
    (hours minutes seconds : Nat) :
    fraction? b i (i + places.length) hours minutes seconds =
      some ⟨hours, minutes, seconds,
        Numeral.value 10 ((places.take 6).map fun byte => byte.toNat - 0x30) *
          Nat.pow 10 (6 - places.length),
        byteAt b (i + places.length) != 0⟩ := by
  have hcount : min 6 (i + places.length - i) = (places.take 6).length := by
    rw [Nat.add_sub_cancel_left, List.length_take]
  have hsplit : b.drop i = places.take 6 ++ (places.drop 6 ++ rest) := by
    rw [← List.append_assoc, List.take_append_drop, hb]
  have htaken := digits?_of_isDigit (fun d hd => hplaces d (List.mem_of_mem_take hd)) hsplit
  have hskip := skipDigits_of_drop (fun d hd => hplaces d (List.mem_of_mem_drop hd)) hrest
    (drop_of_drop hsplit)
  have hend : i + (places.take 6).length + (places.drop 6).length = i + places.length := by
    rw [List.length_take, List.length_drop]
    omega
  have hzeros : 6 - (places.take 6).length = 6 - places.length := by
    rw [List.length_take]
    omega
  simp only [fraction?, hcount, htaken, Option.bind_eq_bind, Option.bind_some, hskip, hend, hzeros]
  rfl

section

variable {hoursRow minutesRow secondsRow placesRow : Bytes} {hours minutes seconds : Nat}
  (hhours : DigitRow hoursRow 2 hours) (hminutes : DigitRow minutesRow 2 minutes)
  (hseconds : DigitRow secondsRow 2 seconds)

include hhours

theorem clock?_hours (hb : b.drop i = hoursRow ++ rest) :
    clock? b i (i + 2) = some ⟨hours, 0, 0, 0, byteAt b (i + 2) != 0⟩ := by
  simp only [clock?, hhours.digits? hb, Option.bind_eq_bind, Option.bind_some, afterPart_end]
  rfl

include hminutes

theorem clock?_minutes (hb : b.drop i = hoursRow ++ 0x3A :: (minutesRow ++ rest)) :
    clock? b i (i + 5) = some ⟨hours, minutes, 0, 0, byteAt b (i + 5) != 0⟩ := by
  have hcolon := hhours.drop hb
  have hrow := drop_succ_of_drop hcolon
  have hmark : byteAt b (i + 2) = colon := byteAt_of_drop hcolon
  have hstop : i + 2 + 1 + 2 = i + 5 := by omega
  simp only [clock?, hhours.digits? hb, Option.bind_eq_bind, Option.bind_some, hmark,
    decide_true, afterPart_colon (i + 5) (by omega) hmark, hminutes.digits? hrow, hstop,
    afterPart_end]
  rfl

include hseconds

theorem clock?_seconds
    (hb : b.drop i = hoursRow ++ 0x3A :: (minutesRow ++ 0x3A :: (secondsRow ++ rest))) :
    clock? b i (i + 8) = some ⟨hours, minutes, seconds, 0, byteAt b (i + 8) != 0⟩ := by
  have hcolon := hhours.drop hb
  have hrow := drop_succ_of_drop hcolon
  have hmark : byteAt b (i + 2) = colon := byteAt_of_drop hcolon
  have hcolon' := hminutes.drop hrow
  have hrow' := drop_succ_of_drop hcolon'
  have hmark' : byteAt b (i + 2 + 1 + 2) = colon := byteAt_of_drop hcolon'
  have hstop : i + 2 + 1 + 2 + 1 + 2 = i + 8 := by omega
  simp only [clock?, hhours.digits? hb, Option.bind_eq_bind, Option.bind_some, hmark,
    decide_true, afterPart_colon (i + 8) (by omega) hmark, hminutes.digits? hrow,
    afterPart_colon (i + 8) (by omega) hmark', hseconds.digits? hrow', hstop,
    afterPart_end]
  rfl

theorem clock?_fraction {mark : Byte} (hmark : mark.toNat = 0x2E ∨ mark.toNat = 0x2C)
    (hne : placesRow ≠ []) (hplaces : ∀ byte ∈ placesRow, isDigit byte.toNat = true)
    (hrest : ∀ byte ∈ rest.head?, isDigit byte.toNat = false)
    (hb : b.drop i = hoursRow ++ 0x3A :: (minutesRow ++ 0x3A ::
      (secondsRow ++ mark :: (placesRow ++ rest)))) :
    clock? b i (i + (9 + placesRow.length)) =
      some ⟨hours, minutes, seconds,
        Numeral.value 10 ((placesRow.take 6).map fun byte => byte.toNat - 0x30) *
          Nat.pow 10 (6 - placesRow.length),
        byteAt b (i + (9 + placesRow.length)) != 0⟩ := by
  have hlong : 0 < placesRow.length := List.length_pos_of_ne_nil hne
  have hcolon := hhours.drop hb
  have hrow := drop_succ_of_drop hcolon
  have hmark1 : byteAt b (i + 2) = colon := byteAt_of_drop hcolon
  have hcolon' := hminutes.drop hrow
  have hrow' := drop_succ_of_drop hcolon'
  have hmark2 : byteAt b (i + 2 + 1 + 2) = colon := byteAt_of_drop hcolon'
  have hpoint := hseconds.drop hrow'
  have hfirst := drop_succ_of_drop hpoint
  have hmark3 := hmark
  rw [← byteAt_of_drop hpoint] at hmark3
  have hstart : i + 2 + 1 + 2 + 1 + 2 + 1 = i + 9 := by omega
  rw [hstart] at hfirst
  simp only [clock?, hhours.digits? hb, Option.bind_eq_bind, Option.bind_some, hmark1,
    decide_true, afterPart_colon (i + (9 + placesRow.length)) (by omega) hmark1,
    hminutes.digits? hrow,
    afterPart_colon (i + (9 + placesRow.length)) (by omega) hmark2,
    hseconds.digits? hrow',
    afterPart_fraction (i + (9 + placesRow.length)) (by omega) hmark3, hstart]
  rw [← Nat.add_assoc]
  exact fraction?_of_drop hplaces hrest hfirst hours minutes seconds

end

/-! ## Clock texts -/

theorem digitRow_twoDigits {n : Nat} (h : n ≤ 59) : DigitRow (Text.utf8 (twoDigits n)) 2 n :=
  digitRow_zeroPadded (by decide) (by omega)

theorem fractionMicros_eq (places : Text) :
    fractionMicros places =
      Numeral.value 10 ((places.map figure).take 6) * Nat.pow 10 (6 - places.length) := by
  rw [fractionMicros, List.take_append, List.length_map, List.take_replicate,
    Nat.min_eq_left (Nat.sub_le 6 _), Numeral.value_append, Numeral.value_replicate_zero,
    List.length_replicate, Nat.add_zero]
  rfl

theorem utf8_colon (t u : Text) : Text.utf8 (t ++ ":" ++ u) = t.utf8 ++ 0x3A :: u.utf8 := by
  rw [utf8_append, utf8_append, List.append_assoc]
  rfl

theorem utf8_fraction {mark : Char} (hmark : mark = '.' ∨ mark = ',') (places : Text) :
    ∃ byte, Text.utf8 (CodePoint.ofChar mark :: places) = byte :: places.utf8 ∧
      (byte.toNat = 0x2E ∨ byte.toNat = 0x2C) := by
  rcases hmark with rfl | rfl
  · exact ⟨0x2E, rfl, Or.inl rfl⟩
  · exact ⟨0x2C, rfl, Or.inr rfl⟩

def FindsClock (b : Bytes) (i stop micros : Nat) : Prop :=
  ∃ c, clock? b i stop = some c ∧ c.ofDay? = some micros ∧ c.total = micros ∧
    c.more = (byteAt b stop != 0)

theorem findsClock {stop hours minutes seconds fraction : Nat}
    (h : clock? b i stop = some ⟨hours, minutes, seconds, fraction, byteAt b stop != 0⟩)
    (hhours : hours ≤ 23) (hminutes : minutes ≤ 59) (hseconds : seconds ≤ 59) :
    FindsClock b i stop (dayMicros hours minutes seconds fraction) :=
  ⟨_, h, if_pos ⟨hhours, hminutes, hseconds⟩, rfl, rfl⟩

theorem findsClock_of_clockText {t : Text} {micros : Nat} (h : ClockText t micros)
    (hrest : ∀ byte ∈ rest.head?, isDigit byte.toNat = false) (hb : b.drop i = t.utf8 ++ rest) :
    FindsClock b i (i + t.utf8.length) micros := by
  cases h with
  | @hours hours hhours =>
      have hrow := digitRow_twoDigits (n := hours) (by omega)
      rw [hrow.length_eq]
      exact findsClock (clock?_hours hrow hb) hhours (Nat.zero_le _) (Nat.zero_le _)
  | @minutes hours minutes hhours hminutes =>
      have hrow := digitRow_twoDigits (n := hours) (by omega)
      have hrow' := digitRow_twoDigits hminutes
      rw [utf8_colon] at hb ⊢
      rw [List.append_assoc, List.cons_append] at hb
      rw [List.length_append, List.length_cons, hrow.length_eq, hrow'.length_eq]
      exact findsClock (clock?_minutes hrow hrow' hb) hhours hminutes (Nat.zero_le _)
  | @seconds hours minutes seconds hhours hminutes hseconds =>
      have hrow := digitRow_twoDigits (n := hours) (by omega)
      have hrow' := digitRow_twoDigits hminutes
      have hrow'' := digitRow_twoDigits hseconds
      rw [utf8_colon, utf8_colon] at hb ⊢
      simp only [List.append_assoc, List.cons_append] at hb
      simp only [List.length_append, List.length_cons, hrow.length_eq, hrow'.length_eq,
        hrow''.length_eq]
      exact findsClock (clock?_seconds hrow hrow' hrow'' hb) hhours hminutes hseconds
  | @fraction hours minutes seconds hhours hminutes hseconds mark hmark places hne hplaces =>
      have hrow := digitRow_twoDigits (n := hours) (by omega)
      have hrow' := digitRow_twoDigits hminutes
      have hrow'' := digitRow_twoDigits hseconds
      have hfraction := digitRow_utf8 hplaces
      obtain ⟨byte, hbyte, hbyteMark⟩ := utf8_fraction hmark places
      have hnePlaces : places.utf8 ≠ [] := by
        rw [← List.length_pos_iff, hfraction.length_eq]
        exact List.length_pos_of_ne_nil hne
      rw [utf8_append, utf8_colon, utf8_colon, hbyte] at hb ⊢
      simp only [List.append_assoc, List.cons_append] at hb
      have hread := clock?_fraction hrow hrow' hrow'' hbyteMark hnePlaces hfraction.isDigit hrest hb
      rw [List.map_take, map_utf8_of_digits hplaces, hfraction.length_eq, ← fractionMicros_eq]
        at hread
      simp only [List.length_append, List.length_cons, hrow.length_eq, hrow'.length_eq,
        hrow''.length_eq, hfraction.length_eq]
      have hlength : 2 + (2 + 1) + (2 + 1) + (places.length + 1) = 9 + places.length := by omega
      rw [hlength]
      exact findsClock hread hhours hminutes hseconds

theorem DigitRow.unmarked {run : Bytes} {n value : Nat} (hrow : DigitRow run n value) :
    ∀ byte ∈ run, isOffsetMark byte.toNat = false :=
  fun byte hbyte => (ne_of_isDigit (hrow.isDigit byte hbyte)).2.2.2

/-- A clock text takes two bytes at least, and none of them could begin an offset. -/
theorem utf8_of_clockText {t : Text} {micros : Nat} (h : ClockText t micros) :
    2 ≤ t.utf8.length ∧ ∀ byte ∈ t.utf8, isOffsetMark byte.toNat = false := by
  have htwo : ∀ {n : Nat}, n ≤ 59 → (Text.utf8 (twoDigits n)).length = 2 ∧
      ∀ byte ∈ Text.utf8 (twoDigits n), isOffsetMark byte.toNat = false :=
    fun hn => ⟨(digitRow_twoDigits hn).length_eq, (digitRow_twoDigits hn).unmarked⟩
  have hcolon : isOffsetMark (0x3A : Byte).toNat = false := rfl
  cases h with
  | hours hhours =>
      have hrow := htwo (Nat.le_trans hhours (by decide))
      exact ⟨hrow.1.ge, hrow.2⟩
  | minutes hhours hminutes =>
      have hrow := htwo (Nat.le_trans hhours (by decide))
      rw [utf8_colon, List.length_append, hrow.1, List.forall_mem_append, List.forall_mem_cons]
      exact ⟨Nat.le_add_right 2 _, hrow.2, hcolon, (htwo hminutes).2⟩
  | seconds hhours hminutes hseconds =>
      have hrow := htwo (Nat.le_trans hhours (by decide))
      rw [utf8_colon, utf8_colon]
      simp only [List.append_assoc, List.cons_append, List.length_append, hrow.1,
        List.forall_mem_append, List.forall_mem_cons]
      exact ⟨Nat.le_add_right 2 _, hrow.2, hcolon, (htwo hminutes).2, hcolon, (htwo hseconds).2⟩
  | @fraction _ _ _ hhours hminutes hseconds mark hmark places _ hplaces =>
      have hrow := htwo (Nat.le_trans hhours (by decide))
      obtain ⟨byte, hbyte, hvalue⟩ := utf8_fraction hmark places
      have hbyteMark : isOffsetMark byte.toNat = false := by
        rcases hvalue with heq | heq <;> rw [heq] <;> rfl
      rw [utf8_append, utf8_colon, utf8_colon, hbyte]
      simp only [List.append_assoc, List.cons_append, List.length_append, hrow.1,
        List.forall_mem_append, List.forall_mem_cons]
      exact ⟨Nat.le_add_right 2 _, hrow.2, hcolon, (htwo hminutes).2, hcolon, (htwo hseconds).2,
        hbyteMark, (digitRow_utf8 hplaces).unmarked⟩

/-! ## The time after a separator -/

theorem offsetMark?_of_unmarked (h : ∀ byte ∈ b.drop i, isOffsetMark byte.toNat = false) :
    offsetMark? b i = none := by
  rw [offsetMark?, List.findIdx?_eq_none_iff.2 h, Option.map_none]

theorem offsetMark?_of_drop {run : Bytes} {mark : Byte}
    (hrun : ∀ byte ∈ run, isOffsetMark byte.toNat = false)
    (hmark : isOffsetMark mark.toNat = true) (hb : b.drop i = run ++ mark :: rest) :
    offsetMark? b i = some (i + run.length) := by
  rw [offsetMark?, hb, List.findIdx?_append, List.findIdx?_eq_none_iff.2 hrun, Option.none_or,
    List.findIdx?_cons, if_pos hmark, Option.map_some, Option.map_some, Nat.zero_add]

theorem time?_of_clockText {t : Text} {micros : Nat} (h : ClockText t micros)
    (hb : b.drop i = t.utf8) (date : Date) : time? b date i = some ⟨date, micros, none⟩ := by
  obtain ⟨hlength, hunmarked⟩ := utf8_of_clockText h
  have hplace : b.drop i = t.utf8 ++ [] := by rw [List.append_nil, hb]
  have hend : b.length = i + t.utf8.length := by
    have hdrop := congrArg List.length hb
    rw [List.length_drop] at hdrop
    omega
  obtain ⟨c, hread, hday, -, hmore⟩ :=
    findsClock_of_clockText h (fun _ hbyte => by cases hbyte) hplace
  have hstop : max b.length (i + 1) = i + t.utf8.length := by omega
  have hnothing : byteAt b (i + t.utf8.length) = 0 := byteAt_of_drop_nil (drop_of_drop hplace)
  rw [hnothing] at hmore
  simp only [time?, offsetMark?_of_unmarked (hb ▸ hunmarked), hstop, hread, hday, hmore,
    Option.bind_eq_bind, Option.bind_some]
  rfl

/-! ## Offsets -/

end IsoText

theorem fractionMicros_lt {places : Text} (h : ∀ c ∈ places, c.isAsciiDigit = true) :
    fractionMicros places < 1000000 := by
  have hten : ∀ d ∈ (places.map figure ++ List.replicate 6 0).take 6, d < 10 := by
    intro d hd
    rcases List.mem_append.1 (List.mem_of_mem_take hd) with hd | hd
    · obtain ⟨c, hc, rfl⟩ := List.mem_map.1 hd
      have hdigit := h c hc
      simp only [CodePoint.isAsciiDigit, Bool.and_eq_true, decide_eq_true_eq] at hdigit
      unfold figure
      omega
    · rw [List.eq_of_mem_replicate hd]
      decide
  have hlength : ((places.map figure ++ List.replicate 6 0).take 6).length = 6 := by
    rw [List.length_take, List.length_append, List.length_replicate]
    omega
  have hlt := Numeral.value_lt (by decide : 1 < 10) hten
  rwa [hlength] at hlt

theorem ClockText.lt_day {t : Text} {micros : Nat} (h : ClockText t micros) :
    micros < 86400000000 := by
  cases h with
  | hours _ | minutes _ _ | seconds _ _ _ =>
      unfold dayMicros
      omega
  | fraction hhours hminutes hseconds _ _ hplaces =>
      have hfraction := fractionMicros_lt hplaces
      unfold dayMicros
      omega

/-- An offset from UTC as it is written, in microseconds: a sign and a time of day, or `Z`. -/
inductive OffsetText : Text → Int → Prop
  | utc : OffsetText "Z" 0
  | east {t : Text} {micros : Nat} (h : ClockText t micros) :
      OffsetText (CodePoint.ofChar '+' :: t) (IsoText.distance micros)
  | west {t : Text} {micros : Nat} (h : ClockText t micros) :
      OffsetText (CodePoint.ofChar '-' :: t) (-(IsoText.distance micros : Int))

namespace IsoText

theorem offset?_of_sign {t : Text} {micros : Nat} (h : ClockText t micros) {sign : Byte}
    (hsign : byteAt b i ≠ 0x5A) (hb : b.drop i = sign :: t.utf8) :
    offset? b i =
      some (if byteAt b i = dash then -(distance micros : Int) else distance micros) := by
  have hplace : b.drop (i + 1) = t.utf8 ++ [] := by
    rw [List.append_nil]
    exact drop_succ_of_drop hb
  have hlength : b.length = i + 1 + t.utf8.length := by
    have hdrop := congrArg List.length hplace
    have hpos := (utf8_of_clockText h).1
    rw [List.length_drop, List.append_nil] at hdrop
    omega
  obtain ⟨c, hread, -, htotal, hmore⟩ :=
    findsClock_of_clockText h (fun _ hbyte => by cases hbyte) hplace
  have hnothing : byteAt b (i + 1 + t.utf8.length) = 0 := byteAt_of_drop_nil (drop_of_drop hplace)
  rw [hnothing] at hmore
  have hrange : ¬ (c.more = true ∨ 86400000000 ≤ c.total) := by
    have hlt := h.lt_day
    rw [hmore, htotal]
    rintro (hmore | hle)
    · cases hmore
    · omega
  rw [offset?, if_neg hsign, hlength, hread, Option.bind_eq_bind, Option.bind_some,
    if_neg hrange, htotal]

theorem offset?_of_offsetText {t : Text} {offset : Int} (h : OffsetText t offset)
    (hb : b.drop i = t.utf8) : offset? b i = some offset := by
  cases h with
  | utc =>
      have hplace : b.drop i = 0x5A :: [] := hb
      have hmark : byteAt b i = 0x5A := byteAt_of_drop hplace
      have hend : byteAt b (i + 1) = 0 := byteAt_of_drop_nil (drop_succ_of_drop hplace)
      rw [offset?, if_pos hmark, if_pos hend]
  | @east t micros hclock =>
      have hplace : b.drop i = 0x2B :: t.utf8 := hb
      have hsign : byteAt b i = 0x2B := byteAt_of_drop hplace
      rw [offset?_of_sign hclock (by rw [hsign]; decide) hplace, hsign]
      rfl
  | @west t micros hclock =>
      have hplace : b.drop i = 0x2D :: t.utf8 := hb
      have hsign : byteAt b i = 0x2D := byteAt_of_drop hplace
      rw [offset?_of_sign hclock (by rw [hsign]; decide) hplace, hsign]
      rfl

theorem utf8_of_offsetText {t : Text} {offset : Int} (h : OffsetText t offset) :
    ∃ mark others, t.utf8 = mark :: others ∧ isOffsetMark mark.toNat = true ∧
      isDigit mark.toNat = false := by
  cases h with
  | utc => exact ⟨0x5A, [], rfl, rfl, rfl⟩
  | @east t _ _ => exact ⟨0x2B, t.utf8, rfl, rfl, rfl⟩
  | @west t _ _ => exact ⟨0x2D, t.utf8, rfl, rfl, rfl⟩

theorem time?_of_offsetText {t u : Text} {micros : Nat} {offset : Int} (h : ClockText t micros)
    (hoffset : OffsetText u offset) (hb : b.drop i = t.utf8 ++ u.utf8) (date : Date) :
    time? b date i = some ⟨date, micros, some offset⟩ := by
  obtain ⟨mark, others, hmark, hisMark, hnotDigit⟩ := utf8_of_offsetText hoffset
  have hplace : b.drop i = t.utf8 ++ mark :: others := by rw [hb, hmark]
  have hstop : ∀ byte ∈ (u.utf8).head?, isDigit byte.toNat = false := by
    intro byte hbyte
    rw [hmark] at hbyte
    rw [← Option.some.inj hbyte]
    exact hnotDigit
  obtain ⟨c, hread, hday, -, -⟩ := findsClock_of_clockText h hstop hb
  simp only [time?, offsetMark?_of_drop (utf8_of_clockText h).2 hisMark hplace, hread, hday,
    offset?_of_offsetText hoffset (drop_of_drop hb), Option.bind_eq_bind, Option.bind_some]

end IsoText

end FormIntake.Calendar
