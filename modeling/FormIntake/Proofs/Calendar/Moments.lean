import FormIntake.Proofs.Calendar.Spellings
/-!
# Moments

A text with an offset from UTC stands for a moment, the same for every offset
it may be written with. It is read as the day on which the moment falls in the
local zone, as long as the moment is in the years 1 to 9999 both in UTC and
there. Moments are counted in microseconds from the midnight that begins
0001-01-01.
-/

namespace FormIntake.Calendar

open Date IsoText

def lastDay : Date :=
  ⟨9999, 12, 31, by decide⟩

def InRange (micros : Int) : Prop :=
  0 ≤ micros ∧ micros < lastDay.ordinal * microsPerDay

/-- The moment is on the day: not before the midnight that begins it and before the next one. -/
def FallsOn (micros : Int) (d : Date) : Prop :=
  ((d.ordinal : Int) - 1) * microsPerDay ≤ micros ∧ micros < d.ordinal * microsPerDay

instance (micros : Int) : Decidable (InRange micros) :=
  inferInstanceAs (Decidable (_ ∧ _))

instance (micros : Int) (d : Date) : Decidable (FallsOn micros d) :=
  inferInstanceAs (Decidable (_ ∧ _))

theorem dayOfMicros?_eq_some_iff {micros : Int} {d : Date} :
    dayOfMicros? micros = some d ↔ FallsOn micros d := by
  rw [dayOfMicros?, ofOrdinal?_eq_some_iff]
  unfold FallsOn microsPerDay
  omega

theorem ordinal_lastDay : lastDay.ordinal = lastOrdinal :=
  rfl

/-- In the range of the calendar every moment is on some day, and no other moment is. -/
theorem exists_fallsOn_iff {micros : Int} : (∃ d, FallsOn micros d) ↔ InRange micros := by
  unfold InRange
  rw [ordinal_lastDay]
  constructor
  · rintro ⟨d, hlow, hhigh⟩
    have hpos := d.ordinal_pos
    have hlast := d.ordinal_le_lastOrdinal
    unfold microsPerDay at *
    omega
  · rintro ⟨hlow, hhigh⟩
    obtain ⟨d, hd⟩ := exists_of_ordinal (n := micros / microsPerDay + 1)
      (by unfold microsPerDay; omega) (by unfold microsPerDay at *; omega)
    refine ⟨d, ?_⟩
    unfold FallsOn
    unfold microsPerDay at *
    omega

/-! ## Moments as texts -/

/-- `HH:MM:SS`. -/
def clockText (seconds : Nat) : Text :=
  twoDigits (seconds / 3600) ++ ":" ++ twoDigits (seconds / 60 % 60) ++ ":" ++
    twoDigits (seconds % 60)

/-- `HH:MM:SS.ffffff`. -/
def microsText (micros : Nat) : Text :=
  clockText (micros / 1000000) ++
    CodePoint.ofChar '.' :: Text.zeroPadded 6 (Text.ofNat (micros % 1000000))

/-- An offset in seconds, with its sign; no offset can also be written `Z`. -/
def offsetTexts (offset : Int) : List Text :=
  (CodePoint.ofChar (if offset < 0 then '-' else '+') :: clockText offset.natAbs) ::
    if offset = 0 then [Text.ofString "Z"] else []

/-- A moment as it is written in a place that is so many seconds ahead of UTC. -/
inductive Stamp (moment offset : Int) : Text → Prop
  | mk {written : Date} {mark : Text}
      (hwritten : FallsOn (moment + offset * microsPerSecond) written)
      (hmark : mark ∈ offsetTexts offset) :
      Stamp moment offset (written.text ++ CodePoint.ofChar 'T' ::
        (microsText ((moment + offset * microsPerSecond) % microsPerDay).toNat ++ mark))

theorem clockText_spec {seconds : Nat} (h : seconds < 86400) :
    ClockText (clockText seconds) (seconds * 1000000) := by
  have hclock := @ClockText.seconds (seconds / 3600) (seconds / 60 % 60) (seconds % 60)
    (by omega) (by omega) (by omega)
  have hmicros : dayMicros (seconds / 3600) (seconds / 60 % 60) (seconds % 60) 0 =
      seconds * 1000000 := by
    unfold dayMicros
    omega
  rwa [hmicros] at hclock

theorem fractionMicros_zeroPadded {micros : Nat} (h : micros < 10 ^ 6) :
    fractionMicros (Text.zeroPadded 6 (Text.ofNat micros)) = micros := by
  obtain ⟨hlength, -, hvalue⟩ := zeroPadded_spec (by decide) h
  rw [fractionMicros_eq, hlength, List.take_of_length_le (by rw [List.length_map, hlength]),
    hvalue, Nat.sub_self]
  exact Nat.mul_one micros

theorem microsText_spec {micros : Nat} (h : micros < 86400000000) :
    ClockText (microsText micros) micros := by
  have hfraction : micros % 1000000 < 10 ^ 6 := Nat.mod_lt _ (by decide)
  obtain ⟨hlength, hdigits, -⟩ := zeroPadded_spec (n := 6) (by decide) hfraction
  have hne : Text.zeroPadded 6 (Text.ofNat (micros % 1000000)) ≠ [] := by
    rw [← List.length_pos_iff, hlength]
    decide
  have hclock := @ClockText.fraction (micros / 1000000 / 3600)
    (micros / 1000000 / 60 % 60) (micros / 1000000 % 60) (by omega) (by omega) (by omega)
    '.' (Or.inl rfl) _ hne hdigits
  have hmicros : dayMicros (micros / 1000000 / 3600) (micros / 1000000 / 60 % 60)
      (micros / 1000000 % 60) (micros % 1000000) = micros := by
    unfold dayMicros
    omega
  rwa [fractionMicros_zeroPadded hfraction, hmicros] at hclock

theorem distance_seconds (seconds : Nat) : distance (seconds * 1000000) = seconds * 1000000 := by
  unfold distance
  split <;> omega

theorem offsetText_of_mem {offset : Int} (h : offset.natAbs < 86400) {mark : Text}
    (hmark : mark ∈ offsetTexts offset) : OffsetText mark (offset * microsPerSecond) := by
  have hclock := clockText_spec h
  rcases List.mem_cons.1 hmark with rfl | hmark
  · split
    · have hwest := OffsetText.west hclock
      have hvalue : -((offset.natAbs * 1000000 : Nat) : Int) = offset * microsPerSecond := by
        unfold microsPerSecond
        omega
      rwa [distance_seconds, hvalue] at hwest
    · have heast := OffsetText.east hclock
      have hvalue : ((offset.natAbs * 1000000 : Nat) : Int) = offset * microsPerSecond := by
        unfold microsPerSecond
        omega
      rwa [distance_seconds, hvalue] at heast
  · split at hmark
    · rename_i hzero
      rw [List.mem_singleton.1 hmark, hzero]
      exact OffsetText.utc
    · cases hmark

/-! ## Reading moments -/

theorem localDay?_eq_some_iff {zone moment offset : Int} {written d : Date} {micros : Nat}
    (h : ((written.ordinal : Int) - 1) * microsPerDay + micros - offset = moment) :
    Reading.localDay? zone ⟨written, micros, some offset⟩ = some d ↔
      InRange moment ∧ FallsOn (moment + zone * 60 * microsPerSecond) d := by
  have hday : Reading.localDay? zone ⟨written, micros, some offset⟩ =
      (dayOfMicros? moment).bind fun _ =>
        dayOfMicros? (moment + zone * 60 * microsPerSecond) := by
    rw [← h]
    rfl
  rw [hday, Option.bind_eq_some_iff, ← exists_fallsOn_iff, ← dayOfMicros?_eq_some_iff]
  constructor
  · rintro ⟨utc, hutc, hlocal⟩
    exact ⟨⟨utc, dayOfMicros?_eq_some_iff.1 hutc⟩, hlocal⟩
  · rintro ⟨⟨utc, hutc⟩, hlocal⟩
    exact ⟨utc, dayOfMicros?_eq_some_iff.2 hutc, hlocal⟩

theorem readDay?_of_stamp (zone : Int) {moment offset : Int} (hoffset : offset.natAbs < 86400)
    {t : Text} (h : Stamp moment offset t) (d : Date) :
    readDay? zone t = some d ↔
      InRange moment ∧ FallsOn (moment + zone * 60 * microsPerSecond) d := by
  cases h with
  | @mk written mark hwritten hmark =>
      have hmicros : ((moment + offset * microsPerSecond) % microsPerDay).toNat < 86400000000 := by
        unfold microsPerDay
        omega
      have hclock := microsText_spec hmicros
      have hmarkText := offsetText_of_mem hoffset hmark
      have hplain := List.forall_mem_append.2 ⟨hclock.plain, hmarkText.plain⟩
      have hmoment : ((written.ordinal : Int) - 1) * microsPerDay +
          ((moment + offset * microsPerSecond) % microsPerDay).toNat -
            offset * microsPerSecond = moment := by
        unfold FallsOn at hwritten
        unfold microsPerDay microsPerSecond at *
        omega
      have hnil : Text.isBlank [] = true := rfl
      have hread := readDay?_of_time zone hnil hnil written
        (CodePoint.ofChar 'T') (List.append_ne_nil_of_left_ne_nil hclock.ne_nil mark) hplain
        (fun b i hb => time?_of_offsetText hclock hmarkText (hb.trans (utf8_append _ _)) written)
      rw [List.nil_append, List.append_nil] at hread
      rw [hread, localDay?_eq_some_iff hmoment]

/-- A moment that can be written with an offset is read as its local day, whatever the offset, and
as no day if it is out of range in UTC or in the zone. -/
theorem moment_reads_as_local_day (zone moment offset : Int) (hoffset : offset.natAbs < 86400)
    (hwritten : InRange (moment + offset * microsPerSecond)) :
    (∃ t, Stamp moment offset t) ∧
    ∀ t, Stamp moment offset t →
      (InRange moment → InRange (moment + zone * 60 * microsPerSecond) →
        ∃ d, FallsOn (moment + zone * 60 * microsPerSecond) d ∧ readDay? zone t = some d) ∧
      (¬ (InRange moment ∧ InRange (moment + zone * 60 * microsPerSecond)) →
        readDay? zone t = none) ∧
      ∀ offset' t', offset'.natAbs < 86400 → Stamp moment offset' t' →
        readDay? zone t' = readDay? zone t := by
  constructor
  · obtain ⟨written, hday⟩ := exists_fallsOn_iff.2 hwritten
    exact ⟨_, Stamp.mk hday List.mem_cons_self⟩
  · intro t ht
    have hread := readDay?_of_stamp zone hoffset ht
    refine ⟨?_, ?_, ?_⟩
    · intro hutc hlocal
      obtain ⟨d, hd⟩ := exists_fallsOn_iff.2 hlocal
      exact ⟨d, hd, (hread d).2 ⟨hutc, hd⟩⟩
    · intro hout
      rw [Option.eq_none_iff_forall_ne_some]
      intro d hsome
      obtain ⟨hutc, hlocal⟩ := (hread d).1 hsome
      exact hout ⟨hutc, exists_fallsOn_iff.1 ⟨d, hlocal⟩⟩
    · intro offset' t' hoffset' ht'
      apply Option.ext
      intro d
      rw [readDay?_of_stamp zone hoffset' ht', hread]

/-- The moment half past four on 2025-03-02 in UTC, which is the day before five hours to the
west. -/
def earlyMoment : Int :=
  63876486600000000

theorem earlyMoment_reads_as_next_day :
    (-18000 : Int).natAbs < 86400 ∧ InRange (earlyMoment + -18000 * microsPerSecond) ∧
      Stamp earlyMoment (-18000) "2025-03-01T23:30:00.000000-05:00:00" ∧
      readDay? 0 "2025-03-01T23:30:00.000000-05:00:00" = some ⟨2025, 3, 2, by decide⟩ := by
  have hwritten : FallsOn (earlyMoment + -18000 * microsPerSecond) ⟨2025, 3, 1, by decide⟩ := by
    decide +kernel
  have hrange : InRange (earlyMoment + -18000 * microsPerSecond) := by decide +kernel
  have hstamp : Stamp earlyMoment (-18000) "2025-03-01T23:30:00.000000-05:00:00" :=
    Stamp.mk hwritten List.mem_cons_self
  refine ⟨by decide, hrange, hstamp, ?_⟩
  obtain ⟨-, hreads⟩ := moment_reads_as_local_day 0 earlyMoment (-18000) (by decide) hrange
  obtain ⟨d, hday, hread⟩ := (hreads _ hstamp).1 (by decide +kernel) (by decide +kernel)
  have hnext : FallsOn (earlyMoment + 0 * 60 * microsPerSecond) ⟨2025, 3, 2, by decide⟩ := by
    decide +kernel
  have hsame := (dayOfMicros?_eq_some_iff.2 hday).symm.trans (dayOfMicros?_eq_some_iff.2 hnext)
  rw [hread, Option.some.inj hsame]

end FormIntake.Calendar
