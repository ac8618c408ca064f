import FormIntake.Calendar.Instant
import FormIntake.Json.Basic
import FormIntake.Text.Surrogates
import FormIntake.Uuid
/-!
# Texts without surrogates

What is put together from characters holds no lone surrogates, so it has an
encoding: numerals, ids, dates and instants. Joining and replacing surrogates
leaves such texts as they are.
-/

namespace FormIntake

theorem CodePoint.isSurrogate_ofChar (c : Char) : (ofChar c).isSurrogate = false := by
  have h := c.valid
  simp only [UInt32.isValidChar, Nat.isValidChar] at h
  have hval : (ofChar c).val = c.val.toNat := rfl
  simp only [isSurrogate, hval, Bool.and_eq_false_iff, decide_eq_false_iff_not]
  omega

namespace Text

theorem hasSurrogate_eq_false_iff (t : Text) :
    t.hasSurrogate = false ↔ ∀ c ∈ t, c.isSurrogate = false := by
  simp [hasSurrogate]

theorem hasSurrogate_chars (cs : List Char) :
    Text.hasSurrogate (cs.map CodePoint.ofChar) = false := by
  rw [hasSurrogate_eq_false_iff]
  intro c hc
  obtain ⟨char, -, rfl⟩ := List.mem_map.1 hc
  exact CodePoint.isSurrogate_ofChar char

@[simp] theorem hasSurrogate_ofString (s : String) : (ofString s).hasSurrogate = false :=
  hasSurrogate_chars s.toList

@[simp] theorem hasSurrogate_ofNat (n : Nat) : (ofNat n).hasSurrogate = false :=
  hasSurrogate_chars _

@[simp] theorem hasSurrogate_append (t u : Text) :
    Text.hasSurrogate (t ++ u) = (t.hasSurrogate || u.hasSurrogate) := by
  simp [hasSurrogate]

@[simp] theorem hasSurrogate_cons (c : CodePoint) (t : Text) :
    Text.hasSurrogate (c :: t) = (c.isSurrogate || t.hasSurrogate) := by
  simp [hasSurrogate]

theorem hasSurrogate_zeroPadded {width : Nat} {t : Text} (h : t.hasSurrogate = false) :
    (zeroPadded width t).hasSurrogate = false := by
  rw [zeroPadded, hasSurrogate_append, h, Bool.or_false, hasSurrogate_eq_false_iff]
  intro c hc
  rw [List.eq_of_mem_replicate hc]
  exact CodePoint.isSurrogate_ofChar '0'

theorem hasSurrogate_take {n : Nat} {t : Text} (h : t.hasSurrogate = false) :
    Text.hasSurrogate (t.take n) = false := by
  rw [hasSurrogate_eq_false_iff] at h ⊢
  intro c hc
  exact h c (List.mem_of_mem_take hc)

theorem hasSurrogate_drop {n : Nat} {t : Text} (h : t.hasSurrogate = false) :
    Text.hasSurrogate (t.drop n) = false := by
  rw [hasSurrogate_eq_false_iff] at h ⊢
  intro c hc
  exact h c (List.mem_of_mem_drop hc)

@[simp] theorem hasSurrogate_ofInt (n : Int) : (ofInt n).hasSurrogate = false := by
  cases n <;> simp [ofInt]

theorem hasSurrogate_joined {separator : Text} {parts : List Text}
    (hseparator : separator.hasSurrogate = false)
    (hparts : ∀ part ∈ parts, part.hasSurrogate = false) :
    (joined separator parts).hasSurrogate = false := by
  induction parts with
  | nil => rfl
  | cons part rest ih =>
      obtain ⟨hpart, hrest⟩ := List.forall_mem_cons.1 hparts
      cases rest with
      | nil => exact hpart
      | cons next rest =>
          rw [joined, hasSurrogate_append, hasSurrogate_append, hpart, hseparator, ih hrest]
          rfl

end Text

open Text

theorem Double.hasSurrogate_text (x : Double) : x.text.hasSurrogate = false := by
  cases x with
  | nan => exact hasSurrogate_ofString "nan"
  | infinite negative => cases negative <;> exact hasSurrogate_ofString _
  | finite negative units => exact hasSurrogate_chars _

theorem Number.hasSurrogate_display (x : Number) : x.display.hasSurrogate = false := by
  cases x with
  | int n => exact hasSurrogate_ofInt n
  | double x =>
      have hdisplay : (double x).display = x.toInt?.elim x.text ofInt := by
        rw [display]
        cases x.toInt? <;> rfl
      rw [hdisplay]
      cases x.toInt? with
      | some n => exact hasSurrogate_ofInt n
      | none => exact x.hasSurrogate_text

@[simp] theorem Uuid.hasSurrogate_text (id : Uuid) : (Uuid.text id).hasSurrogate = false := by
  have hhex : (hex 32 id.val).hasSurrogate = false := hasSurrogate_zeroPadded (hasSurrogate_chars _)
  have hhyphen : Uuid.hyphen.isSurrogate = false := CodePoint.isSurrogate_ofChar '-'
  simp only [Uuid.text, hasSurrogate_append, hasSurrogate_cons, hhyphen, hasSurrogate_take hhex,
    hasSurrogate_take (hasSurrogate_drop hhex), hasSurrogate_drop hhex, Bool.or_self]

namespace Date

theorem hasSurrogate_twoDigits (n : Nat) : (twoDigits n).hasSurrogate = false :=
  hasSurrogate_zeroPadded (hasSurrogate_ofNat n)

theorem hasSurrogate_text (d : Date) : d.text.hasSurrogate = false := by
  have hyear : (zeroPadded 4 (ofNat d.year)).hasSurrogate = false :=
    hasSurrogate_zeroPadded (hasSurrogate_ofNat d.year)
  simp only [text, hasSurrogate_append, hyear, hasSurrogate_twoDigits, hasSurrogate_ofString,
    Bool.or_self]

end Date

namespace Calendar

theorem hasSurrogate_timeText (micros : Nat) : (timeText micros).hasSurrogate = false := by
  have hfraction : (zeroPadded 6 (ofNat (micros % 1000000))).hasSurrogate = false :=
    hasSurrogate_zeroPadded (hasSurrogate_ofNat _)
  simp only [timeText]
  split
  · simp only [hasSurrogate_append, Date.hasSurrogate_twoDigits, hasSurrogate_ofString,
      Bool.or_self]
  · simp only [hasSurrogate_append, Date.hasSurrogate_twoDigits, hasSurrogate_ofString,
      hfraction, Bool.or_self]

theorem hasSurrogate_instantText {zone : Text} (h : zone.hasSurrogate = false) (micros : Int) :
    (instantText zone micros).hasSurrogate = false := by
  have hday : ∀ day? : Option Date, Text.hasSurrogate (day?.elim [] Date.text) = false := by
    intro day?
    cases day? with
    | none => rfl
    | some day => exact day.hasSurrogate_text
  simp only [instantText, hasSurrogate_append, hday, hasSurrogate_timeText, h,
    hasSurrogate_ofString, Bool.or_self]

end Calendar

/-! ## Joining and replacing -/

namespace CodePoint

theorem isSurrogate_of_isHighSurrogate {c : CodePoint} (h : c.isHighSurrogate = true) :
    c.isSurrogate = true := by
  simp only [isHighSurrogate, isSurrogate, Bool.and_eq_true, decide_eq_true_eq] at *
  omega

theorem isSurrogate_of_isLowSurrogate {c : CodePoint} (h : c.isLowSurrogate = true) :
    c.isSurrogate = true := by
  simp only [isLowSurrogate, isSurrogate, Bool.and_eq_true, decide_eq_true_eq] at *
  omega

/-- What a pair of surrogates writes lies beyond the code points of one unit. -/
theorem le_ofSurrogates {high low : CodePoint} (hhigh : high.isHighSurrogate = true)
    (hlow : low.isLowSurrogate = true) : 0x10000 ≤ (ofSurrogates high low).val := by
  simp only [isHighSurrogate, isLowSurrogate, Bool.and_eq_true, decide_eq_true_eq] at hhigh hlow
  rw [ofSurrogates, ofNat, dif_pos (by omega)]
  show 0x10000 ≤ 0x10000 + (high.val - 0xD800) * 0x400 + (low.val - 0xDC00)
  omega

end CodePoint

namespace Text

theorem joinSurrogates_cons {c : CodePoint} {t : Text}
    (h : c.isHighSurrogate = true → ∀ d ∈ t.head?, d.isLowSurrogate = false) :
    joinSurrogates (c :: t) = c :: joinSurrogates t := by
  cases t with
  | nil => rfl
  | cons d t =>
      have hpair : (c.isHighSurrogate && d.isLowSurrogate) = false := by
        rw [Bool.and_eq_false_imp]
        exact fun hhigh => h hhigh d rfl
      simp only [joinSurrogates, hpair, Bool.false_eq_true, if_false]

theorem joinSurrogates_eq_self {t : Text} (h : t.hasSurrogate = false) : joinSurrogates t = t := by
  induction t with
  | nil => rfl
  | cons c t ih =>
      rw [hasSurrogate_cons, Bool.or_eq_false_iff] at h
      rw [joinSurrogates_cons, ih h.2]
      intro hhigh
      rw [CodePoint.isSurrogate_of_isHighSurrogate hhigh] at h
      cases h.1

/-- A single surrogate has nothing to be joined with. -/
theorem joinSurrogates_of_single {before after : Text} {c : CodePoint}
    (hbefore : before.hasSurrogate = false) (hafter : after.hasSurrogate = false) :
    joinSurrogates (before ++ c :: after) = before ++ c :: after := by
  induction before with
  | nil =>
      rw [List.nil_append, joinSurrogates_cons, joinSurrogates_eq_self hafter]
      intro _ d hd
      rw [Bool.eq_false_iff]
      intro hlow
      rw [hasSurrogate_eq_false_iff] at hafter
      have hplain := hafter d (List.mem_of_mem_head? hd)
      rw [CodePoint.isSurrogate_of_isLowSurrogate hlow] at hplain
      cases hplain
  | cons b before ih =>
      rw [hasSurrogate_cons, Bool.or_eq_false_iff] at hbefore
      rw [List.cons_append, joinSurrogates_cons, ih hbefore.2]
      intro hhigh
      rw [CodePoint.isSurrogate_of_isHighSurrogate hhigh] at hbefore
      cases hbefore.1

/-- A text of one-unit code points comes out of no other text. -/
theorem eq_of_joinSurrogates_eq {t u : Text} (hu : ∀ c ∈ u, c.val < 0x10000)
    (h : joinSurrogates t = u) : t = u := by
  induction t using joinSurrogates.induct generalizing u with
  | case1 high low rest hpair _ =>
      rw [Bool.and_eq_true] at hpair
      subst h
      have hlong := CodePoint.le_ofSurrogates hpair.1 hpair.2
      have hshort := hu (CodePoint.ofSurrogates high low) (by simp [joinSurrogates, hpair])
      exact absurd hlong (Nat.not_le.2 hshort)
  | case2 high low rest hpair ih =>
      have hcons : joinSurrogates (high :: low :: rest) = high :: joinSurrogates (low :: rest) := by
        rw [joinSurrogates, if_neg hpair]
      rw [hcons] at h
      subst h
      rw [← ih (fun c hc => hu c (List.mem_cons_of_mem _ hc)) rfl]
  | case3 t hshort =>
      rw [← h, joinSurrogates]
      exact hshort

theorem utf16Length_joinSurrogates (t : Text) : (joinSurrogates t).utf16Length = t.utf16Length := by
  induction t using joinSurrogates.induct with
  | case1 high low rest hpair ih =>
      rw [Bool.and_eq_true] at hpair
      have hlong := CodePoint.le_ofSurrogates hpair.1 hpair.2
      have hhigh : high.utf16Length = 1 := by
        have hval := hpair.1
        simp only [CodePoint.isHighSurrogate, Bool.and_eq_true, decide_eq_true_eq] at hval
        exact if_pos (by omega)
      have hlow : low.utf16Length = 1 := by
        have hval := hpair.2
        simp only [CodePoint.isLowSurrogate, Bool.and_eq_true, decide_eq_true_eq] at hval
        exact if_pos (by omega)
      have hjoined : (CodePoint.ofSurrogates high low).utf16Length = 2 :=
        if_neg (Nat.not_lt.2 hlong)
      simp only [joinSurrogates, hpair, Bool.and_self, if_true, utf16Length, ih, hhigh, hlow,
        hjoined]
      omega
  | case2 high low rest hpair ih =>
      rw [joinSurrogates, if_neg hpair, utf16Length, ih]
      rfl
  | case3 t hshort =>
      rw [joinSurrogates]
      exact hshort

theorem replaceSurrogates_eq_self {t : Text} (h : t.hasSurrogate = false) :
    replaceSurrogates t = t := by
  induction t with
  | nil => rfl
  | cons c t ih =>
      rw [hasSurrogate_cons, Bool.or_eq_false_iff] at h
      rw [replaceSurrogates, List.flatMap_cons, CodePoint.replaced, h.1]
      exact congrArg (c :: ·) (ih h.2)

theorem hasSurrogate_replaceSurrogates (t : Text) : (replaceSurrogates t).hasSurrogate = false := by
  rw [hasSurrogate_eq_false_iff]
  intro c hc
  obtain ⟨d, -, hd⟩ := List.mem_flatMap.1 hc
  unfold CodePoint.replaced at hd
  split at hd
  · rw [List.eq_of_mem_replicate hd]
    rfl
  · rename_i hplain
    rw [List.mem_singleton.1 hd]
    exact Bool.eq_false_iff.2 hplain

end Text

end FormIntake
