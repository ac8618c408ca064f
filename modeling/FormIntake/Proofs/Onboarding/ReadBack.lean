import FormIntake.Proofs.Json.Texts
import FormIntake.Proofs.Number.Spellings
import FormIntake.Proofs.Onboarding
/-!
# Records that are read back

A record that the onboarding form takes is one that it takes when a database
gives it back as well. Only its biography may hold a pair of surrogates, and
the code point that they make counts for as much as the two.
-/

namespace FormIntake

/-! ## Texts without pairs of surrogates -/

namespace Text

theorem isSurrogate_of_isBlank {c : CodePoint} (h : c.isBlank = true) : c.isSurrogate = false := by
  simp only [CodePoint.isBlank, CodePoint.isWhiteSpace, Bool.or_eq_true, Bool.and_eq_true,
    decide_eq_true_eq, beq_iff_eq] at h
  simp only [CodePoint.isSurrogate, Bool.and_eq_false_iff, decide_eq_false_iff_not]
  omega

theorem hasSurrogate_of_blanks {t : Text} (h : ∀ c ∈ t, c.isBlank = true) :
    t.hasSurrogate = false := by
  rw [hasSurrogate_eq_false_iff]
  exact fun c hc => isSurrogate_of_isBlank (h c hc)

theorem hasSurrogate_of_strip {t : Text} (h : t.strip.hasSurrogate = false) :
    t.hasSurrogate = false := by
  obtain ⟨before, after, ht, hbefore, hafter⟩ := exists_padding CodePoint.isBlank t
  rw [strip] at h
  rw [ht, hasSurrogate_append, hasSurrogate_append, h, hasSurrogate_of_blanks hbefore,
    hasSurrogate_of_blanks hafter]
  rfl

/-- A text that reads as a moment has one surrogate at most, in the place of the separator. -/
theorem joinSurrogates_of_read? {t : Text} {reading : Calendar.Reading}
    (h : Calendar.IsoText.read? t.strip = some reading) : joinSurrogates t = t := by
  obtain ⟨before, after, ht, hbefore, hafter⟩ := exists_padding CodePoint.isBlank t
  have hplain : (Calendar.IsoText.replaceSeparator t.strip).hasSurrogate = false := by
    unfold Calendar.IsoText.read? at h
    split at h
    · cases h
    · simp only at h
      split at h
      · cases h
      · rename_i hplain
        exact Bool.eq_false_iff.2 hplain
  unfold Calendar.IsoText.replaceSeparator at hplain
  split at hplain
  · -- the separator alone may be a surrogate
    rename_i i hi
    have hsome := List.find?_some hi
    obtain ⟨c, hc⟩ : ∃ c, t.strip[i]? = some c := by
      cases hget : t.strip[i]? with
      | none =>
          rw [hget] at hsome
          cases hsome
      | some c => exact ⟨c, rfl⟩
    obtain ⟨hlt, hc⟩ := List.getElem?_eq_some_iff.1 hc
    have hparts : t.strip = t.strip.take i ++ c :: t.strip.drop (i + 1) := by
      rw [← hc, List.getElem_cons_drop, List.take_append_drop]
    rw [List.set_eq_take_append_cons_drop, if_pos hlt, hasSurrogate_append, hasSurrogate_cons,
      Bool.or_eq_false_iff, Bool.or_eq_false_iff] at hplain
    have hall : t = (before ++ t.strip.take i) ++ c :: (t.strip.drop (i + 1) ++ after) :=
      calc t
        _ = before ++ t.strip ++ after := ht
        _ = before ++ (t.strip.take i ++ c :: t.strip.drop (i + 1)) ++ after := by rw [← hparts]
        _ = _ := by simp only [List.append_assoc, List.cons_append]
    rw [hall]
    apply joinSurrogates_of_single
    · rw [hasSurrogate_append, hasSurrogate_of_blanks hbefore, hplain.1]
      rfl
    · rw [hasSurrogate_append, hasSurrogate_of_blanks hafter, hplain.2.2]
      rfl
  · exact joinSurrogates_eq_self (hasSurrogate_of_strip hplain)

end Text

namespace Onboarding

open Validation

/-! ## Values that stay as they are -/

theorem readBack_str {t : Text} (h : Text.joinSurrogates t = t) :
    (Json.str t).readBack = .str t :=
  congrArg Json.str h

theorem readBack_of_ofJson? {v : Json} {x : Number} (h : Number.ofJson? v = some x) :
    v.readBack = v := by
  cases v with
  | null | bool | number | arr | obj => first | rfl | cases h
  | str t =>
      obtain ⟨l, hspells, -⟩ := Number.exists_spells_of_ofText? h
      have hplain := Text.hasSurrogate_of_strip hspells.hasSurrogate
      exact readBack_str (Text.joinSurrogates_eq_self hplain)

theorem readBack_of_vacant {v : Json} (h : Vacant v) : v.readBack = v := by
  obtain rfl | ⟨t, rfl, ht⟩ := h
  · rfl
  · have hplain : t.hasSurrogate = false := by
      apply Text.hasSurrogate_of_strip
      rw [ht]
      rfl
    exact readBack_str (Text.joinSurrogates_eq_self hplain)

theorem readBack_of_readDay? {zone : Int} {t : Text} {day : Date}
    (h : Calendar.readDay? zone t = some day) : (Json.str t).readBack = .str t := by
  obtain ⟨reading, hread, -⟩ := Option.bind_eq_some_iff.1 h
  exact readBack_str (Text.joinSurrogates_of_read? hread)

theorem readBack_texts {chosen : List Text} (h : ∀ t ∈ chosen, t.hasSurrogate = false) :
    (Json.arr (chosen.map .str)).readBack = .arr (chosen.map .str) := by
  have hitems : (chosen.map Json.str).map Json.readBack = chosen.map .str := by
    rw [List.map_map]
    exact List.map_congr_left fun t ht => readBack_str (Text.joinSurrogates_eq_self (h t ht))
  rw [Json.readBack, Json.mapTexts_arr]
  exact congrArg Json.arr hitems

/-! ## Records -/

variable {zone : Int} {today : Date} {members : List (Text × Json)}

theorem member_readBack (h : (Json.obj members).DistinctKeys) {name : String}
    (hname : (Text.ofString name).all (fun c => c.val < 0x80) = true) :
    member (Json.obj members).readBack name = (member (.obj members) name).readBack := by
  rw [member, Json.get?_readBack h hname, member]
  cases (Json.obj members).get? name <;> rfl

/-- What a database gives back of a record that the form takes is a record that it takes. -/
theorem accepts_readBack (h : (Json.obj members).DistinctKeys)
    (haccepts : Accepts zone today (.obj members)) :
    Accepts zone today (Json.obj members).readBack where
  fullName := by
    obtain ⟨t, ht, hstrip, hlength, hletters⟩ := haccepts.fullName
    have hplain : t.hasSurrogate = false := by
      rw [Text.hasSurrogate_eq_false_iff]
      intro c hc
      rcases hletters c hc with hletter | hblank
      · simp only [CodePoint.isAsciiLetter, Bool.or_eq_true, Bool.and_eq_true,
          decide_eq_true_eq] at hletter
        simp only [CodePoint.isSurrogate, Bool.and_eq_false_iff, decide_eq_false_iff_not]
        omega
      · exact Text.isSurrogate_of_isBlank hblank
    rw [member_readBack h (by decide), ht, readBack_str (Text.joinSurrogates_eq_self hplain)]
    exact ⟨t, rfl, hstrip, hlength, hletters⟩
  age := by
    obtain ⟨x, a, hx, hbounds⟩ := haccepts.age
    rw [member_readBack h (by decide), readBack_of_ofJson? hx]
    exact ⟨x, a, hx, hbounds⟩
  department := by
    obtain ⟨t, ht, hmember⟩ := haccepts.department
    have hplain : ∀ t ∈ departments, t.hasSurrogate = false := by decide
    rw [member_readBack h (by decide), hmember,
      readBack_str (Text.joinSurrogates_eq_self (hplain t ht))]
    exact ⟨t, ht, rfl⟩
  skills := by
    rw [member_readBack h (by decide)]
    rcases haccepts.skills with hvacant | ⟨chosen, hchosen, hlength, hnames⟩
    · rw [readBack_of_vacant hvacant]
      exact Or.inl hvacant
    · have hplain : ∀ t ∈ skillNames, t.hasSurrogate = false := by decide
      rw [hchosen, readBack_texts fun t ht => hplain t (hnames t ht)]
      exact Or.inr ⟨chosen, rfl, hlength, hnames⟩
  dateOfJoining := by
    obtain ⟨t, day, ht, hday, hbefore⟩ := haccepts.dateOfJoining
    rw [member_readBack h (by decide), ht, readBack_of_readDay? hday]
    exact ⟨t, day, rfl, hday, hbefore⟩
  bio := by
    rw [member_readBack h (by decide)]
    rcases haccepts.bio with hvacant | ⟨t, ht, hlength⟩
    · rw [readBack_of_vacant hvacant]
      exact Or.inl hvacant
    · rw [ht]
      refine Or.inr ⟨Text.joinSurrogates t, rfl, ?_⟩
      rwa [Text.utf16Length_joinSurrogates]
  termsAccepted := by
    rw [member_readBack h (by decide), haccepts.termsAccepted]
    rfl

end Onboarding

end FormIntake
