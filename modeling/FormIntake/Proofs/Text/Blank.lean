import FormIntake.Text.Blank
/-!
# Blank text

A text is blank if nothing is left of it once the padding is taken off.
-/

namespace FormIntake

namespace Text

theorem dropWhile_eq_nil_iff (p : CodePoint → Bool) (t : Text) :
    t.dropWhile p = [] ↔ ∀ c ∈ t, p c = true := by
  induction t with
  | nil => simp
  | cons c rest ih => cases h : p c <;> simp [h, ih]

theorem trim_eq_nil_iff (p : CodePoint → Bool) (t : Text) :
    t.trim p = [] ↔ ∀ c ∈ t, p c = true := by
  rw [trim, List.reverse_eq_nil_iff, dropWhile_eq_nil_iff]
  simp only [List.mem_reverse]
  constructor
  · intro h
    -- what `dropWhile` leaves is empty, as it cannot start with padding
    have hnil : t.dropWhile p = [] := by
      cases hd : t.dropWhile p with
      | nil => rfl
      | cons c rest =>
          have hc := List.head_dropWhile_not p (l := t) (by simp [hd])
          have := h c (by simp [hd])
          simp [hd, this] at hc
    exact (dropWhile_eq_nil_iff p t).1 hnil
  · intro h c hc
    exact h c (List.dropWhile_subset p hc)

theorem dropWhile_eq_self {p : CodePoint → Bool} {t : Text} (h : ∀ c ∈ t, p c = false) :
    t.dropWhile p = t := by
  cases t with
  | nil => rfl
  | cons c rest => rw [List.dropWhile_cons_of_neg (by rw [h c List.mem_cons_self]; decide)]

theorem trim_eq_self {p : CodePoint → Bool} {t : Text} (h : ∀ c ∈ t, p c = false) :
    t.trim p = t := by
  have hreverse : ∀ c ∈ t.reverse, p c = false := fun c hc => h c (List.mem_reverse.1 hc)
  rw [trim, dropWhile_eq_self h, dropWhile_eq_self hreverse, List.reverse_reverse]

/-- Padding is taken off up to the first and the last code point that are none. -/
theorem trim_padded_of_ends {p : CodePoint → Bool} {before core after : Text}
    (hbefore : ∀ c ∈ before, p c = true) (hafter : ∀ c ∈ after, p c = true)
    (hfirst : ∀ c ∈ core.head?, p c = false) (hlast : ∀ c ∈ core.getLast?, p c = false) :
    Text.trim p (before ++ core ++ after) = core := by
  have hstop : ∀ {t rest : Text}, t ≠ [] → (∀ c ∈ t.head?, p c = false) →
      (t ++ rest).dropWhile p = t ++ rest := by
    intro t rest hne hhead
    obtain ⟨c, t, rfl⟩ := List.exists_cons_of_ne_nil hne
    exact List.dropWhile_cons_of_neg (by rw [hhead c rfl]; exact Bool.false_ne_true)
  by_cases hne : core = []
  · subst hne
    rw [List.append_nil, trim_eq_nil_iff]
    exact fun c hc => (List.mem_append.1 hc).elim (hbefore c) (hafter c)
  · have hreverse : ∀ c ∈ core.reverse.head?, p c = false := by
      rw [List.head?_reverse]
      exact hlast
    have hafter' : ∀ c ∈ after.reverse, p c = true := fun c hc => hafter c (List.mem_reverse.1 hc)
    rw [trim, List.append_assoc, List.dropWhile_append_of_pos hbefore, hstop hne hfirst,
      List.reverse_append, List.dropWhile_append_of_pos hafter', ← List.append_nil core.reverse,
      hstop (mt List.reverse_eq_nil_iff.1 hne) hreverse, List.append_nil, List.reverse_reverse]

/-- Padding around a text that has none of its own is all that is taken off. -/
theorem trim_padded {p : CodePoint → Bool} {before core after : Text}
    (hbefore : ∀ c ∈ before, p c = true) (hcore : ∀ c ∈ core, p c = false)
    (hafter : ∀ c ∈ after, p c = true) : Text.trim p (before ++ core ++ after) = core :=
  trim_padded_of_ends hbefore hafter (fun c hc => hcore c (List.mem_of_mem_head? hc))
    fun c hc => hcore c (List.mem_of_mem_getLast? hc)

theorem exists_padding (p : CodePoint → Bool) (t : Text) :
    ∃ before after, t = before ++ t.trim p ++ after ∧ (∀ c ∈ before, p c = true) ∧
      ∀ c ∈ after, p c = true := by
  refine ⟨t.takeWhile p, ((t.dropWhile p).reverse.takeWhile p).reverse, ?_, ?_, ?_⟩
  · rw [trim, List.append_assoc, ← List.reverse_append, List.takeWhile_append_dropWhile,
      List.reverse_reverse, List.takeWhile_append_dropWhile]
  · exact fun c hc => List.all_eq_true.1 List.all_takeWhile c hc
  · exact fun c hc => List.all_eq_true.1 List.all_takeWhile c (List.mem_reverse.1 hc)

/-- What is left has no padding at its ends. -/
theorem trim_ends (p : CodePoint → Bool) (t : Text) :
    (∀ c ∈ (t.trim p).head?, p c = false) ∧ ∀ c ∈ (t.trim p).getLast?, p c = false := by
  have hhead : ∀ (u : Text), ∀ c ∈ (u.dropWhile p).head?, p c = false := by
    intro u c hc
    have hne : u.dropWhile p ≠ [] := by
      rintro hnil
      rw [hnil] at hc
      cases hc
    have hnot := List.head_dropWhile_not p hne
    rwa [← Option.some.inj ((List.head?_eq_some_head hne).symm.trans hc)]
  refine ⟨?_, ?_⟩
  · intro c hc
    -- at the end, only padding after the first code point is taken off
    obtain ⟨rest, hrest⟩ : t.trim p <+: t.dropWhile p := by
      rw [← List.reverse_suffix, trim, List.reverse_reverse]
      exact List.dropWhile_suffix p
    apply hhead t
    rw [Option.mem_def] at hc
    rw [← hrest, List.head?_append, hc, Option.some_or]
    rfl
  · intro c hc
    rw [trim, List.getLast?_reverse] at hc
    exact hhead _ c hc

theorem strip_eq_nil_iff (t : Text) : t.strip = [] ↔ t.isBlank = true := by
  rw [strip, trim_eq_nil_iff, isBlank, List.all_eq_true]

/-- Padding around a text, which may have padding of its own, makes no difference. -/
theorem strip_padded {before after : Text} (hbefore : before.isBlank = true)
    (hafter : after.isBlank = true) (t : Text) : Text.strip (before ++ t ++ after) = t.strip := by
  obtain ⟨first, last, ht, hfirst, hlast⟩ := exists_padding CodePoint.isBlank t
  obtain ⟨hhead, hend⟩ := trim_ends CodePoint.isBlank t
  have hall : before ++ t ++ after = (before ++ first) ++ t.strip ++ (last ++ after) :=
    calc before ++ t ++ after
      _ = before ++ (first ++ t.strip ++ last) ++ after := by rw [strip, ← ht]
      _ = (before ++ first) ++ t.strip ++ (last ++ after) := by simp only [List.append_assoc]
  rw [hall]
  apply trim_padded_of_ends _ _ hhead hend
  · exact fun c hc => (List.mem_append.1 hc).elim (List.all_eq_true.1 hbefore c) (hfirst c)
  · exact fun c hc => (List.mem_append.1 hc).elim (hlast c) (List.all_eq_true.1 hafter c)

end Text

end FormIntake
