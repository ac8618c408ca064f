import FormIntake.Text.Basic
/-!
# Parts of a text

Splitting at a separator, and joining the parts again.
-/

namespace FormIntake.Text

variable {separator : CodePoint}

theorem exists_splitOn (separator : CodePoint) (t : Text) :
    ∃ part parts, t.splitOn separator = part :: parts := by
  cases t with
  | nil => exact ⟨[], [], rfl⟩
  | cons c rest =>
      unfold splitOn
      split
      · exact ⟨[], _, rfl⟩
      · split
        · exact ⟨_, _, rfl⟩
        · exact ⟨[c], [], rfl⟩

theorem splitOn_separator (rest : Text) :
    Text.splitOn separator (separator :: rest) = [] :: Text.splitOn separator rest := by
  rw [splitOn, if_pos rfl]

theorem splitOn_eq_self {t : Text} (h : separator ∉ t) : t.splitOn separator = [t] := by
  induction t with
  | nil => rfl
  | cons c rest ih =>
      have hne : c ≠ separator := fun heq => h (heq ▸ List.mem_cons_self)
      rw [splitOn, if_neg hne, ih fun hrest => h (List.mem_cons_of_mem _ hrest)]

/-- The first part ends at the first separator. -/
theorem splitOn_append {t : Text} (h : separator ∉ t) (rest : Text) :
    Text.splitOn separator (t ++ separator :: rest) = t :: Text.splitOn separator rest := by
  induction t with
  | nil => exact splitOn_separator rest
  | cons c t ih =>
      have hne : c ≠ separator := fun heq => h (heq ▸ List.mem_cons_self)
      rw [List.cons_append, splitOn, if_neg hne, ih fun ht => h (List.mem_cons_of_mem _ ht)]

theorem joined_splitOn (t : Text) : joined [separator] (t.splitOn separator) = t := by
  induction t with
  | nil => rfl
  | cons c rest ih =>
      obtain ⟨part, parts, hsplit⟩ := exists_splitOn separator rest
      by_cases hc : c = separator
      · subst hc
        rw [splitOn_separator, hsplit, joined, ← hsplit, ih]
        rfl
      · rw [splitOn, if_neg hc, hsplit]
        rw [hsplit] at ih
        cases parts with
        | nil => exact congrArg (c :: ·) ih
        | cons next parts => exact congrArg (c :: ·) ih

theorem not_mem_of_mem_splitOn {t part : Text} (h : part ∈ t.splitOn separator) :
    separator ∉ part := by
  induction t generalizing part with
  | nil =>
      rw [List.mem_singleton.1 h]
      exact List.not_mem_nil
  | cons c rest ih =>
      obtain ⟨first, parts, hsplit⟩ := exists_splitOn separator rest
      by_cases hc : c = separator
      · rw [hc, splitOn_separator] at h
        rcases List.mem_cons.1 h with rfl | hrest
        · exact List.not_mem_nil
        · exact ih hrest
      · rw [splitOn, if_neg hc, hsplit] at h
        rw [hsplit] at ih
        rcases List.mem_cons.1 h with rfl | hparts
        · rw [List.mem_cons, not_or]
          exact ⟨Ne.symm hc, ih List.mem_cons_self⟩
        · exact ih (List.mem_cons_of_mem _ hparts)

/-- Parts without the separator are found again, unless there are none: a text has one part at
least. -/
theorem splitOn_joined {parts : List Text} (hne : parts ≠ [])
    (h : ∀ part ∈ parts, separator ∉ part) :
    Text.splitOn separator (joined [separator] parts) = parts := by
  induction parts with
  | nil => exact absurd rfl hne
  | cons part parts ih =>
      have hpart := h part List.mem_cons_self
      cases parts with
      | nil => exact splitOn_eq_self hpart
      | cons next parts =>
          have hrest := ih (List.cons_ne_nil _ _) fun u hu => h u (List.mem_cons_of_mem _ hu)
          rw [joined, List.append_assoc, List.singleton_append, splitOn_append hpart, hrest]

end FormIntake.Text
