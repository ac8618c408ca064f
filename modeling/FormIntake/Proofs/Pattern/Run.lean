import FormIntake.Proofs.Pattern.Recognition
/-!
# Patterns between the edges of the text

Between the edges of the text a pattern accepts what it accepts without them.
A greedy loop over a test of one code point accepts the texts all of whose code
points pass the test.
-/

namespace FormIntake.Pattern

/-- The end of the text is also the place just before a line break that ends it; but there the
text is not used up. -/
theorem accepts_between_edges (p : Pattern) (t : Text) :
    accepts (.seq (.edge .textStart) (.seq p (.edge .lastLineEnd))) t = p.accepts t := by
  have hend : (fun s => run (.edge .lastLineEnd) s fun s =>
      if s.after.isEmpty then some s else none) =
      fun s : Place => if s.after.isEmpty then some s else none := by
    funext s
    simp only [run]
    by_cases hempty : s.after.isEmpty = true
    · simp [Edge.holds, hempty]
    · simp only [if_neg hempty, ite_self]
  have hstart : ∀ k : Rest, run (.edge .textStart) (.start t) k = k (.start t) := fun k => rfl
  unfold accepts
  rw [run, hstart]
  simp only [run] at hend ⊢
  rw [hend]

def allOf (test : CharTest) : Pattern :=
  .seq (.edge .textStart) (.seq (.loop .greedy 0 none (.one test)) (.edge .lastLineEnd))

theorem mem_oneOf_pow_iff {f : CodePoint → Bool} {n : Nat} {t : Text} :
    t ∈ oneOf f ^ n ↔ t.length = n ∧ t.all f = true := by
  induction n generalizing t with
  | zero =>
      rw [pow_zero, Language.mem_one, List.length_eq_zero_iff]
      constructor
      · rintro rfl
        exact ⟨rfl, rfl⟩
      · exact And.left
  | succ n ih =>
      rw [pow_succ', Language.mem_mul]
      constructor
      · rintro ⟨u, ⟨c, hc, rfl⟩, v, hv, rfl⟩
        obtain ⟨hlength, hall⟩ := ih.1 hv
        simp [hlength, hall, hc]
      · rintro ⟨hlength, hall⟩
        obtain ⟨c, t, rfl⟩ := List.exists_cons_of_length_eq_add_one hlength
        rw [List.all_cons, Bool.and_eq_true] at hall
        exact ⟨[c], ⟨c, hall.1, rfl⟩, t, ih.2 ⟨Nat.succ.inj hlength, hall.2⟩, rfl⟩

theorem allOf_accepts (test : CharTest) (t : Text) :
    (allOf test).accepts t = t.all test.holds := by
  have hloop : Recognizes (run (.loop .greedy 0 none (.one test)))
      (repeated (oneOf test.holds) 0 none) := (Recognizes.one test).loop (by simp)
  rw [allOf, accepts_between_edges, Bool.eq_iff_iff, hloop.accepts_iff]
  constructor
  · rintro ⟨n, -, -, ht⟩
    exact (mem_oneOf_pow_iff.1 ht).2
  · intro hall
    exact ⟨t.length, Nat.zero_le _, by simp, mem_oneOf_pow_iff.2 ⟨rfl, hall⟩⟩

end FormIntake.Pattern
