import FormIntake.Proofs.Validation.Rules
/-!
# Judging by rules

What a row of rules says of a value: nothing if the value keeps them all, or
the violation of the first one broken. Rows are judged part by part, as the
checks are put together from smaller ones.
-/

namespace FormIntake.Validation

def Judges (v : Json) (rules : List Rule) : Option Violation → Prop
  | none => ∀ r ∈ rules, ¬ r.Broken v
  | some w => FirstBroken v rules w

variable {v : Json} {r : Rule} {rules : List Rule} {o : Option Violation}

theorem FirstBroken.exists_rule {w : Violation} (h : FirstBroken v rules w) :
    ∃ r ∈ rules, r.violation = w ∧ r.Broken v := by
  induction h with
  | here h => exact ⟨_, List.mem_cons_self, rfl, h⟩
  | later _ _ ih =>
      obtain ⟨r, hr, hbroken⟩ := ih
      exact ⟨r, List.mem_cons_of_mem _ hr, hbroken⟩

theorem FirstBroken.exists_broken {w : Violation} (h : FirstBroken v rules w) :
    ∃ r ∈ rules, r.Broken v := by
  obtain ⟨r, hr, -, hbroken⟩ := h.exists_rule
  exact ⟨r, hr, hbroken⟩

theorem FirstBroken.unique {w u : Violation} (hw : FirstBroken v rules w)
    (hu : FirstBroken v rules u) : w = u := by
  induction hw with
  | here h =>
      cases hu with
      | here _ => rfl
      | later hkept _ => exact absurd h hkept
  | later hkept _ ih =>
      cases hu with
      | here h => exact absurd h hkept
      | later _ hu => exact ih hu

/-- A row of rules says one thing of a value. -/
theorem Judges.unique {p : Option Violation} (ho : Judges v rules o) (hp : Judges v rules p) :
    o = p := by
  cases o with
  | none =>
      cases p with
      | none => rfl
      | some u =>
          obtain ⟨r, hr, hbroken⟩ := hp.exists_broken
          exact absurd hbroken (ho r hr)
  | some w =>
      cases p with
      | none =>
          obtain ⟨r, hr, hbroken⟩ := ho.exists_broken
          exact absurd hbroken (hp r hr)
      | some u => rw [ho.unique hp]

theorem judges_nil : Judges v [] none := by
  intro r hr
  cases hr

theorem Judges.broken (h : r.Broken v) : Judges v (r :: rules) (some r.violation) :=
  FirstBroken.here h

theorem Judges.kept (h : ¬ r.Broken v) (hrest : Judges v rules o) : Judges v (r :: rules) o := by
  cases o with
  | none =>
      intro q hq
      rcases List.mem_cons.1 hq with rfl | hq
      · exact h
      · exact hrest q hq
  | some w => exact FirstBroken.later h hrest

theorem Judges.tail_of_kept (h : ¬ r.Broken v) (hall : Judges v (r :: rules) o) :
    Judges v rules o := by
  cases o with
  | none => exact fun q hq => hall q (List.mem_cons_of_mem _ hq)
  | some w =>
      cases hall with
      | here hbroken => exact absurd hbroken h
      | later _ hrest => exact hrest

/-- One rule by itself, decided by a truth value. -/
theorem judges_one {broken : Bool} (h : broken = true ↔ r.Broken v) :
    Judges v [r] (breaks r.violation broken) := by
  cases broken with
  | false =>
      have hkept : ¬ r.Broken v := fun hr => absurd (h.2 hr) (by decide)
      exact Judges.kept hkept judges_nil
  | true => exact Judges.broken (h.1 rfl)

theorem Judges.append {first second : List Rule} {p : Option Violation}
    (ho : Judges v first o) (hp : Judges v second p) : Judges v (first ++ second) (o.or p) := by
  induction first generalizing o with
  | nil =>
      cases o with
      | none => exact hp
      | some w => cases ho
  | cons r rest ih =>
      by_cases hr : r.Broken v
      · have heq : o = some r.violation := ho.unique (Judges.broken hr)
        rw [heq]
        exact Judges.broken hr
      · exact Judges.kept hr (ih (ho.tail_of_kept hr))

/-- A rule with a bound that a field may leave open. -/
theorem judges_bound {α : Type} (bound : Option α) (rule : α → Rule) (broken : α → Bool)
    (h : ∀ a, broken a = true ↔ (rule a).Broken v) :
    Judges v (bound.toList.map rule)
      (bound.bind fun a => breaks (rule a).violation (broken a)) := by
  cases bound with
  | none => exact judges_nil
  | some a => exact judges_one (h a)

theorem firstOf_pair (o p : Option Violation) : firstOf [o, p] = o.or p := by
  cases o <;> cases p <;> rfl

/-- None of the rules counts for a vacant value. -/
theorem judges_vacant (h : Vacant v) : Judges v (rules.map Rule.unlessVacant) none := by
  intro r hr
  obtain ⟨q, -, rfl⟩ := List.mem_map.1 hr
  exact fun hbroken => hbroken.1 h

theorem Judges.unlessVacant (h : ¬ Vacant v) (ho : Judges v rules o) :
    Judges v (rules.map Rule.unlessVacant) o := by
  induction rules generalizing o with
  | nil => exact ho
  | cons r rest ih =>
      by_cases hr : r.Broken v
      · have heq : o = some r.violation := ho.unique (Judges.broken hr)
        rw [heq]
        exact Judges.broken (r := r.unlessVacant) ⟨h, hr⟩
      · have hkept : ¬ r.unlessVacant.Broken v := fun hbroken => hr hbroken.2
        exact Judges.kept hkept (ih (ho.tail_of_kept hr))

end FormIntake.Validation
