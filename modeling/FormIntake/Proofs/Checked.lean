import FormIntake.Checked
import Mathlib.Data.List.Forall2
/-!
# Accepted readings

What an accepted reading says about the readings it is made of, and how a
reading decides whether a document is in order: it accepts if so, and otherwise
tells what is wrong or overflows.
-/

namespace FormIntake.Checked

variable {α β : Type}

@[simp] theorem map_eq_accepted {f : α → β} {x : Checked α} {b : β} :
    f <$> x = accepted b ↔ ∃ a, x = accepted a ∧ f a = b := by
  change x.map f = accepted b ↔ _
  cases x <;> simp [Checked.map]

@[simp] theorem seq_eq_accepted {f : Checked (α → β)} {x : Checked α} {b : β} :
    f <*> x = accepted b ↔ ∃ g a, f = accepted g ∧ x = accepted a ∧ g a = b := by
  change (f.both x).map _ = accepted b ↔ _
  cases f <;> cases x <;> simp [both, Checked.map]

@[simp] theorem seqLeft_eq_accepted {x : Checked α} {y : Checked β} {a : α} :
    x <* y = accepted a ↔ x = accepted a ∧ ∃ b, y = accepted b := by
  change (Function.const β <$> x) <*> y = accepted a ↔ _
  simp only [seq_eq_accepted, map_eq_accepted]
  constructor
  · rintro ⟨g, b, ⟨a', rfl, rfl⟩, rfl, rfl⟩
    exact ⟨rfl, b, rfl⟩
  · rintro ⟨rfl, b, rfl⟩
    exact ⟨_, b, ⟨a, rfl, rfl⟩, rfl, rfl⟩

@[simp] theorem under_eq_accepted {step : PathStep} {x : Checked α} {a : α} :
    x.under step = accepted a ↔ x = accepted a := by
  cases x <;> simp [under]

@[simp] theorem andThen_eq_accepted {f : α → Checked β} {x : Checked α} {b : β} :
    x.andThen f = accepted b ↔ ∃ a, x = accepted a ∧ f a = accepted b := by
  cases x <;> simp [andThen]

theorem require_eq_accepted {condition : Bool} {cause : Cause} {u : Unit} :
    require condition cause = accepted u ↔ condition = true := by
  cases condition <;> simp [require, reject]

theorem ite_eq_accepted {condition : Prop} [Decidable condition] {cause : Cause} {a b : α} :
    (if condition then accepted a else reject cause) = accepted b ↔ condition ∧ a = b := by
  split
  · rename_i h
    simp [h]
  · rename_i h
    simp [h, reject]

theorem items_eq_accepted {read : Json → Checked α} {i : Nat} {list : List Json}
    {values : List α} :
    items read i list = accepted values ↔
      List.Forall₂ (fun json a => read json = accepted a) list values := by
  induction list generalizing i values with
  | nil => simp [items, eq_comm]
  | cons json rest ih =>
      simp only [items, seq_eq_accepted, map_eq_accepted, under_eq_accepted, ih,
        List.forall₂_cons_left_iff]
      constructor
      · rintro ⟨_, others, ⟨first, hfirst, rfl⟩, hrest, rfl⟩
        exact ⟨first, others, hfirst, hrest, rfl⟩
      · rintro ⟨first, others, hfirst, hrest, rfl⟩
        exact ⟨_, others, ⟨first, hfirst, rfl⟩, hrest, rfl⟩

theorem exists_of_mem_items {read : Json → Checked α} {i : Nat} {list : List Json}
    {values : List α} (h : items read i list = accepted values) {a : α} (ha : a ∈ values) :
    ∃ json ∈ list, read json = accepted a := by
  rw [items_eq_accepted] at h
  induction h with
  | nil => cases ha
  | cons hfirst _ ih =>
      rcases List.mem_cons.1 ha with rfl | hmem
      · exact ⟨_, List.mem_cons_self, hfirst⟩
      · obtain ⟨json, hjson, hread⟩ := ih hmem
        exact ⟨json, List.mem_cons_of_mem _ hjson, hread⟩

theorem exists_of_unlessNull {read : Json → Checked α} {json : Json} {a : α}
    (h : unlessNull read json = accepted (some a)) : read json = accepted a := by
  unfold unlessNull at h
  split at h
  · simp at h
  · simpa using h

/-! ## Deciding -/

/-- A reading accepts exactly if the document is good, overflows exactly if it is too big for the
reader, and never rejects without a problem. -/
structure Decides (Good Big : Prop) (x : Checked α) : Prop where
  accepted_iff : (∃ a, x = accepted a) ↔ Good
  overflow_iff : x = overflow ↔ Big
  problems_ne_nil : ∀ problems, x = rejected problems → problems ≠ []

variable {Good Big Good' Big' : Prop} {x : Checked α}

theorem decides_accepted (a : α) (hgood : Good) (hbig : ¬ Big) : Decides Good Big (accepted a) :=
  ⟨by simp [hgood], by simp [hbig], by simp⟩

theorem decides_reject (cause : Cause) (hgood : ¬ Good) (hbig : ¬ Big) :
    Decides Good Big (reject cause : Checked α) :=
  ⟨by simp [reject, hgood], by simp [reject, hbig], by simp [reject]⟩

theorem decides_overflow (hgood : ¬ Good) (hbig : Big) :
    Decides Good Big (overflow : Checked α) :=
  ⟨by simp [hgood], by simp [hbig], by simp⟩

theorem decides_ite {condition : Prop} [Decidable condition] (a : α) (cause : Cause) :
    Decides condition False (if condition then accepted a else reject cause) := by
  split
  · rename_i h
    exact decides_accepted a h not_false
  · rename_i h
    exact decides_reject cause h not_false

/-- A reading that never overflows, and that never rejects without a problem. -/
abbrev Definite (x : Checked α) : Prop :=
  Decides (∃ a, x = accepted a) False x

theorem definite_accepted (a : α) : Definite (accepted a) :=
  decides_accepted a ⟨a, rfl⟩ not_false

theorem definite_reject (cause : Cause) : Definite (reject cause : Checked α) :=
  decides_reject cause (by simp [reject]) not_false

namespace Decides

theorem congr (h : Decides Good Big x) (hgood : Good ↔ Good') (hbig : Big ↔ Big') :
    Decides Good' Big' x :=
  ⟨h.accepted_iff.trans hgood, h.overflow_iff.trans hbig, h.problems_ne_nil⟩

theorem map (h : Decides Good Big x) (f : α → β) : Decides Good Big (f <$> x) := by
  have hmap : f <$> x = x.map f := rfl
  rw [hmap]
  refine ⟨?_, ?_, ?_⟩
  · rw [← h.accepted_iff]
    cases x <;> simp [Checked.map]
  · rw [← h.overflow_iff]
    cases x <;> simp [Checked.map]
  · intro problems heq
    cases x with
    | rejected found =>
        rw [← rejected.inj heq]
        exact h.problems_ne_nil found rfl
    | accepted _ | overflow => cases heq

theorem seq {f : Checked (α → β)} (hf : Decides Good Big f) (hx : Decides Good' Big' x) :
    Decides (Good ∧ Good') (Big ∨ Big') (f <*> x) := by
  have hseq : f <*> x = (f.both x).map fun pair => pair.1 pair.2 := rfl
  refine ⟨?_, ?_, ?_⟩
  · rw [← hf.accepted_iff, ← hx.accepted_iff]
    cases f <;> cases x <;> simp [hseq, both, Checked.map]
  · rw [← hf.overflow_iff, ← hx.overflow_iff]
    cases f <;> cases x <;> simp [hseq, both, Checked.map]
  · intro problems heq
    rw [hseq] at heq
    cases f with
    | overflow => cases heq
    | accepted g =>
        cases x with
        | rejected found =>
            rw [← rejected.inj heq]
            exact hx.problems_ne_nil found rfl
        | accepted _ | overflow => cases heq
    | rejected found =>
        have hne := hf.problems_ne_nil found rfl
        cases x with
        | accepted a =>
            rw [← rejected.inj heq]
            exact hne
        | rejected more =>
            rw [← rejected.inj heq]
            exact List.append_ne_nil_of_left_ne_nil hne more
        | overflow => cases heq

theorem seqLeft {y : Checked β} (hx : Decides Good Big x) (hy : Decides Good' Big' y) :
    Decides (Good ∧ Good') (Big ∨ Big') (x <* y) :=
  (hx.map (Function.const β)).seq hy

theorem under (h : Decides Good Big x) (step : PathStep) : Decides Good Big (x.under step) := by
  refine ⟨?_, ?_, ?_⟩
  · rw [← h.accepted_iff]
    cases x <;> simp [Checked.under]
  · rw [← h.overflow_iff]
    cases x <;> simp [Checked.under]
  · intro problems heq
    cases x with
    | rejected found =>
        rw [← rejected.inj heq]
        exact mt List.map_eq_nil_iff.1 (h.problems_ne_nil found rfl)
    | accepted _ | overflow => cases heq

theorem andThen {f : α → Checked β} {Good' : α → Prop} (hx : Decides Good Big x)
    (hf : ∀ a, x = accepted a → Decides (Good' a) False (f a)) :
    Decides (∃ a, x = accepted a ∧ Good' a) Big (x.andThen f) := by
  refine ⟨?_, ?_, ?_⟩
  · cases x with
    | accepted a => simp [Checked.andThen, (hf a rfl).accepted_iff]
    | rejected _ | overflow => simp [Checked.andThen]
  · rw [← hx.overflow_iff]
    cases x with
    | accepted a => simp [Checked.andThen, (hf a rfl).overflow_iff]
    | rejected _ | overflow => simp [Checked.andThen]
  · intro problems heq
    cases x with
    | accepted a => exact (hf a rfl).problems_ne_nil problems heq
    | rejected found =>
        rw [← rejected.inj heq]
        exact hx.problems_ne_nil found rfl
    | overflow => cases heq

theorem unlessNull {read : Json → Checked α} {json : Json} (h : Decides Good Big (read json)) :
    Decides (json = .null ∨ Good) (json ≠ .null ∧ Big) (unlessNull read json) := by
  cases json with
  | null => exact decides_accepted none (Or.inl rfl) (by simp)
  | bool _ | number _ | str _ | arr _ | obj _ =>
      apply (h.map some).congr
      · simp
      · simp

end Decides

theorem decides_items {read : Json → Checked α} {Good Big : Json → Prop}
    (h : ∀ json, Decides (Good json) (Big json) (read json)) (i : Nat) (list : List Json) :
    Decides (∀ json ∈ list, Good json) (∃ json ∈ list, Big json) (items read i list) := by
  induction list generalizing i with
  | nil => exact decides_accepted [] (by simp) (by simp)
  | cons json rest ih =>
      apply ((((h json).under (.index i)).map List.cons).seq (ih (i + 1))).congr
      · simp
      · simp

theorem decides_require (condition : Bool) (cause : Cause) :
    Decides (condition = true) False (require condition cause) := by
  cases condition with
  | true => exact decides_accepted () rfl not_false
  | false => exact decides_reject cause Bool.false_ne_true not_false

/-! ## Reporting -/

def Reports (p : Problem) : Checked α → Prop
  | accepted _ => False
  | rejected problems => p ∈ problems
  | overflow => True

namespace Reports

variable {p : Problem} {f : Checked (α → β)} {y : Checked β}

theorem map (h : Reports p x) (g : α → β) : Reports p (g <$> x) := by
  cases x with
  | accepted _ => exact h.elim
  | rejected _ | overflow => exact h

theorem seq_left (h : Reports p f) (x : Checked α) : Reports p (f <*> x) := by
  cases f with
  | accepted _ => exact h.elim
  | overflow => trivial
  | rejected problems =>
      cases x with
      | accepted _ => exact h
      | rejected more => exact List.mem_append_left more h
      | overflow => trivial

theorem seq_right (h : Reports p x) (f : Checked (α → β)) : Reports p (f <*> x) := by
  cases x with
  | accepted _ => exact h.elim
  | overflow => cases f <;> trivial
  | rejected problems =>
      cases f with
      | accepted _ => exact h
      | rejected before => exact List.mem_append_right before h
      | overflow => trivial

theorem seqLeft_left (h : Reports p x) (y : Checked β) : Reports p (x <* y) :=
  (h.map (Function.const β)).seq_left y

theorem seqLeft_right (h : Reports p y) (x : Checked α) : Reports p (x <* y) :=
  h.seq_right (Function.const β <$> x)

theorem under (h : Reports p x) (step : PathStep) : Reports (p.under step) (x.under step) := by
  cases x with
  | accepted _ => exact h.elim
  | rejected _ => exact List.mem_map_of_mem h
  | overflow => trivial

theorem andThen (h : Reports p x) (g : α → Checked β) : Reports p (x.andThen g) := by
  cases x with
  | accepted _ => exact h.elim
  | rejected _ | overflow => exact h

theorem items {read : Json → Checked α} {list : List Json} {j : Nat} {json : Json}
    (hjson : list[j]? = some json) (h : Reports p (read json)) (i : Nat) :
    Reports (p.under (.index (i + j))) (items read i list) := by
  induction list generalizing i j with
  | nil => cases hjson
  | cons first rest ih =>
      cases j with
      | zero =>
          rw [List.getElem?_cons_zero, Option.some.injEq] at hjson
          subst hjson
          exact ((h.under (.index i)).map List.cons).seq_left _
      | succ j =>
          rw [List.getElem?_cons_succ] at hjson
          have hrest := ih hjson (i + 1)
          rw [Nat.add_right_comm] at hrest
          exact hrest.seq_right _

end Reports

end FormIntake.Checked
