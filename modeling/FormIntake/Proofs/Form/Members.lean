import FormIntake.Proofs.Form.Slots
import FormIntake.Proofs.Relocation
/-!
# Changed members

What the reader finds in an object whose members have got other names, or in
which the values of one name are changed: the problems of a changed value are
found again, at the places to which they have moved.
-/

namespace FormIntake

namespace Members

variable {members : Members} {f : Text → Text}

def renamed (f : Text → Text) (members : Members) : Members :=
  members.map fun (name, value) => (f name, value)

def changed (name : Text) (change : Json → Json) (members : Members) : Members :=
  members.map fun (key, value) => (key, if key = name then change value else value)

@[simp] theorem keys_renamed (f : Text → Text) (members : Members) :
    Assoc.keys (members.renamed f) = (Assoc.keys members).map f := by
  simp [Assoc.keys, renamed]

@[simp] theorem keys_changed (name : Text) (change : Json → Json) (members : Members) :
    Assoc.keys (members.changed name change) = Assoc.keys members := by
  simp [Assoc.keys, changed]

/-- A member is found by its new name if no other member has got that name too. -/
theorem get?_renamed {name : Text}
    (h : ∀ other ∈ Assoc.keys members, f other = f name → other = name) :
    Assoc.get? (members.renamed f) (f name) = Assoc.get? members name := by
  induction members with
  | nil => rfl
  | cons entry rest ih =>
      obtain ⟨key, value⟩ := entry
      have hrest := ih fun other hother => h other (List.mem_cons_of_mem _ hother)
      have hfirst := h key List.mem_cons_self
      by_cases hkey : key = name
      · simp [renamed, Assoc.get?, hkey]
      · have hne : f key ≠ f name := fun heq => hkey (hfirst heq)
        simpa [renamed, Assoc.get?, hkey, hne] using hrest

theorem get?_changed (name : Text) (change : Json → Json) (members : Members) (key : Text) :
    Assoc.get? (members.changed name change) key =
      (Assoc.get? members key).map fun value => if key = name then change value else value := by
  induction members with
  | nil => rfl
  | cons entry rest ih =>
      obtain ⟨first, value⟩ := entry
      by_cases hfirst : first = key
      · simp [changed, Assoc.get?, hfirst]
      · simpa [changed, Assoc.get?, hfirst] using ih

theorem find?_changed (name : Text) (change : Json → Json) (members : Members) (key : Key) :
    (members.changed name change).find? key =
      (members.find? key).map fun found =>
        (found.1, if found.1 = name then change found.2 else found.2) := by
  induction key with
  | nil => rfl
  | cons spelling key ih =>
      rw [find?_cons, find?_cons, ih, get?_changed]
      cases Assoc.get? members spelling <;> rfl

theorem find?_congr {other : Members} {key : Key}
    (h : ∀ name ∈ key, Assoc.get? other name = Assoc.get? members name) :
    other.find? key = members.find? key := by
  induction key with
  | nil => rfl
  | cons spelling key ih =>
      rw [find?_cons, find?_cons, h spelling List.mem_cons_self,
        ih fun name hname => h name (List.mem_cons_of_mem _ hname)]

theorem others_changed (name : Text) (change : Json → Json) (members : Members)
    (keys : List Key) :
    (members.changed name change).others keys = members.others keys := by
  have hknown : ∀ key, ((members.changed name change).find? key).map Prod.fst =
      (members.find? key).map Prod.fst := by
    intro key
    rw [find?_changed, Option.map_map]
    rfl
  simp only [others, keys_changed, hknown]

/-! ## Places of problems -/

section

variable {α : Type} {name : Text} {change : Json → Json}
  {move : PathStep.Place → PathStep.Place} {read : Json → Checked α}

theorem given_changed (default : α)
    (h : ∀ value, Assoc.get? members name = some value →
      read (change value) = (read value).relocate move) :
    (members.changed name change).given [name] default read =
      (members.given [name] default read).relocate (PathStep.inMember name move) := by
  rw [given, given, find?_changed, find?_singleton]
  cases hget : Assoc.get? members name with
  | none => rfl
  | some value => simp [h value hget]

theorem given_changed_other {key : Key} (hkey : name ∉ key) (default : α) :
    (members.changed name change).given key default read =
      (members.given key default read).relocate (PathStep.inMember name move) := by
  rw [given, given, find?_changed]
  cases hfind : members.find? key with
  | none => rfl
  | some found =>
      have hne : found.1 ≠ name := fun heq => hkey (heq ▸ (find?_eq_some hfind).1)
      simp [hne, Checked.relocate_under_other hne]

theorem needed_changed
    (h : ∀ value, Assoc.get? members name = some value →
      read (change value) = (read value).relocate move) (hmove : move [] = []) :
    (members.changed name change).needed name read =
      (members.needed name read).relocate (PathStep.inMember name move) := by
  rw [needed, needed, get?_changed]
  cases hget : Assoc.get? members name with
  | none => simp [Checked.relocate_reject hmove]
  | some value => simp [h value hget]

theorem needed_changed_other {key : Text} (hkey : key ≠ name) :
    (members.changed name change).needed key read =
      (members.needed key read).relocate (PathStep.inMember name move) := by
  rw [needed, needed, get?_changed]
  cases Assoc.get? members key <;> simp [hkey, Checked.relocate_under_other hkey]

theorem nothingElse_changed (hmove : move [] = []) (keys : List Key) :
    (members.changed name change).nothingElse keys =
      (members.nothingElse keys).relocate (PathStep.inMember name move) := by
  rw [nothingElse, nothingElse, others_changed]
  cases members.others keys with
  | nil => rfl
  | cons first rest => simp [Checked.relocate, Problem.relocate, PathStep.inMember, hmove]

end

/-! ## Reported problems -/

section

variable {α : Type} {name : Text} {value : Json} {read : Json → Checked α} {p : Problem}

theorem reports_needed (hget : Assoc.get? members name = some value)
    (h : Checked.Reports p (read value)) :
    Checked.Reports (p.under (.key name)) (members.needed name read) := by
  rw [needed, hget]
  exact h.under (.key name)

theorem reports_nothingElse {keys : List Key} (h : name ∈ members.others keys) :
    Checked.Reports ⟨[.key name], .unexpectedKey⟩ (members.nothingElse keys) := by
  unfold nothingElse
  split
  · rename_i hnone
    rw [hnone] at h
    cases h
  · exact List.mem_map_of_mem h

end

end Members

end FormIntake
