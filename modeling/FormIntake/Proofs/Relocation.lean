import FormIntake.Checked
import Mathlib.Data.List.Basic
/-!
# Relocated problems

An outcome is relocated by moving each of its problems to another place. A
reading put together from others is relocated part by part, so what one part of
a document does to the places of its problems carries over to the whole.
-/

namespace FormIntake

/-! ## Places -/

namespace PathStep

/-- The place of a problem: the steps to it from the outside in. -/
abbrev Place := List PathStep

def inMember (name : Text) (move : Place → Place) : Place → Place
  | .key k :: rest => .key k :: if k = name then move rest else rest
  | place => place

def inItem (move : Nat → Place → Place) : Place → Place
  | .index i :: rest => .index i :: move i rest
  | place => place

def inside (move : Place → Place) : Place → Place
  | step :: rest => step :: move rest
  | [] => []

def renamed (f : Text → Text) : Place → Place
  | .key name :: rest => .key (f name) :: rest
  | place => place

end PathStep

def Problem.relocate (move : PathStep.Place → PathStep.Place) (p : Problem) : Problem :=
  { p with path := move p.path }

namespace Checked

variable {α β : Type}

def relocate (move : PathStep.Place → PathStep.Place) : Checked α → Checked α
  | rejected problems => rejected (problems.map (Problem.relocate move))
  | other => other

/-! ## Parts of a reading -/

section

variable (move : PathStep.Place → PathStep.Place)

@[simp] theorem relocate_map (f : α → β) (x : Checked α) :
    (f <$> x).relocate move = f <$> x.relocate move := by
  change (x.map f).relocate move = (x.relocate move).map f
  cases x <;> rfl

@[simp] theorem relocate_seq (f : Checked (α → β)) (x : Checked α) :
    (f <*> x).relocate move = f.relocate move <*> x.relocate move := by
  change ((f.both x).map _).relocate move = ((f.relocate move).both (x.relocate move)).map _
  cases f <;> cases x <;> simp [relocate, both, Checked.map]

@[simp] theorem relocate_seqLeft (x : Checked α) (y : Checked β) :
    (x <* y).relocate move = x.relocate move <* y.relocate move := by
  change (Function.const β <$> x <*> y).relocate move = Function.const β <$> x.relocate move <*> _
  rw [relocate_seq, relocate_map]

theorem relocate_andThen (x : Checked α) (f : α → Checked β) :
    (x.andThen f).relocate move = (x.relocate move).andThen fun a => (f a).relocate move := by
  cases x <;> rfl

/-- A problem with a value as a whole stays where it is. -/
theorem relocate_reject {move : PathStep.Place → PathStep.Place} (h : move [] = [])
    (cause : Cause) : (reject cause : Checked α).relocate move = reject cause := by
  simp [reject, relocate, Problem.relocate, h]

end

theorem relocate_under (move inner : PathStep.Place → PathStep.Place) {step moved : PathStep}
    (h : ∀ place, move (step :: place) = moved :: inner place) (x : Checked α) :
    (x.under step).relocate move = (x.relocate inner).under moved := by
  cases x with
  | rejected problems =>
      simp only [under, relocate, List.map_map, rejected.injEq]
      apply List.map_congr_left
      intro p _
      simp [Problem.relocate, Problem.under, h]
  | accepted _ | overflow => rfl

@[simp] theorem relocate_id (x : Checked α) : x.relocate id = x := by
  cases x with
  | rejected problems => exact congrArg rejected (List.map_id problems)
  | accepted _ | overflow => rfl

@[simp] theorem relocate_under_name (f : Text → Text) (name : Text) (x : Checked α) :
    (x.under (.key name)).relocate (PathStep.renamed f) = x.under (.key (f name)) := by
  rw [relocate_under (PathStep.renamed f) id fun _ => rfl, relocate_id]

@[simp] theorem relocate_under_member (name : Text) (move : PathStep.Place → PathStep.Place)
    (x : Checked α) :
    (x.under (.key name)).relocate (PathStep.inMember name move) =
      (x.relocate move).under (.key name) :=
  relocate_under _ move (fun _ => by simp [PathStep.inMember]) x

theorem relocate_under_other {key name : Text} (h : key ≠ name)
    (move : PathStep.Place → PathStep.Place) (x : Checked α) :
    (x.under (.key key)).relocate (PathStep.inMember name move) = x.under (.key key) := by
  have hplace : ∀ place, PathStep.inMember name move (.key key :: place) = .key key :: place :=
    fun _ => by simp [PathStep.inMember, h]
  rw [relocate_under (PathStep.inMember name move) id hplace, relocate_id]

@[simp] theorem relocate_under_item (i : Nat) (move : Nat → PathStep.Place → PathStep.Place)
    (x : Checked α) :
    (x.under (.index i)).relocate (PathStep.inItem move) = (x.relocate (move i)).under (.index i) :=
  relocate_under _ (move i) (fun _ => rfl) x

@[simp] theorem relocate_under_inside (step : PathStep) (move : PathStep.Place → PathStep.Place)
    (x : Checked α) :
    (x.under step).relocate (PathStep.inside move) = (x.relocate move).under step :=
  relocate_under _ move (fun _ => rfl) x

theorem items_relocate {read : Json → Checked α} {change : Nat → Json → Json}
    {move : Nat → PathStep.Place → PathStep.Place} (i : Nat) (list : List Json)
    (h : ∀ j item, list[j]? = some item →
      read (change (i + j) item) = (read item).relocate (move (i + j))) :
    items read i (list.mapIdx fun j => change (i + j)) =
      (items read i list).relocate (PathStep.inItem move) := by
  induction list generalizing i with
  | nil => rfl
  | cons item rest ih =>
      have hfirst : read (change i item) = (read item).relocate (move i) := h 0 item rfl
      have hrest := ih (i + 1) fun j next hnext => by
        rw [Nat.add_right_comm, Nat.add_assoc]
        exact h (j + 1) next hnext
      simp only [Nat.add_right_comm i 1, Nat.add_assoc] at hrest
      rw [List.mapIdx_cons, items, items, Nat.add_zero, hrest, hfirst, relocate_seq, relocate_map,
        relocate_under_item]

end Checked

end FormIntake
