import FormIntake.Json.Basic
import FormIntake.Problem
/-!
# Checked values

The outcome of reading a value out of a document. Readings that stand side by
side add up their problems in order. One kind of outcome is no problem of the
document: a pattern whose counts or groups are more than its compiler can hold
ends the whole reading, whatever else was found.
-/

namespace FormIntake

inductive Checked (α : Type) where
  | accepted (value : α)
  | rejected (problems : List Problem)
  | overflow

namespace Checked

variable {α β : Type}

def reject (cause : Cause) : Checked α :=
  rejected [⟨[], cause⟩]

protected def map (f : α → β) : Checked α → Checked β
  | accepted a => accepted (f a)
  | rejected problems => rejected problems
  | overflow => overflow

/-- Both readings, with the problems of the first before those of the second. -/
def both : Checked α → Checked β → Checked (α × β)
  | overflow, _ => overflow
  | _, overflow => overflow
  | accepted a, accepted b => accepted (a, b)
  | accepted _, rejected q => rejected q
  | rejected p, accepted _ => rejected p
  | rejected p, rejected q => rejected (p ++ q)

instance : Applicative Checked where
  pure := accepted
  map := Checked.map
  seq f x := (f.both (x ())).map fun (f, a) => f a

def andThen (f : α → Checked β) : Checked α → Checked β
  | accepted a => f a
  | rejected problems => rejected problems
  | overflow => overflow

/-- Places the problems one step further in. -/
def under (step : PathStep) : Checked α → Checked α
  | rejected problems => rejected (problems.map (Problem.under step))
  | other => other

def require (condition : Bool) (cause : Cause) : Checked Unit :=
  if condition then accepted () else reject cause

def value? : Checked α → Option α
  | accepted a => some a
  | _ => none

/-- Reads the items of a list, the first of them under the given index. -/
def items (read : Json → Checked α) (i : Nat) : List Json → Checked (List α)
  | [] => accepted []
  | item :: rest => List.cons <$> (read item).under (.index i) <*> items read (i + 1) rest

def unlessNull (read : Json → Checked α) : Json → Checked (Option α)
  | .null => accepted none
  | json => some <$> read json

end Checked

end FormIntake
