import FormIntake.Number
import Mathlib.Algebra.Order.Ring.Rat
import Mathlib.Order.WithBot
import Mathlib.Tactic.FieldSimp
import Mathlib.Tactic.Linarith
import Mathlib.Tactic.Positivity
/-!
# The order of numbers

Whole numbers and doubles are compared by their exact values. The values lie
on the line of rationals with an infinity at either end; NaN has none, so
nothing is below or above it.
-/

namespace FormIntake.Number

/-- The rationals with an infinity at either end. -/
abbrev Line := WithBot (WithTop ℚ)

/-- The exact value of a number; NaN has none. -/
def value? : Number → Option Line
  | int n => some ((n : ℚ) : WithTop ℚ)
  | double .nan => none
  | double (.infinite true) => some ⊥
  | double (.infinite false) => some (⊤ : WithTop ℚ)
  | double (.finite negative units) =>
    some (((Double.signedUnits negative units : ℚ) / Double.one : ℚ) : WithTop ℚ)

def Below (x y : Number) : Prop :=
  ∃ a b, x.value? = some a ∧ y.value? = some b ∧ a < b

def ofUnits (n : Int) : Line :=
  (((n : ℚ) / Double.one : ℚ) : WithTop ℚ)

private theorem one_pos : (0 : ℚ) < (Double.one : ℕ) := by
  have h : 0 < Double.one := by decide +kernel
  exact_mod_cast h

theorem ofUnits_lt_iff (m n : Int) : ofUnits m < ofUnits n ↔ m < n := by
  unfold ofUnits
  rw [WithBot.coe_lt_coe, WithTop.coe_lt_coe, div_lt_div_iff_of_pos_right one_pos]
  exact Int.cast_lt

private theorem bot_lt_ofUnits (n : Int) : ⊥ < ofUnits n :=
  WithBot.bot_lt_coe _

private theorem ofUnits_lt_top (n : Int) : ofUnits n < (⊤ : WithTop ℚ) :=
  WithBot.coe_lt_coe.2 (WithTop.coe_lt_top _)

def Exact.place? : Exact → Option Line
  | nan => none
  | below => some ⊥
  | units n => some (ofUnits n)
  | above => some (⊤ : WithTop ℚ)

theorem Exact.place?_injective : Function.Injective Exact.place? := by
  have hunits : ∀ m n, ofUnits m = ofUnits n → m = n := by
    intro m n h
    apply le_antisymm
    · exact Int.not_lt.1 fun hlt => absurd h ((ofUnits_lt_iff n m).2 hlt).ne'
    · exact Int.not_lt.1 fun hlt => absurd h ((ofUnits_lt_iff m n).2 hlt).ne
  intro x y h
  match x, y, h with
  | nan, nan, _ | below, below, _ | above, above, _ => rfl
  | units m, units n, h => rw [hunits m n (Option.some.inj h)]
  | below, units n, h => exact absurd (Option.some.inj h) (bot_lt_ofUnits n).ne
  | units m, below, h => exact absurd (Option.some.inj h) (bot_lt_ofUnits m).ne'
  | units m, above, h => exact absurd (Option.some.inj h) (ofUnits_lt_top m).ne
  | above, units n, h => exact absurd (Option.some.inj h) (ofUnits_lt_top n).ne'
  | below, above, h => exact absurd (Option.some.inj h) (WithBot.bot_lt_coe _).ne
  | above, below, h => exact absurd (Option.some.inj h) (WithBot.bot_lt_coe _).ne'

theorem place?_exact (x : Number) : x.exact.place? = x.value? := by
  match x with
  | int n =>
    have h := one_pos
    simp only [exact, Exact.place?, ofUnits, value?]
    push_cast
    rw [mul_div_assoc, div_self h.ne', mul_one]
  | double .nan => rfl
  | double (.infinite true) => rfl
  | double (.infinite false) => rfl
  | double (.finite _ _) => rfl

private theorem Exact.lt_iff (x y : Exact) :
    x.lt y = true ↔ ∃ a b, x.place? = some a ∧ y.place? = some b ∧ a < b := by
  cases x <;> cases y
  case units.above n => exact ⟨fun _ => ⟨_, _, rfl, rfl, ofUnits_lt_top n⟩, fun _ => rfl⟩
  all_goals simp [Exact.lt, Exact.place?, ofUnits_lt_iff, bot_lt_ofUnits]

theorem value?_eq_iff (x y : Number) : x.value? = y.value? ↔ x.exact = y.exact := by
  rw [← place?_exact, ← place?_exact]
  exact Exact.place?_injective.eq_iff

theorem lt_iff_below (x y : Number) : x.lt y = true ↔ x.Below y := by
  rw [lt, Exact.lt_iff, place?_exact, place?_exact]
  rfl

theorem below_iff {x y : Number} {a b : Line} (hx : x.value? = some a) (hy : y.value? = some b) :
    x.Below y ↔ a < b := by
  simp [Below, hx, hy]

theorem value?_eq_none_iff (x : Number) : x.value? = none ↔ x.isNan = true := by
  match x with
  | double .nan => exact ⟨fun _ => rfl, fun _ => rfl⟩
  | int _ | double (.infinite true) | double (.infinite false) | double (.finite _ _) =>
    constructor
    · intro h
      cases h
    · intro h
      cases h

end FormIntake.Number
