import FormIntake.Double.Basic
import Mathlib.Tactic.Linarith
/-!
# Quotients

The double nearest to a quotient of two whole numbers. As long as the dividend
is exact as a double, rounding is too small to be seen when the quotient is
rounded up afterwards: it moves the quotient by less than the distance that
keeps it from the whole number below.
-/

namespace FormIntake.Double

/-- Whole numbers below this one are doubles, all of them. -/
def exactBound : Nat := Nat.pow 2 53

/-- A quotient of a whole number by at most this one has the full number of bits. -/
def divisorBound : Nat := Nat.pow 2 1022

theorem zero_lt_one : 0 < one := by
  decide +kernel

/-! ## Rounding to a whole number -/

theorem le_roundHalfEven (num : Nat) {den : Nat} (hden : 0 < den) :
    2 * num ≤ 2 * (den * roundHalfEven num den) + den := by
  have hsplit := Nat.div_add_mod num den
  have hrest := Nat.mod_lt num hden
  simp only [roundHalfEven]
  split
  · omega
  · split <;> rw [Nat.mul_add] <;> omega

/-! ## Neighbouring doubles -/

theorem spacing_pos (units : Nat) : 0 < spacing units :=
  Nat.pow_pos (by decide)

theorem spacing_mul_le {units : Nat} (h : Nat.pow 2 52 ≤ units) :
    spacing units * Nat.pow 2 52 ≤ units := by
  have hne : units ≠ 0 := by
    have hpos : 0 < Nat.pow 2 52 := by decide
    omega
  have hlog : 52 ≤ Nat.log2 units := (Nat.le_log2 hne).2 h
  calc
    spacing units * Nat.pow 2 52 = Nat.pow 2 (Nat.log2 units - 52 + 52) :=
      (Nat.pow_add 2 _ _).symm
    _ = Nat.pow 2 (Nat.log2 units) := by rw [Nat.sub_add_cancel hlog]
    _ ≤ units := Nat.log2_self_le hne

/-! ## Quotients between whole numbers -/

theorem le_quotient {total limit : Nat} (htotal : 1 ≤ total) (hlimit : 1 ≤ limit)
    (hbound : limit ≤ divisorBound) : Nat.pow 2 52 ≤ total * one / limit := by
  rw [Nat.le_div_iff_mul_le hlimit]
  have hone : Nat.pow 2 52 * divisorBound = one := by decide +kernel
  calc
    Nat.pow 2 52 * limit ≤ Nat.pow 2 52 * divisorBound := Nat.mul_le_mul_left _ hbound
    _ = one := hone
    _ ≤ total * one := Nat.le_mul_of_pos_left one htotal

/-- The rounded quotient does not fall back to the whole number below: that is too far away for
a dividend of 53 bits. -/
theorem mul_one_lt_roundUnits {total limit pages : Nat} (hlimit : 1 ≤ limit)
    (htotal : total < exactBound) (hquotient : Nat.pow 2 52 ≤ total * one / limit)
    (h : pages * limit < total) : pages * one < roundUnits (total * one) limit := by
  by_contra hle
  have hspacing : limit * (spacing (total * one / limit) * Nat.pow 2 52) ≤ total * one :=
    (Nat.mul_le_mul_left _ (spacing_mul_le hquotient)).trans (Nat.mul_div_le _ _)
  have hround := le_roundHalfEven (total * one)
    (Nat.mul_pos hlimit (spacing_pos (total * one / limit)))
  simp only [roundUnits] at hle
  generalize spacing (total * one / limit) = step at hle hspacing hround
  generalize roundHalfEven (total * one) (limit * step) = rounded at hle hround
  -- the quotient is one limit-th or more above, and rounding moves it by half a step at most
  have hgap : 2 * one ≤ limit * step := by
    have hbelow : limit * (step * rounded) ≤ limit * (pages * one) :=
      Nat.mul_le_mul_left _ (Nat.le_of_not_lt hle)
    have habove : (pages * limit + 1) * one ≤ total * one := Nat.mul_le_mul_right _ h
    linarith
  have hwide : exactBound * one ≤ total * one := by
    calc
      exactBound * one = 2 * one * Nat.pow 2 52 := by
        have hexact : exactBound = 2 * Nat.pow 2 52 := by decide
        rw [hexact, Nat.mul_right_comm]
      _ ≤ limit * step * Nat.pow 2 52 := Nat.mul_le_mul_right _ hgap
      _ = limit * (step * Nat.pow 2 52) := Nat.mul_assoc _ _ _
      _ ≤ total * one := hspacing
  exact absurd htotal (Nat.not_lt.2 (Nat.le_of_mul_le_mul_right hwide zero_lt_one))

theorem ceil?_finite {units pages : Nat} (hlow : pages * one < units + one)
    (hhigh : units ≤ pages * one) : (finite false units).ceil? = some (pages : Int) := by
  simp only [ceil?, signedUnits, Bool.false_eq_true, if_false, Option.some.injEq]
  have hone : (0 : Int) < one := Int.natCast_pos.2 zero_lt_one
  have hquotient : -(units : Int) / one = -pages := by
    generalize one = unit at hlow hhigh hone ⊢
    apply le_antisymm
    · apply Int.le_of_lt_add_one
      apply Int.ediv_lt_of_lt_mul hone
      push_cast [← Int.ofNat_lt] at hlow
      linarith
    · apply Int.le_ediv_of_mul_le hone
      push_cast [← Int.ofNat_le] at hhigh
      linarith
  rw [hquotient, Int.neg_neg]

end FormIntake.Double
