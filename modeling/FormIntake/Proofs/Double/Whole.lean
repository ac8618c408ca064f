import FormIntake.Proofs.Double.Nearest
/-!
# Whole numbers among the doubles

Up to `2 ^ 53` every whole number is a double, so rounding does not pass one.
From there on every double is a whole number. What lies halfway between the
greatest finite double and the one that would follow is beyond the range.
-/

namespace FormIntake.Double

def quotientBound : Nat := (Nat.pow 2 54 - 1) * Nat.pow 2 970

theorem Nearest.le_of_ge {place : ℚ} {units v : Nat} (h : Nearest place units)
    (hv : Representable v) (hle : place ≤ v) : units ≤ v := by
  by_contra hlt
  have hcast : (v : ℚ) < units := Nat.cast_lt.2 (Nat.lt_of_not_le hlt)
  have hnear := h.le v hv
  rw [abs_of_nonpos (by linarith), abs_of_nonpos (by linarith)] at hnear
  linarith

/-! ## Whole numbers -/

theorem representable_whole {n : Nat} (h : n ≤ exactBound) : Representable (n * one) := by
  obtain ⟨k, hone⟩ : ∃ k, one = 2 ^ k := ⟨1074, by decide +kernel⟩
  rw [hone]
  exact representable_mul h k

/-- A rounded quotient does not leave the whole numbers that it lies between. -/
theorem roundUnits_between {num den n : Nat} (hden : 0 < den) (hn : n < exactBound)
    (hlow : n * den ≤ num) (hhigh : num ≤ (n + 1) * den) :
    n * one ≤ roundUnits (num * one) den ∧ roundUnits (num * one) den ≤ (n + 1) * one := by
  have hdenPos : (0 : ℚ) < den := Nat.cast_pos.2 hden
  have hnearest := nearest_quotient num hden
  constructor
  · apply hnearest.le_of_le (representable_whole hn.le)
    rw [Nat.cast_mul, mul_le_mul_iff_of_pos_right castOne_pos, le_div_iff₀ hdenPos]
    exact_mod_cast hlow
  · apply hnearest.le_of_ge (representable_whole hn)
    rw [Nat.cast_mul, mul_le_mul_iff_of_pos_right castOne_pos, div_le_iff₀ hdenPos]
    exact_mod_cast hhigh

theorem nearest_zero_iff {place : ℚ} (hnonneg : 0 ≤ place) : Nearest place 0 ↔ 2 * place ≤ 1 := by
  constructor
  · intro h
    have hnear := h.le 1 ⟨1, 0, by decide, rfl⟩
    rw [Nat.cast_zero, sub_zero, Nat.cast_one, abs_of_nonneg hnonneg] at hnear
    rcases abs_cases (place - 1) with ⟨habs, -⟩ | ⟨habs, -⟩
    · linarith
    · linarith
  · exact nearest_zero hnonneg

theorem roundUnits_pos_iff (num : Nat) {den : Nat} (hden : 0 < den) :
    0 < roundUnits (num * one) den ↔ den < 2 ^ 1075 * num := by
  have hnearest := nearest_quotient num hden
  have hplace : (0 : ℚ) ≤ (num : ℚ) / den * one :=
    mul_nonneg (div_nonneg (Nat.cast_nonneg num) (Nat.cast_nonneg den)) castOne_pos.le
  have htwo : 2 ^ 1075 = 2 * one := by decide +kernel
  have hhalf : 2 * ((num : ℚ) / den * one) ≤ 1 ↔ 2 ^ 1075 * num ≤ den := by
    rw [div_mul_eq_mul_div, ← mul_div_assoc, div_le_one (Nat.cast_pos.2 hden), htwo,
      Nat.mul_assoc, Nat.mul_comm one]
    exact_mod_cast Iff.rfl
  rw [Nat.pos_iff_ne_zero, ← Nat.not_le, not_iff_not, ← hhalf, ← nearest_zero_iff hplace]
  constructor
  · intro hzero
    rwa [hzero] at hnearest
  · exact hnearest.unique

/-! ## The end of the range -/

/-- Halfway between two doubles, rounding goes up if the lower one has last bit 1. -/
theorem Nearest.step_le_iff {place : ℚ} {units q : Nat} (k : Nat) (h : Nearest place units)
    (hlow : 2 ^ 52 ≤ q) (hhigh : q < 2 ^ 53) (hodd : q % 2 = 1) :
    (q + 1) * 2 ^ k ≤ units ↔ (((2 * q + 1) * 2 ^ k : Nat) : ℚ) ≤ 2 * place := by
  have hgap : ∀ v, Representable v → v ≤ q * 2 ^ k ∨ (q + 1) * 2 ^ k ≤ v := by
    intro v hv
    have hsides := hv.le_or_le (n := q * 2 ^ k) (Or.inr (Nat.mul_le_mul_right _ hlow))
    rwa [Nat.mul_div_cancel _ (Nat.two_pow_pos k)] at hsides
  have hless : q * 2 ^ k < (q + 1) * 2 ^ k :=
    Nat.mul_lt_mul_of_pos_right (Nat.lt_succ_self q) (Nat.two_pow_pos k)
  have hstep : (0 : ℚ) < 2 ^ k := by positivity
  have hmiddle : (((2 * q + 1) * 2 ^ k : Nat) : ℚ) = 2 * (q * 2 ^ k) + 2 ^ k := by
    push_cast
    ring
  rw [hmiddle]
  rcases lt_or_ge place (q * 2 ^ k) with hbelow | habove
  · have hunits : units ≤ q * 2 ^ k :=
      h.le_of_ge (representable_mul hhigh.le k) (by push_cast; exact hbelow.le)
    exact iff_of_false (by omega) (by linarith)
  rcases le_or_gt place (q * 2 ^ k + 2 ^ k) with hwithin | hbeyond
  · have hplace : (q : ℚ) * 2 ^ k + (place - q * 2 ^ k) = place := by ring
    have hnonneg : 0 ≤ place - q * 2 ^ k := sub_nonneg.2 habove
    have hpartLe : place - q * 2 ^ k ≤ 2 ^ k := sub_le_iff_le_add'.2 hwithin
    obtain ⟨hdown, hup, heven⟩ := nearest_of_part hhigh hgap hnonneg hpartLe
    rw [hplace] at hdown hup heven
    rw [hodd] at heven
    rcases lt_trichotomy (2 * (place - q * 2 ^ k)) (2 ^ k) with hpart | hpart | hpart
    · rw [h.unique (hdown hpart)]
      exact iff_of_false (by omega) (by linarith)
    · rw [h.unique (heven hpart)]
      exact iff_of_true le_rfl (by linarith)
    · rw [h.unique (hup hpart)]
      exact iff_of_true le_rfl (by linarith)
  · have hunits : (q + 1) * 2 ^ k ≤ units :=
      h.le_of_le (representable_mul (Nat.succ_le_of_lt hhigh) k) (by push_cast; linarith)
    exact iff_of_true hunits (by linarith)

theorem Nearest.bound_le_iff {place : ℚ} {units : Nat} (h : Nearest place units) :
    bound ≤ units ↔ (quotientBound : ℚ) * one ≤ place := by
  have hbound : (2 ^ 53 - 1 + 1) * 2 ^ 2045 = bound := by decide +kernel
  have hmiddle : (2 * (2 ^ 53 - 1) + 1) * 2 ^ 2045 = 2 * (quotientBound * one) := by decide +kernel
  have hstep := h.step_le_iff (q := 2 ^ 53 - 1) 2045 (by decide) (by decide) (by decide)
  rw [hbound, hmiddle, Nat.cast_mul, Nat.cast_mul] at hstep
  rw [hstep]
  exact mul_le_mul_iff_of_pos_left two_pos

theorem bound_le_roundUnits_iff (num : Nat) {den : Nat} (hden : 0 < den) :
    bound ≤ roundUnits (num * one) den ↔ quotientBound * den ≤ num := by
  rw [(nearest_quotient num hden).bound_le_iff, mul_le_mul_iff_of_pos_right castOne_pos,
    le_div_iff₀ (Nat.cast_pos.2 hden)]
  exact_mod_cast Iff.rfl

end FormIntake.Double
