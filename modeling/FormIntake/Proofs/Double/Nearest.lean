import FormIntake.Proofs.Double.Quotient
import Mathlib.Algebra.Order.Field.Power
import Mathlib.Algebra.Order.Field.Rat
import Mathlib.Algebra.Order.Ring.Abs
import Mathlib.Tactic.FieldSimp
import Mathlib.Tactic.Linarith
import Mathlib.Tactic.Positivity
import Mathlib.Tactic.Ring
/-!
# Correct rounding

The double nearest to a rational number, said by the distances of all doubles
from it: none is nearer, and of two that are equally near it is the one whose
last bit is 0. There is exactly one, and quotients and decimals are rounded to
it. The range is taken to have no end while a double is looked for; what comes
out beyond it is infinite.
-/

namespace FormIntake.Double

/-- The units of a double, as if the range had no end: 53 bits, and zeros behind them. -/
def Representable (units : Nat) : Prop :=
  ∃ m k, m < 2 ^ 53 ∧ units = m * 2 ^ k

def EndsEven (units : Nat) : Prop :=
  ∃ m k, 2 * m < 2 ^ 53 ∧ units = 2 * m * 2 ^ k

/-- The units nearest to a place between units, ties to even. -/
structure Nearest (place : ℚ) (units : Nat) : Prop where
  representable : Representable units
  le : ∀ v, Representable v → |place - units| ≤ |place - v|
  even : ∀ v, Representable v → v ≠ units → |place - v| = |place - units| → EndsEven units

inductive Rounds (negative : Bool) (magnitude : ℚ) : Double → Prop
  | finite {units : Nat} (h : Nearest (magnitude * one) units) (hlt : units < bound) :
      Rounds negative magnitude (finite negative units)
  | infinite {units : Nat} (h : Nearest (magnitude * one) units) (hle : bound ≤ units) :
      Rounds negative magnitude (infinite negative)

/-! ## Doubles among the units -/

theorem representable_mul {m : Nat} (h : m ≤ 2 ^ 53) (k : Nat) : Representable (m * 2 ^ k) := by
  by_cases hlt : m < 2 ^ 53
  · exact ⟨m, k, hlt, rfl⟩
  · have hm : m = 2 ^ 53 := by omega
    refine ⟨1, 53 + k, by decide, ?_⟩
    rw [hm, Nat.one_mul, Nat.pow_add]

theorem endsEven_mul {m : Nat} (h : 2 * m ≤ 2 ^ 53) (k : Nat) : EndsEven (2 * m * 2 ^ k) := by
  by_cases hlt : 2 * m < 2 ^ 53
  · exact ⟨m, k, hlt, rfl⟩
  · have hm : 2 * m = 2 ^ 53 := by omega
    refine ⟨1, 52 + k, by decide, ?_⟩
    rw [hm, Nat.pow_add, ← Nat.mul_assoc]
    rfl

theorem representable_zero : Representable 0 :=
  ⟨0, 0, by decide, rfl⟩

theorem representable_bound : Representable bound :=
  ⟨1, 2098, by decide, by decide +kernel⟩

/-- What needs more than `52 + k` bits ends in `k` zeros. -/
theorem Representable.dvd {units k : Nat} (h : Representable units) (hlt : 2 ^ 52 * 2 ^ k < units) :
    2 ^ k ∣ units := by
  obtain ⟨m, l, hm, rfl⟩ := h
  have hpow : 2 ^ (52 + k) < 2 ^ (53 + l) := by
    calc
      2 ^ (52 + k) = 2 ^ 52 * 2 ^ k := Nat.pow_add _ _ _
      _ < m * 2 ^ l := hlt
      _ ≤ 2 ^ 53 * 2 ^ l := Nat.mul_le_mul_right _ (Nat.le_of_lt hm)
      _ = 2 ^ (53 + l) := (Nat.pow_add _ _ _).symm
  have hexponent := (Nat.pow_lt_pow_iff_right (by decide)).1 hpow
  exact Dvd.dvd.mul_left (Nat.pow_dvd_pow 2 (by omega)) m

theorem exists_spacing (n : Nat) : ∃ k, spacing n = 2 ^ k ∧ n < 2 ^ 53 * 2 ^ k ∧
    (k = 0 ∨ 2 ^ 52 * 2 ^ k ≤ n) := by
  refine ⟨Nat.log2 n - 52, rfl, ?_, ?_⟩
  · calc
      n < 2 ^ (Nat.log2 n + 1) := Nat.lt_log2_self
      _ ≤ 2 ^ (53 + (Nat.log2 n - 52)) := Nat.pow_le_pow_right (by decide) (by omega)
      _ = 2 ^ 53 * 2 ^ (Nat.log2 n - 52) := Nat.pow_add _ _ _
  · by_cases hlarge : 2 ^ 52 ≤ n
    · right
      rw [Nat.mul_comm]
      exact spacing_mul_le hlarge
    · left
      by_cases hzero : n = 0
      · rw [hzero]
        decide
      · have hlog := (Nat.log2_lt hzero).2 (Nat.lt_of_not_le hlarge)
        omega

/-- There is no double between two multiples of the spacing that enclose a number of units. -/
theorem Representable.le_or_le {n k v : Nat} (hv : Representable v)
    (hk : k = 0 ∨ 2 ^ 52 * 2 ^ k ≤ n) :
    v ≤ n / 2 ^ k * 2 ^ k ∨ (n / 2 ^ k + 1) * 2 ^ k ≤ v := by
  by_cases hle : v ≤ n / 2 ^ k * 2 ^ k
  · exact Or.inl hle
  · right
    have hpos : 0 < 2 ^ k := Nat.two_pow_pos k
    have hdvd : 2 ^ k ∣ v := by
      rcases hk with rfl | hn
      · exact one_dvd v
      · have hquotient : 2 ^ 52 ≤ n / 2 ^ k := (Nat.le_div_iff_mul_le hpos).2 hn
        apply hv.dvd
        exact Nat.lt_of_le_of_lt (Nat.mul_le_mul_right _ hquotient) (Nat.lt_of_not_le hle)
    obtain ⟨w, rfl⟩ := hdvd
    rw [Nat.mul_comm (2 ^ k) w] at hle ⊢
    have hlt := Nat.lt_of_mul_lt_mul_right (Nat.lt_of_not_le hle)
    exact Nat.mul_le_mul_right _ hlt

/-! ## Nearest doubles -/

section

variable {place : ℚ} {low high : Nat}
  (hgap : ∀ v, Representable v → v ≤ low ∨ high ≤ v)

include hgap

theorem nearest_below (hlow : (low : ℚ) ≤ place) (hrepresentable : Representable low)
    (hnear : place - low ≤ high - place) (heven : place - low = high - place → EndsEven low) :
    Nearest place low := by
  have hdistance : |place - low| = place - low := abs_of_nonneg (sub_nonneg.2 hlow)
  refine ⟨hrepresentable, ?_, ?_⟩
  · intro v hv
    rw [hdistance]
    rcases hgap v hv with hle | hle
    · have hcast : (v : ℚ) ≤ low := Nat.cast_le.2 hle
      exact le_trans (by linarith) (le_abs_self (place - v))
    · have hcast : (high : ℚ) ≤ v := Nat.cast_le.2 hle
      exact le_trans (by linarith) (neg_le_abs (place - v))
  · intro v hv hne htie
    rw [hdistance] at htie
    rcases hgap v hv with hle | hle
    · have hcast : (v : ℚ) < low := Nat.cast_lt.2 (Nat.lt_of_le_of_ne hle hne)
      have hself := le_abs_self (place - v)
      linarith
    · have hcast : (high : ℚ) ≤ v := Nat.cast_le.2 hle
      have hself := neg_le_abs (place - v)
      exact heven (le_antisymm hnear (by linarith))

theorem nearest_above (hhigh : place ≤ high) (hrepresentable : Representable high)
    (hnear : high - place ≤ place - low) (heven : high - place = place - low → EndsEven high) :
    Nearest place high := by
  have hdistance : |place - high| = high - place := by
    rw [abs_sub_comm]
    exact abs_of_nonneg (sub_nonneg.2 hhigh)
  refine ⟨hrepresentable, ?_, ?_⟩
  · intro v hv
    rw [hdistance]
    rcases hgap v hv with hle | hle
    · have hcast : (v : ℚ) ≤ low := Nat.cast_le.2 hle
      exact le_trans (by linarith) (le_abs_self (place - v))
    · have hcast : (high : ℚ) ≤ v := Nat.cast_le.2 hle
      exact le_trans (by linarith) (neg_le_abs (place - v))
  · intro v hv hne htie
    rw [hdistance] at htie
    rcases hgap v hv with hle | hle
    · have hcast : (v : ℚ) ≤ low := Nat.cast_le.2 hle
      have hself := le_abs_self (place - v)
      exact heven (le_antisymm hnear (by linarith))
    · have hcast : (high : ℚ) < v := Nat.cast_lt.2 (Nat.lt_of_le_of_ne hle hne.symm)
      have hself := neg_le_abs (place - v)
      linarith

end

/-- A place a part of a step above a double is rounded down below the middle of the step, up above
it, and in the middle to the even one. -/
theorem nearest_of_part {q k : Nat} {part : ℚ} (hbits : q < 2 ^ 53)
    (hgap : ∀ v, Representable v → v ≤ q * 2 ^ k ∨ (q + 1) * 2 ^ k ≤ v)
    (hnonneg : 0 ≤ part) (hless : part ≤ 2 ^ k) :
    (2 * part < 2 ^ k → Nearest (q * 2 ^ k + part) (q * 2 ^ k)) ∧
    (2 ^ k < 2 * part → Nearest (q * 2 ^ k + part) ((q + 1) * 2 ^ k)) ∧
    (2 * part = 2 ^ k → Nearest (q * 2 ^ k + part) ((q + q % 2) * 2 ^ k)) := by
  have hlow : ((q * 2 ^ k : Nat) : ℚ) = q * 2 ^ k := by
    push_cast
    rfl
  have hhigh : (((q + 1) * 2 ^ k : Nat) : ℚ) = q * 2 ^ k + 2 ^ k := by
    push_cast
    ring
  have hlowBits := representable_mul hbits.le k
  have hhighBits := representable_mul (Nat.succ_le_of_lt hbits) k
  refine ⟨?_, ?_, ?_⟩
  · intro hpart
    apply nearest_below hgap (by linarith) hlowBits (by linarith)
    intro htie
    linarith
  · intro hpart
    apply nearest_above hgap (by linarith) hhighBits (by linarith)
    intro htie
    linarith
  · intro hpart
    rcases Nat.mod_two_eq_zero_or_one q with heven | hodd
    · rw [heven]
      apply nearest_below hgap (by linarith) hlowBits (by linarith)
      intro _
      have hq : q = 2 * (q / 2) := by omega
      rw [hq]
      exact endsEven_mul (by omega) k
    · rw [hodd]
      apply nearest_above hgap (by linarith) hhighBits (by linarith)
      intro _
      have hq : q + 1 = 2 * ((q + 1) / 2) := by omega
      rw [hq]
      exact endsEven_mul (by omega) k

theorem part_lt_iff (r k : Nat) {den : Nat} (hden : 0 < den) :
    2 * r < den * 2 ^ k ↔ 2 * ((r : ℚ) / den) < 2 ^ k := by
  rw [← mul_div_assoc, div_lt_iff₀ (Nat.cast_pos.2 hden), mul_comm ((2 : ℚ) ^ k)]
  exact_mod_cast Iff.rfl

theorem lt_part_iff (r k : Nat) {den : Nat} (hden : 0 < den) :
    den * 2 ^ k < 2 * r ↔ (2 : ℚ) ^ k < 2 * ((r : ℚ) / den) := by
  rw [← mul_div_assoc, lt_div_iff₀ (Nat.cast_pos.2 hden), mul_comm ((2 : ℚ) ^ k)]
  exact_mod_cast Iff.rfl

/-- A quotient is rounded to the nearest number of units. -/
theorem nearest_roundUnits (num : Nat) {den : Nat} (hden : 0 < den) :
    Nearest ((num : ℚ) / den) (roundUnits num den) := by
  obtain ⟨k, hspacing, hbits, hk⟩ := exists_spacing (num / den)
  have hgap : ∀ v, Representable v →
      v ≤ num / den / 2 ^ k * 2 ^ k ∨ (num / den / 2 ^ k + 1) * 2 ^ k ≤ v :=
    fun v hv => hv.le_or_le hk
  have hquotient : num / den / 2 ^ k < 2 ^ 53 :=
    (Nat.div_lt_iff_lt_mul (Nat.two_pow_pos k)).2 hbits
  have hsplit := Nat.div_add_mod num (den * 2 ^ k)
  have hrest : num % (den * 2 ^ k) < den * 2 ^ k :=
    Nat.mod_lt _ (Nat.mul_pos hden (Nat.two_pow_pos k))
  simp only [roundUnits, roundHalfEven, hspacing]
  rw [Nat.div_div_eq_div_mul] at hgap hquotient
  generalize num / (den * 2 ^ k) = q at hgap hquotient hsplit ⊢
  generalize num % (den * 2 ^ k) = r at hsplit hrest ⊢
  have hdenPos : (0 : ℚ) < den := Nat.cast_pos.2 hden
  have hplace : (num : ℚ) / den = q * 2 ^ k + r / den := by
    rw [← hsplit]
    push_cast
    field_simp
  have hless : (r : ℚ) / den ≤ 2 ^ k := by
    rw [div_le_iff₀ hdenPos, mul_comm]
    exact_mod_cast hrest.le
  obtain ⟨hdown, hup, heven⟩ := nearest_of_part hquotient hgap (by positivity) hless
  rw [hplace, Nat.mul_comm]
  split
  · rename_i h
    exact hdown ((part_lt_iff r k hden).1 h)
  · rename_i hnotBelow
    split
    · rename_i h
      exact hup ((lt_part_iff r k hden).1 h)
    · rename_i hnotAbove
      rw [part_lt_iff r k hden, not_lt] at hnotBelow
      rw [lt_part_iff r k hden, not_lt] at hnotAbove
      exact heven (le_antisymm hnotAbove hnotBelow)

theorem exists_nearest {place : ℚ} (h : 0 ≤ place) : ∃ units, Nearest place units := by
  have hnum : ((place.num.toNat : Nat) : ℚ) = place.num := by
    exact_mod_cast Int.toNat_of_nonneg (Rat.num_nonneg.2 h)
  have hnearest := nearest_roundUnits place.num.toNat place.den_pos
  rw [hnum, Rat.num_div_den] at hnearest
  exact ⟨_, hnearest⟩

/-! ## There is only one -/

theorem EndsEven.exists_between {u v : Nat} (hu : EndsEven u) (hv : EndsEven v) (hlt : u < v) :
    ∃ w, Representable w ∧ u < w ∧ w < v := by
  obtain ⟨a, k, ha, rfl⟩ := hu
  obtain ⟨b, l, hb, rfl⟩ := hv
  -- both end in zeros, so they are more than the last bit of either apart
  rcases Nat.le_total k l with hkl | hlk
  · obtain ⟨i, rfl⟩ := Nat.exists_eq_add_of_le hkl
    refine ⟨(2 * a + 1) * 2 ^ k, representable_mul (by omega) k, ?_, ?_⟩
    · exact Nat.mul_lt_mul_of_pos_right (Nat.lt_succ_self _) (Nat.two_pow_pos k)
    · have hsame : 2 * b * 2 ^ (k + i) = 2 * (b * 2 ^ i) * 2 ^ k := by
        rw [Nat.pow_add]
        ring
      rw [hsame] at hlt ⊢
      have hfactor := Nat.lt_of_mul_lt_mul_right hlt
      exact Nat.mul_lt_mul_of_pos_right (by omega) (Nat.two_pow_pos k)
  · obtain ⟨i, rfl⟩ := Nat.exists_eq_add_of_le hlk
    have hsame : 2 * a * 2 ^ (l + i) = 2 * (a * 2 ^ i) * 2 ^ l := by
      rw [Nat.pow_add]
      ring
    rw [hsame] at hlt ⊢
    have hfactor := Nat.lt_of_mul_lt_mul_right hlt
    refine ⟨(2 * b - 1) * 2 ^ l, representable_mul (by omega) l, ?_, ?_⟩
    · exact Nat.mul_lt_mul_of_pos_right (by omega) (Nat.two_pow_pos l)
    · exact Nat.mul_lt_mul_of_pos_right (by omega) (Nat.two_pow_pos l)

theorem Nearest.le_of_nearest {place : ℚ} {u v : Nat} (hu : Nearest place u)
    (hv : Nearest place v) : v ≤ u := by
  by_contra hle
  have hlt : u < v := Nat.lt_of_not_le hle
  have htie : |place - u| = |place - v| :=
    le_antisymm (hu.le v hv.representable) (hv.le u hu.representable)
  have huEven := hu.even v hv.representable hlt.ne' htie.symm
  have hvEven := hv.even u hu.representable hlt.ne htie
  obtain ⟨w, hw, huw, hwv⟩ := huEven.exists_between hvEven hlt
  have hnear := hu.le w hw
  have huw' : (u : ℚ) < w := Nat.cast_lt.2 huw
  have hwv' : (w : ℚ) < v := Nat.cast_lt.2 hwv
  have hbelow := le_abs_self (place - u)
  have habove := neg_le_abs (place - v)
  rcases abs_cases (place - w) with ⟨habs, -⟩ | ⟨habs, -⟩
  · linarith
  · linarith

theorem Nearest.unique {place : ℚ} {u v : Nat} (hu : Nearest place u) (hv : Nearest place v) :
    u = v :=
  Nat.le_antisymm (hv.le_of_nearest hu) (hu.le_of_nearest hv)

theorem Rounds.unique {negative : Bool} {magnitude : ℚ} {x y : Double}
    (hx : Rounds negative magnitude x) (hy : Rounds negative magnitude y) : x = y := by
  cases hx with
  | finite hu hlt =>
      cases hy with
      | finite hv _ => rw [hu.unique hv]
      | infinite hv hle =>
          rw [hu.unique hv] at hlt
          exact absurd hlt (Nat.not_lt.2 hle)
  | infinite hu hle =>
      cases hy with
      | finite hv hlt =>
          rw [hu.unique hv] at hle
          exact absurd hlt (Nat.not_lt.2 hle)
      | infinite _ _ => rfl

/-! ## Places that need no search -/

theorem nearest_of_representable {units : Nat} (h : Representable units) :
    Nearest (units : ℚ) units := by
  refine ⟨h, ?_, ?_⟩
  · intro v _
    rw [sub_self, abs_zero]
    exact abs_nonneg _
  · intro v _ hne htie
    rw [sub_self, abs_zero, abs_eq_zero, sub_eq_zero] at htie
    exact absurd (Nat.cast_injective htie).symm hne

theorem nearest_zero {place : ℚ} (hnonneg : 0 ≤ place) (hless : 2 * place ≤ 1) :
    Nearest place 0 := by
  have hgap : ∀ v, Representable v → v ≤ 0 ∨ 1 ≤ v := by
    intro v _
    omega
  apply nearest_below hgap
  · exact_mod_cast hnonneg
  · exact representable_zero
  · push_cast
    linarith
  · intro _
    exact ⟨0, 0, by decide, rfl⟩

theorem Nearest.le_of_le {place : ℚ} {units v : Nat} (h : Nearest place units)
    (hv : Representable v) (hle : (v : ℚ) ≤ place) : v ≤ units := by
  by_contra hlt
  have hcast : (units : ℚ) < v := Nat.cast_lt.2 (Nat.lt_of_not_le hlt)
  have hnear := h.le v hv
  rw [abs_of_nonneg (by linarith), abs_of_nonneg (by linarith)] at hnear
  linarith

theorem Rounds.eq_finite {negative : Bool} {magnitude : ℚ} {x : Double} {units : Nat}
    (h : Rounds negative magnitude x) (hplace : magnitude * one = units)
    (hunits : Representable units) (hlt : units < bound) :
    x = Double.finite negative units := by
  apply h.unique
  apply Rounds.finite _ hlt
  rw [hplace]
  exact nearest_of_representable hunits

/-! ## Quotients and decimals -/

theorem castOne_pos : (0 : ℚ) < one :=
  Nat.cast_pos.2 zero_lt_one

theorem rounds_ofUnits {negative : Bool} {magnitude : ℚ} {units : Nat}
    (h : Nearest (magnitude * one) units) : Rounds negative magnitude (ofUnits negative units) := by
  unfold ofUnits
  split
  · rename_i hle
    exact .infinite h hle
  · rename_i hlt
    exact .finite h (Nat.lt_of_not_le hlt)

theorem nearest_quotient (num : Nat) {den : Nat} (hden : 0 < den) :
    Nearest ((num : ℚ) / den * one) (roundUnits (num * one) den) := by
  have hnearest := nearest_roundUnits (num * one) hden
  rwa [Nat.cast_mul, ← div_mul_eq_mul_div] at hnearest

theorem rounds_ofRatio (negative : Bool) (num : Nat) {den : Nat} (hden : 0 < den) :
    Rounds negative ((num : ℚ) / den) (ofRatio negative num den) :=
  rounds_ofUnits (nearest_quotient num hden)

theorem rounds_infinite (negative : Bool) {magnitude : ℚ}
    (h : (bound : ℚ) ≤ magnitude * one) : Rounds negative magnitude (infinite negative) := by
  obtain ⟨units, hunits⟩ := exists_nearest (le_trans (Nat.cast_nonneg bound) h)
  exact .infinite hunits (hunits.le_of_le representable_bound h)

theorem rounds_zero (negative : Bool) {magnitude : ℚ} (hnonneg : 0 ≤ magnitude)
    (hless : 2 * (magnitude * one) < 1) : Rounds negative magnitude (finite negative 0) :=
  .finite (nearest_zero (mul_nonneg hnonneg (Nat.cast_nonneg one)) hless.le) (by decide +kernel)

theorem toDigits_bounds {n : Nat} (h : n ≠ 0) :
    10 ^ ((Nat.toDigits 10 n).length - 1) ≤ n ∧ n < 10 ^ (Nat.toDigits 10 n).length := by
  have hbound : ∀ k, 0 < k → ((Nat.toDigits 10 n).length ≤ k ↔ n < 10 ^ k) :=
    fun k hk => Nat.length_toDigits_le_iff (by decide) hk
  have hpos : 0 < (Nat.toDigits 10 n).length := Nat.length_toDigits_pos
  refine ⟨?_, (hbound _ hpos).1 (Nat.le_refl _)⟩
  by_contra hlt
  by_cases hone : (Nat.toDigits 10 n).length - 1 = 0
  · rw [hone] at hlt
    omega
  · have hle := (hbound _ (Nat.pos_of_ne_zero hone)).2 (Nat.lt_of_not_le hlt)
    omega

theorem decimal_bounds {digits : Nat} (h : digits ≠ 0) (exponent : Int) :
    (10 : ℚ) ^ (exponent + (Nat.toDigits 10 digits).length - 1) ≤ digits * 10 ^ exponent ∧
      (digits : ℚ) * 10 ^ exponent < 10 ^ (exponent + (Nat.toDigits 10 digits).length) := by
  obtain ⟨hlow, hhigh⟩ := toDigits_bounds h
  have hpos : 0 < (Nat.toDigits 10 digits).length := Nat.length_toDigits_pos
  generalize (Nat.toDigits 10 digits).length = length at *
  have hpower : (0 : ℚ) < 10 ^ exponent := by positivity
  have hten : (10 : ℚ) ≠ 0 := by norm_num
  constructor
  · calc
      (10 : ℚ) ^ (exponent + length - 1) = 10 ^ (((length - 1 : Nat) : Int) + exponent) := by
        congr 1
        omega
      _ = ((10 ^ (length - 1) : Nat) : ℚ) * 10 ^ exponent := by
        rw [zpow_add₀ hten, zpow_natCast]
        push_cast
        rfl
      _ ≤ digits * 10 ^ exponent :=
        mul_le_mul_of_nonneg_right (Nat.cast_le.2 hlow) hpower.le
  · calc
      (digits : ℚ) * 10 ^ exponent < ((10 ^ length : Nat) : ℚ) * 10 ^ exponent :=
        mul_lt_mul_of_pos_right (Nat.cast_lt.2 hhigh) hpower
      _ = 10 ^ (exponent + length) := by
        rw [add_comm, zpow_add₀ hten, zpow_natCast]
        push_cast
        rfl

theorem rounds_of_large (negative : Bool) {magnitude : ℚ} {k : Int} (hk : 309 ≤ k)
    (h : 10 ^ k ≤ magnitude) : Rounds negative magnitude (infinite negative) := by
  have hpower : (bound : ℚ) ≤ 10 ^ 309 * one := by
    have hnat : bound ≤ 10 ^ 309 * one := by decide +kernel
    exact_mod_cast hnat
  have hmagnitude : (10 : ℚ) ^ 309 ≤ magnitude := by
    calc
      (10 : ℚ) ^ 309 = 10 ^ ((309 : Nat) : Int) := (zpow_natCast _ _).symm
      _ ≤ 10 ^ k := zpow_le_zpow_right₀ (by norm_num) hk
      _ ≤ magnitude := h
  exact rounds_infinite negative
    (hpower.trans (mul_le_mul_of_nonneg_right hmagnitude castOne_pos.le))

theorem rounds_of_small (negative : Bool) {magnitude : ℚ} {k : Int} (hk : k ≤ -325)
    (hnonneg : 0 ≤ magnitude) (h : magnitude < 10 ^ k) :
    Rounds negative magnitude (finite negative 0) := by
  have hpower : 2 * (one : ℚ) < 10 ^ 325 := by
    have hnat : 2 * one < 10 ^ 325 := by decide +kernel
    exact_mod_cast hnat
  have hmagnitude : magnitude ≤ 1 / 10 ^ 325 := by
    calc
      magnitude ≤ 10 ^ k := h.le
      _ ≤ 10 ^ (-((325 : Nat) : Int)) := zpow_le_zpow_right₀ (by norm_num) hk
      _ = 1 / 10 ^ 325 := by rw [zpow_neg, zpow_natCast, one_div]
  apply rounds_zero negative hnonneg
  calc
    2 * (magnitude * one) = magnitude * (2 * one) := by ring
    _ ≤ 1 / 10 ^ 325 * (2 * one) :=
      mul_le_mul_of_nonneg_right hmagnitude (mul_pos two_pos castOne_pos).le
    _ < 1 / 10 ^ 325 * 10 ^ 325 := mul_lt_mul_of_pos_left hpower (by positivity)
    _ = 1 := one_div_mul_cancel (by positivity)

/-- A decimal is rounded to the nearest double. -/
theorem rounds_ofDecimal (negative : Bool) (digits : Nat) (exponent : Int) :
    Rounds negative (digits * 10 ^ exponent) (ofDecimal negative digits exponent) := by
  unfold ofDecimal
  split
  · rename_i hzero
    rw [hzero, Nat.cast_zero, zero_mul]
    exact rounds_zero negative le_rfl (by rw [zero_mul, mul_zero]; exact one_pos)
  · rename_i hne
    obtain ⟨hlow, hhigh⟩ := decimal_bounds hne exponent
    simp only
    generalize exponent + ((Nat.toDigits 10 digits).length : Int) = magnitude at *
    split
    · rename_i hlarge
      exact rounds_of_large negative (by omega) hlow
    · split
      · rename_i hsmall
        exact rounds_of_small negative (by omega) (by positivity) hhigh
      · split
        · rename_i hexponent
          have hvalue : ((digits * Nat.pow 10 exponent.toNat : Nat) : ℚ) / (1 : Nat) =
              digits * 10 ^ exponent := by
            rw [Nat.cast_one, div_one, Nat.cast_mul, Nat.pow_eq, Nat.cast_pow, ← zpow_natCast,
              Int.toNat_of_nonneg hexponent]
            rfl
          rw [← hvalue]
          exact rounds_ofRatio negative _ Nat.one_pos
        · rename_i hexponent
          have hden : 0 < Nat.pow 10 (-exponent).toNat := Nat.pow_pos (by decide)
          have hvalue : (digits : ℚ) / (Nat.pow 10 (-exponent).toNat : Nat) =
              digits * 10 ^ exponent := by
            rw [Nat.pow_eq, Nat.cast_pow, ← zpow_natCast, Int.toNat_of_nonneg (by omega), zpow_neg,
              div_inv_eq_mul]
            rfl
          rw [← hvalue]
          exact rounds_ofRatio negative digits hden

end FormIntake.Double
