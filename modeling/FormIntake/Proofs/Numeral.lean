import FormIntake.Numeral
import Mathlib.Data.Nat.Digits.Lemmas
/-!
# Numerals

The values of digits, and the numbers whose numerals keep to the digit limit.
-/

namespace FormIntake

namespace CodePoint

theorem digitValue?_eq_some_iff {base d : Nat} {c : CodePoint} :
    c.digitValue? base = some d ↔ c.alphanumericValue? = some d ∧ d < base := by
  unfold digitValue?
  cases c.alphanumericValue? with
  | none => simp
  | some e =>
      by_cases he : e < base
      · simp only [if_pos he, Option.some.injEq]
        constructor
        · rintro rfl
          exact ⟨rfl, he⟩
        · exact And.left
      · simp only [if_neg he, Option.some.injEq]
        constructor
        · intro h
          cases h
        · rintro ⟨rfl, hd⟩
          exact absurd hd he

theorem digitValue?_lt {base d : Nat} {c : CodePoint} (h : c.digitValue? base = some d) :
    d < base :=
  (digitValue?_eq_some_iff.1 h).2

theorem val_of_digitValue? {base d : Nat} {c : CodePoint} (hbase : base ≤ 10)
    (h : c.digitValue? base = some d) : c.val = 0x30 + d := by
  obtain ⟨hvalue, hlt⟩ := digitValue?_eq_some_iff.1 h
  unfold alphanumericValue? at hvalue
  simp only [Bool.and_eq_true, decide_eq_true_eq] at hvalue
  split at hvalue
  · have hd := Option.some.inj hvalue
    omega
  · split at hvalue
    · have hd := Option.some.inj hvalue
      omega
    · split at hvalue
      · have hd := Option.some.inj hvalue
        omega
      · cases hvalue

end CodePoint

namespace Numeral

/-- Horner's rule, read from the other end. -/
theorem foldl_digits (base n : Nat) (digits : List Nat) :
    digits.foldl (fun n d => base * n + d) n =
      Nat.ofDigits base digits.reverse + base ^ digits.length * n := by
  induction digits generalizing n with
  | nil => simp
  | cons d rest ih =>
      rw [List.foldl_cons, ih, List.reverse_cons, Nat.ofDigits_append, List.length_reverse,
        Nat.ofDigits_singleton, List.length_cons, Nat.pow_succ]
      ring

theorem value_eq_ofDigits (base : Nat) (digits : List Nat) :
    value base digits = Nat.ofDigits base digits.reverse := by
  rw [value, foldl_digits]
  simp

theorem value_lt {base : Nat} {digits : List Nat} (hbase : 1 < base)
    (h : ∀ d ∈ digits, d < base) : value base digits < base ^ digits.length := by
  rw [value_eq_ofDigits, ← List.length_reverse]
  apply Nat.ofDigits_lt_base_pow_length hbase
  intro d hd
  exact h d (List.mem_reverse.1 hd)

theorem mem_of_mapM {α β : Type} {f : α → Option β} {list : List α} {values : List β}
    (h : list.mapM f = some values) {b : β} (hb : b ∈ values) : ∃ a ∈ list, f a = some b := by
  induction list generalizing values with
  | nil =>
      have heq : [] = values := Option.some.inj h
      rw [← heq] at hb
      cases hb
  | cons a rest ih =>
      rw [List.mapM_cons] at h
      simp only [Option.bind_eq_bind, Option.bind_eq_some_iff, Option.pure_def,
        Option.some.injEq] at h
      obtain ⟨first, hfirst, others, hothers, rfl⟩ := h
      rcases List.mem_cons.1 hb with rfl | hmem
      · exact ⟨a, List.mem_cons_self, hfirst⟩
      · obtain ⟨other, hother, hvalue⟩ := ih hothers hmem
        exact ⟨other, List.mem_cons_of_mem _ hother, hvalue⟩

theorem exists_of_groupedDigits? {digit? : CodePoint → Option Nat} {t : Text} {digits : List Nat}
    (h : groupedDigits? digit? t = some digits) {d : Nat} (hd : d ∈ digits) :
    ∃ c, digit? c = some d := by
  unfold groupedDigits? at h
  obtain ⟨groups, hgroups, rfl⟩ := Option.map_eq_some_iff.1 h
  obtain ⟨group, hgroup, hmem⟩ := List.mem_flatten.1 hd
  obtain ⟨part, -, hpart⟩ := mem_of_mapM hgroups hgroup
  split at hpart
  · cases hpart
  · obtain ⟨c, -, hc⟩ := mem_of_mapM hpart hmem
    exact ⟨c, hc⟩

theorem exists_toDigits {base : Nat} (hbase : 1 < base) (n : Nat) :
    ∃ digits, Nat.toDigits base n = digits.map Nat.digitChar ∧ (∀ d ∈ digits, d < base) ∧
      value base digits = n := by
  induction n using Nat.strong_induction_on with
  | _ n ih =>
      by_cases hlt : n < base
      · refine ⟨[n], Nat.toDigits_of_lt_base hlt, ?_, ?_⟩
        · intro d hd
          rw [List.mem_singleton.1 hd]
          exact hlt
        · simp [value]
      · have hle : base ≤ n := Nat.le_of_not_lt hlt
        obtain ⟨digits, hdigits, hbound, hvalue⟩ :=
          ih (n / base) (Nat.div_lt_self (by omega) hbase)
        refine ⟨digits ++ [n % base], ?_, ?_, ?_⟩
        · rw [Nat.toDigits_of_base_le hbase hle, hdigits, List.map_append]
          rfl
        · intro d hd
          rcases List.mem_append.1 hd with hd | hd
          · exact hbound d hd
          · rw [List.mem_singleton.1 hd]
            exact Nat.mod_lt n (by omega)
        · rw [value] at hvalue ⊢
          rw [List.foldl_append, hvalue, List.foldl_cons, List.foldl_nil]
          exact Nat.div_add_mod n base

theorem value_append (base : Nat) (first second : List Nat) :
    value base (first ++ second) = value base first * base ^ second.length + value base second := by
  have hsecond : value base second = Nat.ofDigits base second.reverse := value_eq_ofDigits _ _
  rw [hsecond, value, List.foldl_append, foldl_digits base _ second, Nat.add_comm, Nat.mul_comm]
  rfl

theorem value_replicate_zero (base k : Nat) : value base (List.replicate k 0) = 0 := by
  rw [value, foldl_digits]
  simp

theorem value_zeros (base k : Nat) (digits : List Nat) :
    value base (List.replicate k 0 ++ digits) = value base digits := by
  rw [value_append, value_replicate_zero, Nat.zero_mul, Nat.zero_add]

/-! ## The digit limit -/

theorem natAbs_signed (negative : Bool) (n : Nat) : (signed negative n).natAbs = n := by
  cases negative <;> simp [signed]

theorem signed_eq_zero_iff (negative : Bool) (n : Nat) : signed negative n = 0 ↔ n = 0 := by
  rw [← Int.natAbs_eq_zero, natAbs_signed]

theorem fits_of_lt {n : Int} {length : Nat} (h : n.natAbs < 10 ^ length)
    (hlength : length ≤ digitLimit) : fits n = true := by
  have hpow : 10 ^ length ≤ 10 ^ digitLimit := Nat.pow_le_pow_right (by decide) hlength
  rw [fits, Nat.pow_eq]
  -- the power is too large to be evaluated
  generalize 10 ^ digitLimit = power at hpow ⊢
  exact decide_eq_true (Nat.lt_of_lt_of_le h hpow)

theorem fits_of_length {n : Int} (h : (Nat.toDigits 10 n.natAbs).length ≤ digitLimit) :
    fits n = true := by
  apply fits_of_lt _ (Nat.le_refl digitLimit)
  exact (Nat.length_toDigits_le_iff (by decide) (by decide)).1 h

end Numeral

end FormIntake
