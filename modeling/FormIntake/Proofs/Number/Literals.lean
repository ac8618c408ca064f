import FormIntake.Proofs.Double.Nearest
import FormIntake.Proofs.Number.Decimal
import FormIntake.Proofs.Number.Reading
import FormIntake.Proofs.Numeral
/-!
# Numeric texts

The texts that stand for numbers, and the numbers that they stand for, said
without the readers. There are three kinds of them, and no text is of two
kinds: infinities, decimal numerals with digits of any script, and whole
numbers in base 16, 8 or 2.
-/

namespace FormIntake.Number

open Numeral

inductive Literal where
  | infinity (negative : Bool)
  | decimal (negative : Bool) (magnitude : ℚ)
  | whole (n : Nat)

def Digits (t : Text) (digits : List Nat) : Prop :=
  t.map CodePoint.decimalValue? = digits.map some

/-- The letters that may follow a zero, and the bases that they stand for. -/
def marks : List (CodePoint × Nat) :=
  [(CodePoint.ofChar 'x', 16), (CodePoint.ofChar 'X', 16), (CodePoint.ofChar 'o', 8),
    (CodePoint.ofChar 'O', 8), (CodePoint.ofChar 'b', 2), (CodePoint.ofChar 'B', 2)]

/-- The number with the given digits before and after the point, times a power of ten. -/
def magnitude (whole places : List Nat) (e : Int) : ℚ :=
  (value 10 whole + value 10 places / 10 ^ places.length) * 10 ^ e

inductive Spells : Text → Literal → Prop
  | infinity {sign : Text} {negative : Bool} (hsign : Sign sign negative) :
      Spells (sign ++ Text.ofString "Infinity") (.infinity negative)
  | decimal {sign mantissa exponent : Text} {negative : Bool} {whole places : List Nat} {e : Int}
      (hsign : Sign sign negative) (hmantissa : Mantissa Digits mantissa whole places)
      (hexponent : Exponent Digits exponent e) :
      Spells (sign ++ (mantissa ++ exponent)) (.decimal negative (magnitude whole places e))
  | whole {mark : CodePoint} {base : Nat} {t : Text} {digits : List Nat}
      (hmark : (mark, base) ∈ marks) (hdigits : t.map (·.digitValue? base) = digits.map some)
      (hne : digits ≠ []) :
      Spells (CodePoint.ofChar '0' :: mark :: t) (.whole (value base digits))

/-- Decimal numerals are rounded, all else is exact. -/
inductive Literal.Denotes : Literal → Number → Prop
  | infinity (negative : Bool) : Denotes (.infinity negative) (.double (.infinite negative))
  | decimal {negative : Bool} {magnitude : ℚ} {x : Double}
      (h : Double.Rounds negative magnitude x) : Denotes (.decimal negative magnitude) (.double x)
  | whole (n : Nat) : Denotes (.whole n) (.int n)

/-! ## Decimal numerals -/

theorem takes_digits : Takes (takeDigits CodePoint.decimalValue?) Digits where
  exists_run t := by
    obtain ⟨run, htext, hrun, -⟩ := exists_takeDigits CodePoint.decimalValue? t
    exact ⟨run, htext, hrun⟩
  run := by
    intro t digits rest hrun hrest
    apply takeDigits_append hrun
    intro c hc
    rcases hrest c hc with rfl | rfl | rfl
    · rfl
    · rfl
    · rfl
  nil := by
    intro digits h
    exact List.map_eq_nil_iff.1 h.symm
  unsigned := by
    intro t digits hrun c hc
    obtain ⟨rest, rfl⟩ := List.head?_eq_some_iff.1 hc
    cases digits with
    | nil => cases hrun
    | cons d digits => exact (CodePoint.plain_of_decimalValue? (List.cons.inj hrun).1).2

theorem readDecimal?_eq_some_iff {t : Text} {x : Double} :
    readDecimal? t = some x ↔ Decimal Digits t x :=
  takes_digits.decimal?_eq_some_iff

theorem magnitude_eq (whole places : List Nat) (e : Int) :
    magnitude whole places e = value 10 (whole ++ places) * 10 ^ (e - places.length) := by
  have hten : (10 : ℚ) ≠ 0 := by norm_num
  rw [magnitude, value_append, zpow_sub₀ hten, zpow_natCast]
  push_cast
  field_simp

theorem rounds_magnitude (negative : Bool) (whole places : List Nat) (e : Int) :
    Double.Rounds negative (magnitude whole places e)
      (.ofDecimal negative (value 10 (whole ++ places)) (e - places.length)) := by
  rw [magnitude_eq]
  exact Double.rounds_ofDecimal _ _ _

theorem exists_spells_of_decimal {t : Text} {x : Double} (h : readDecimal? t = some x) :
    ∃ l, Spells t l ∧ l.Denotes (.double x) := by
  cases readDecimal?_eq_some_iff.1 h with
  | mk hsign hmantissa hexponent =>
      exact ⟨_, .decimal hsign hmantissa hexponent, .decimal (rounds_magnitude _ _ _ _)⟩

theorem exists_decimal_of_spells {t : Text} {negative : Bool} {q : ℚ}
    (h : Spells t (.decimal negative q)) :
    ∃ x, readDecimal? t = some x ∧ Double.Rounds negative q x := by
  cases h with
  | decimal hsign hmantissa hexponent =>
      exact ⟨_, readDecimal?_eq_some_iff.2 (.mk hsign hmantissa hexponent),
        rounds_magnitude _ _ _ _⟩

/-! ## Whole numbers -/

/-- A letter and its capital have the same small letter. -/
theorem asciiLower_cases {c small : CodePoint} (capital : CodePoint) (h : c.asciiLower = small)
    (hcapital : small.val = capital.val + 32) : c = small ∨ c = capital := by
  unfold CodePoint.asciiLower at h
  split at h
  · right
    apply Fin.ext
    have hval := congrArg Fin.val h
    simp only at hval
    omega
  · exact Or.inl h

theorem mark_of_radix? {c : CodePoint} {base : Nat} (h : radix? c = some base) :
    (c, base) ∈ marks := by
  unfold radix? at h
  split at h
  · rename_i hval
    have hlower : c.asciiLower = CodePoint.ofChar 'x' := Fin.ext hval
    rw [← Option.some.inj h]
    rcases asciiLower_cases (CodePoint.ofChar 'X') hlower rfl with rfl | rfl
    · decide
    · decide
  · rename_i hval
    have hlower : c.asciiLower = CodePoint.ofChar 'o' := Fin.ext hval
    rw [← Option.some.inj h]
    rcases asciiLower_cases (CodePoint.ofChar 'O') hlower rfl with rfl | rfl
    · decide
    · decide
  · rename_i hval
    have hlower : c.asciiLower = CodePoint.ofChar 'b' := Fin.ext hval
    rw [← Option.some.inj h]
    rcases asciiLower_cases (CodePoint.ofChar 'B') hlower rfl with rfl | rfl
    · decide
    · decide
  · cases h

theorem mark_spec : ∀ mark ∈ marks, radix? mark.1 = some mark.2 ∧
    mark.1.decimalValue? = none ∧ mark.1 ≠ point ∧ ¬ IsMark mark.1 := by
  unfold IsMark
  decide +kernel

theorem readRadix?_eq_some_iff {t : Text} {n : Nat} :
    readRadix? t = some n ↔ Spells t (.whole n) := by
  constructor
  · intro h
    unfold readRadix? at h
    split at h
    · rename_i first mark rest
      split at h
      · rename_i hfirst
        obtain ⟨base, hbase, hread⟩ := Option.bind_eq_some_iff.1 h
        split at hread
        · rename_i d digits htake
          rw [hfirst, ← Option.some.inj hread]
          exact .whole (mark_of_radix? hbase) (takeDigits_eq_nil_iff.1 htake)
            (List.cons_ne_nil d digits)
        · cases hread
      · cases h
    · cases h
  · intro h
    cases h with
    | @whole mark base t digits hmark hdigits hne =>
        obtain ⟨d, digits, rfl⟩ := List.exists_cons_of_ne_nil hne
        have hbase := (mark_spec _ hmark).1
        simp only at hbase
        simp only [readRadix?, if_pos, hbase, Option.bind_eq_bind, Option.bind_some,
          takeDigits_eq_nil_iff.2 hdigits]

theorem readDecimal?_of_whole {t : Text} {n : Nat} (h : Spells t (.whole n)) :
    readDecimal? t = none := by
  cases h with
  | @whole mark base t digits hmark hdigits hne =>
      obtain ⟨-, hdigit, hpoint, hletter⟩ := mark_spec _ hmark
      have hzero : [CodePoint.ofChar '0'].map CodePoint.decimalValue? = [0].map some := by
        decide +kernel
      have htake : takeDigits CodePoint.decimalValue? (CodePoint.ofChar '0' :: mark :: t) =
          ([0], mark :: t) :=
        takeDigits_append hzero fun c hc => by rw [← Option.some.inj hc, hdigit]
      have hmantissa := mantissa?_of_ne_point htake fun c hc => by
        rw [← Option.some.inj hc]
        exact hpoint
      have hsign : takeSign (CodePoint.ofChar '0' :: mark :: t) =
          (false, CodePoint.ofChar '0' :: mark :: t) := rfl
      have hexponent : exponent? (takeDigits CodePoint.decimalValue?) (mark :: t) = none := by
        rw [exponent?]
        exact if_neg hletter
      rw [if_neg (List.cons_ne_nil 0 [])] at hmantissa
      simp [readDecimal?, decimal?, hsign, hmantissa, hexponent]

/-! ## Infinities -/

theorem readInfinity?_eq_some_iff {t : Text} {x : Double} :
    readInfinity? t = some x ↔
      ∃ negative, Spells t (.infinity negative) ∧ x = .infinite negative := by
  constructor
  · intro h
    unfold readInfinity? at h
    split at h
    · rename_i htext
      refine ⟨false, ?_, (Option.some.inj h).symm⟩
      rcases htext with rfl | rfl
      · exact .infinity .none
      · exact .infinity .plus
    · split at h
      · rename_i htext
        refine ⟨true, ?_, (Option.some.inj h).symm⟩
        rw [htext]
        exact .infinity .minus
      · cases h
  · rintro ⟨negative, hspells, rfl⟩
    cases hspells with
    | infinity hsign =>
        cases hsign with
        | none => decide
        | plus => decide
        | minus => decide

theorem readInfinity?_eq_none {t : Text} (h : readDecimal? t ≠ none ∨ readRadix? t ≠ none) :
    readInfinity? t = none := by
  rw [Option.eq_none_iff_forall_ne_some]
  intro x hx
  obtain ⟨negative, hspells, -⟩ := readInfinity?_eq_some_iff.1 hx
  have hother : readDecimal? t = none ∧ readRadix? t = none := by
    cases hspells with
    | infinity hsign =>
        cases hsign with
        | none => decide
        | plus => decide
        | minus => decide
  exact h.elim (absurd hother.1) (absurd hother.2)

/-! ## The reader -/

theorem exists_spells_of_ofText? {s : Text} {x : Number} (h : ofText? s = some x) :
    ∃ l, Spells s.strip l ∧ l.Denotes x := by
  simp only [ofText?] at h
  split at h
  · rename_i y hread
    obtain ⟨negative, hspells, rfl⟩ := readInfinity?_eq_some_iff.1 hread
    rw [← Option.some.inj h]
    exact ⟨_, hspells, .infinity negative⟩
  · split at h
    · rename_i y hread
      rw [← Option.some.inj h]
      exact exists_spells_of_decimal hread
    · obtain ⟨n, hcast, rfl⟩ := Option.map_eq_some_iff.1 h
      obtain ⟨m, hread, hm⟩ := Option.bind_eq_some_iff.1 hcast
      rw [← Option.some.inj hm]
      exact ⟨_, readRadix?_eq_some_iff.1 hread, .whole m⟩

/-- A text of the grammar is read, and as what it denotes. -/
theorem exists_ofText? {s : Text} {l : Literal} (h : Spells s.strip l) :
    ∃ x, ofText? s = some x ∧ l.Denotes x := by
  simp only [ofText?]
  generalize s.strip = t at h
  cases l with
  | infinity negative =>
      rw [readInfinity?_eq_some_iff.2 ⟨negative, h, rfl⟩]
      exact ⟨_, rfl, .infinity negative⟩
  | decimal negative q =>
      obtain ⟨x, hread, hrounds⟩ := exists_decimal_of_spells h
      have hinfinity : readInfinity? t = none := readInfinity?_eq_none (Or.inl (by simp [hread]))
      rw [hinfinity, hread]
      exact ⟨_, rfl, .decimal hrounds⟩
  | whole n =>
      have hread := readRadix?_eq_some_iff.2 h
      have hinfinity : readInfinity? t = none := readInfinity?_eq_none (Or.inr (by simp [hread]))
      rw [hinfinity, readDecimal?_of_whole h, hread]
      exact ⟨_, rfl, .whole n⟩

theorem Literal.Denotes.unique {l : Literal} {x y : Number} (hx : l.Denotes x)
    (hy : l.Denotes y) : x = y := by
  cases hx with
  | infinity _ =>
      cases hy
      rfl
  | decimal h =>
      cases hy with
      | decimal h' => rw [h.unique h']
  | whole _ =>
      cases hy
      rfl

theorem ofText?_eq_some_iff {s : Text} {x : Number} :
    ofText? s = some x ↔ ∃ l, Spells s.strip l ∧ l.Denotes x := by
  constructor
  · exact exists_spells_of_ofText?
  · rintro ⟨l, hspells, hdenotes⟩
    obtain ⟨y, hread, hy⟩ := exists_ofText? hspells
    rw [hread, hdenotes.unique hy]

/-- Texts are read as numbers exactly if they are numeric, and as the numbers that they denote;
other values only if they are numbers already. -/
theorem number_iff_spelled :
    (∀ (s : Text) (x : Number),
      ofJson? (.str s) = some x ↔ ∃ l, Spells s.strip l ∧ l.Denotes x) ∧
    (∀ s : Text, (∃ x, ofJson? (.str s) = some x) ↔ ∃ l, Spells s.strip l) ∧
    (∀ s : Text, s.strip ∈ (["", "nan", "inf", "1_000", "+0x10"] : List Text) →
      ofJson? (.str s) = none) ∧
    (∀ v x, ofJson? v = some x → x.isNan = false) ∧
    (∀ b, ofJson? (.bool b) = none) ∧
    ∀ n, n.isNan = false → ofJson? (.number n) = some n := by
  refine ⟨fun s x => ofText?_eq_some_iff, ?_, ?_, fun v x => isNan_of_ofJson?, fun b => rfl, ?_⟩
  · intro s
    constructor
    · rintro ⟨x, hread⟩
      obtain ⟨l, hspells, -⟩ := exists_spells_of_ofText? hread
      exact ⟨l, hspells⟩
    · rintro ⟨l, hspells⟩
      obtain ⟨x, hread, -⟩ := exists_ofText? hspells
      exact ⟨x, hread⟩
  · intro s hs
    simp only [ofJson?, ofText?]
    generalize s.strip = t at hs
    revert t
    decide +kernel
  · intro n hn
    rw [ofJson?, hn]
    rfl

theorem paddedHex_reads_exactly :
    Spells (Text.ofString " 0X00fF ").strip (.whole 255) ∧
      ofJson? (.str " 0X00fF ") = some (.int 255) ∧ isNan (.int 255) = false ∧
      ofJson? (.number (.int 255)) = some (.int 255) ∧
      Text.strip [CodePoint.ofChar ' '] ∈ (["", "nan", "inf", "1_000", "+0x10"] : List Text) ∧
      ofJson? (.str [CodePoint.ofChar ' ']) = none := by
  obtain ⟨hreads, -, hrefused, hnan, -, hsame⟩ := number_iff_spelled
  have hspells : Spells (Text.ofString " 0X00fF ").strip (.whole 255) :=
    @Spells.whole (CodePoint.ofChar 'X') 16 (Text.ofString "00fF") [0, 0, 15, 15]
      (by decide) (by decide) (by decide)
  have hblank : Text.strip [CodePoint.ofChar ' '] ∈
      (["", "nan", "inf", "1_000", "+0x10"] : List Text) := by
    decide
  have hread := (hreads _ _).2 ⟨_, hspells, .whole 255⟩
  have hnumber := hnan _ _ hread
  exact ⟨hspells, hread, hnumber, hsame _ hnumber, hblank, hrefused _ hblank⟩

end FormIntake.Number
