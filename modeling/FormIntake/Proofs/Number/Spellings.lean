import FormIntake.Proofs.Number.Literals
import FormIntake.Proofs.Number.Order
import FormIntake.Proofs.Text.Blank
import FormIntake.Proofs.Text.Surrogates
/-!
# The spellings of a whole number

A whole number can be given as itself, as the double of the same value, as a
text in base 16, 8 or 2, or as a decimal text. Comparisons and messages do not
tell numbers of the same value apart, and up to the bound of exact whole
numbers a decimal text is not rounded.
-/

namespace FormIntake

namespace Double

/-- The sign of a double is in its units unless it is zero. -/
theorem signedUnits_eq_iff {a b : Bool} {u v : Nat} :
    signedUnits a u = signedUnits b v ↔ (u = 0 ∧ v = 0) ∨ (a = b ∧ u = v) := by
  cases a <;> cases b <;> simp [signedUnits] <;> omega

theorem natAbs_signedUnits (negative : Bool) (units : Nat) :
    (signedUnits negative units).natAbs = units := by
  cases negative <;> simp [signedUnits]

theorem signedUnits_mul (negative : Bool) (m n : Nat) :
    signedUnits negative (m * n) = signedUnits negative m * n := by
  cases negative <;> simp [signedUnits]

theorem toInt?_eq_some_iff {negative : Bool} {units : Nat} {n : Int} :
    (finite negative units).toInt? = some n ↔ signedUnits negative units = n * one := by
  have hone := zero_lt_one
  rw [toInt?]
  generalize one = unit at hone ⊢
  constructor
  · intro h
    split at h
    · rename_i hwhole
      obtain ⟨k, rfl⟩ := Nat.dvd_of_mod_eq_zero hwhole
      rw [Nat.mul_div_cancel_left k hone] at h
      rw [← Option.some.inj h, Nat.mul_comm unit k, signedUnits_mul]
    · cases h
  · intro h
    have hunits : units = n.natAbs * unit := by
      rw [← natAbs_signedUnits negative units, h, Int.natAbs_mul, Int.natAbs_natCast]
    rw [hunits, signedUnits_mul] at h
    have hsign : signedUnits negative n.natAbs = n :=
      Int.eq_of_mul_eq_mul_right (Int.natCast_pos.2 hone).ne' h
    rw [hunits, if_pos (Nat.mul_mod_left _ _), Nat.mul_div_cancel _ hone, hsign]

end Double

namespace Number

open Numeral

/-! ## Numbers of one value -/

/-- Whole numbers and the doubles below the bound; there are no finite doubles beyond it. -/
def InRange : Number → Prop
  | double (.finite _ units) => units < Double.bound
  | _ => True

theorem exact_int_injective {m n : Int} (h : (int m).exact = (int n).exact) : m = n := by
  have hone : (0 : Int) < Double.one := Int.natCast_pos.2 Double.zero_lt_one
  exact Int.eq_of_mul_eq_mul_right hone.ne' (Exact.units.inj h)

theorem display_of_exact_int {x : Number} {n : Int} (h : x.exact = (int n).exact) :
    x.display = Text.ofInt n := by
  match x with
  | int m => rw [exact_int_injective h]; rfl
  | double (.finite negative units) =>
      rw [display, Double.toInt?_eq_some_iff.2 (Exact.units.inj h)]

/-- Only whole numbers have more than one form. -/
theorem eq_of_exact_eq {x y : Number} (h : x.exact = y.exact) (hx : ∀ n, x.exact ≠ (int n).exact) :
    x = y := by
  match x, y with
  | int m, _ => exact absurd rfl (hx m)
  | _, int n => exact absurd h (hx n)
  | double (.finite a u), double (.finite b v) =>
      rcases Double.signedUnits_eq_iff.1 (Exact.units.inj h) with ⟨rfl, rfl⟩ | ⟨rfl, rfl⟩
      · have hzero : (double (.finite a 0)).exact = (int 0).exact := by
          rw [exact, exact, Int.zero_mul]
          cases a <;> rfl
        exact absurd hzero (hx 0)
      · rfl
  | double .nan, double .nan => rfl
  | double (.infinite true), double (.infinite true) => rfl
  | double (.infinite false), double (.infinite false) => rfl

theorem display_congr {x y : Number} (h : x.exact = y.exact) : x.display = y.display := by
  by_cases hwhole : ∃ n, x.exact = (int n).exact
  · obtain ⟨n, hn⟩ := hwhole
    rw [display_of_exact_int hn, display_of_exact_int (h.symm.trans hn)]
  · rw [eq_of_exact_eq h (not_exists.1 hwhole)]

/-- A whole number that is a double has few digits. -/
theorem fits_of_exact_double {x : Double} {n : Int} (hx : (double x).InRange)
    (h : (double x).exact = (int n).exact) : Numeral.fits n = true := by
  match x with
  | .finite negative units =>
      have hunits : units = n.natAbs * Double.one := by
        rw [← Double.natAbs_signedUnits negative units, Exact.units.inj h, Int.natAbs_mul,
          Int.natAbs_natCast]
      have hbound : Double.bound ≤ 10 ^ 309 * Double.one := by decide +kernel
      have hlt : n.natAbs * Double.one < 10 ^ 309 * Double.one := by
        rw [← hunits]
        exact Nat.lt_of_lt_of_le hx hbound
      exact Numeral.fits_of_lt (Nat.lt_of_mul_lt_mul_right hlt) (by decide)

theorem isWritable_congr {x y : Number} (hx : x.InRange) (hy : y.InRange)
    (h : x.exact = y.exact) : x.isWritable = y.isWritable := by
  match x, y with
  | int m, int n => rw [exact_int_injective h]
  | int m, double y => exact fits_of_exact_double hy h.symm
  | double x, int n => exact (fits_of_exact_double hx h).symm
  | double _, double _ => rfl

/-! ## The characters of numeric texts -/

theorem ascii_of_alphanumericValue? {c : CodePoint} {d : Nat}
    (h : c.alphanumericValue? = some d) : 0x30 ≤ c.val ∧ c.val ≤ 0x7A := by
  simp only [CodePoint.alphanumericValue?, Bool.and_eq_true, decide_eq_true_eq] at h
  split at h
  · omega
  · split at h
    · omega
    · split at h
      · omega
      · cases h

theorem ascii_of_digitValue? {c : CodePoint} {base d : Nat} (h : c.digitValue? base = some d) :
    0x30 ≤ c.val ∧ c.val ≤ 0x7A := by
  unfold CodePoint.digitValue? at h
  split at h
  · rename_i value hvalue
    exact ascii_of_alphanumericValue? hvalue
  · cases h

/-- Numeric texts consist of printable ASCII characters and digits of any script. -/
theorem Spells.forall_mem {p : CodePoint → Prop} {t : Text} {l : Literal} (h : Spells t l)
    (hascii : ∀ c : CodePoint, 0x2B ≤ c.val → c.val ≤ 0x7A → p c)
    (hdecimal : ∀ c d, c.decimalValue? = some d → p c) : ∀ c ∈ t, p c := by
  have hsigns : p (CodePoint.ofChar '-') ∧ p (CodePoint.ofChar '+') :=
    ⟨hascii _ (by decide) (by decide), hascii _ (by decide) (by decide)⟩
  cases h with
  | infinity hsign =>
      have hword :
          (Text.ofString "Infinity").all (fun c => 0x2B ≤ c.val ∧ c.val ≤ 0x7A) = true := by
        decide
      refine List.forall_mem_append.2 ⟨hsign.forall_mem hsigns, fun c hc => ?_⟩
      have hrange := of_decide_eq_true (List.all_eq_true.1 hword c hc)
      exact hascii c hrange.1 hrange.2
  | decimal hsign hmantissa hexponent =>
      have hrun : ∀ {t digits}, Digits t digits → ∀ c ∈ t, p c := by
        intro t digits hdigits c hc
        obtain ⟨d, hd⟩ := exists_of_mem_run hdigits hc
        exact hdecimal c d hd
      have hmark : ∀ c, IsMark c → p c := by
        rintro c (rfl | rfl)
        · exact hascii _ (by decide) (by decide)
        · exact hascii _ (by decide) (by decide)
      have hpoint : p point := hascii _ (by decide) (by decide)
      exact List.forall_mem_append.2 ⟨hsign.forall_mem hsigns, List.forall_mem_append.2
        ⟨hmantissa.forall_mem hrun hpoint, hexponent.forall_mem hsigns hrun hmark⟩⟩
  | @whole mark base t digits hmark hdigits _ =>
      have hletters : ∀ mark ∈ marks, 0x2B ≤ mark.1.val ∧ mark.1.val ≤ 0x7A := by decide
      have hletter := hletters (mark, base) hmark
      refine List.forall_mem_cons.2 ⟨hascii _ (by decide) (by decide),
        List.forall_mem_cons.2 ⟨hascii _ hletter.1 hletter.2, fun c hc => ?_⟩⟩
      obtain ⟨d, hd⟩ := exists_of_mem_run hdigits hc
      have hrange := ascii_of_digitValue? hd
      exact hascii c (by omega) hrange.2

theorem Spells.strip_eq {t : Text} {l : Literal} (h : Spells t l) : t.strip = t := by
  apply Text.trim_eq_self
  refine h.forall_mem (p := fun c => c.isBlank = false) ?_ ?_
  · intro c hlow hhigh
    simp only [CodePoint.isBlank, CodePoint.isWhiteSpace, Bool.or_eq_false_iff,
      Bool.and_eq_false_iff, decide_eq_false_iff_not, beq_eq_false_iff_ne]
    omega
  · exact fun c d hd => (CodePoint.plain_of_decimalValue? hd).1

theorem Spells.hasSurrogate {t : Text} {l : Literal} (h : Spells t l) :
    t.hasSurrogate = false := by
  rw [Text.hasSurrogate_eq_false_iff]
  refine h.forall_mem (p := fun c => c.isSurrogate = false) ?_ ?_
  · intro c _ hhigh
    simp only [CodePoint.isSurrogate, Bool.and_eq_false_iff, decide_eq_false_iff_not]
    omega
  · exact fun c d hd => CodePoint.isSurrogate_of_decimalValue? hd

/-! ## Spellings -/

inductive Spelling (n : Int) : Json → Prop
  | whole : Spelling n (.number (.int n))
  | double {x : Double} (h : (Number.double x).value? = some ((n : ℚ) : WithTop ℚ)) :
      Spelling n (.number (.double x))
  | radix {t : Text} {m : Nat} (hm : (m : Int) = n) (h : Spells t.strip (.whole m)) :
      Spelling n (.str t)
  | decimal (h : n.natAbs ≤ 2 ^ 53) : Spelling n (.str (Text.ofInt n))

theorem digitValue?_digitChar {base d : Nat} (hbase : base ≤ 16) (hd : d < base) :
    (CodePoint.ofChar d.digitChar).digitValue? base = some d := by
  have htable : ∀ d < 16, (CodePoint.ofChar d.digitChar).alphanumericValue? = some d := by
    decide +kernel
  simp only [CodePoint.digitValue?, htable d (by omega), if_pos hd]

def radixText (mark : CodePoint) (base n : Nat) : Text :=
  CodePoint.ofChar '0' :: mark :: (Nat.toDigits base n).map CodePoint.ofChar

theorem spells_radixText {mark : CodePoint} {base : Nat} (hmark : (mark, base) ∈ marks) (n : Nat) :
    Spells (radixText mark base n) (.whole n) := by
  have hbases : ∀ mark ∈ marks, 1 < mark.2 ∧ mark.2 ≤ 16 := by decide
  obtain ⟨hbase, hsmall⟩ := hbases _ hmark
  obtain ⟨digits, hdigits, hlt, hvalue⟩ := exists_toDigits hbase n
  have hne : digits ≠ [] := by
    rintro rfl
    exact absurd hdigits (by simp)
  rw [radixText, hdigits]
  have hrun : ((digits.map Nat.digitChar).map CodePoint.ofChar).map (·.digitValue? base) =
      digits.map some := by
    rw [List.map_map, List.map_map]
    exact List.map_congr_left fun d hd => digitValue?_digitChar hsmall (hlt d hd)
  have hspells := Spells.whole hmark hrun hne
  rwa [hvalue] at hspells

theorem spelling_radixText {mark : CodePoint} {base : Nat} (hmark : (mark, base) ∈ marks)
    (n : Nat) : Spelling n (.str (radixText mark base n)) := by
  have hspells := spells_radixText hmark n
  rw [← hspells.strip_eq] at hspells
  exact .radix rfl hspells

theorem spells_ofNat {sign : Text} {negative : Bool} (hsign : Sign sign negative) (n : Nat) :
    Spells (sign ++ Text.ofNat n) (.decimal negative n) := by
  obtain ⟨digits, hdigits, hlt, hvalue⟩ := exists_toDigits (by decide : 1 < 10) n
  have hne : digits ≠ [] := by
    rintro rfl
    exact absurd hdigits (by simp)
  have hrun : Digits (Text.ofNat n) digits := by
    rw [Digits, Text.ofNat, hdigits, List.map_map, List.map_map]
    exact List.map_congr_left fun d hd => CodePoint.decimalValue?_digitChar d (hlt d hd)
  have hspells := Spells.decimal hsign (.whole hrun hne) .none
  have hmagnitude : magnitude digits [] 0 = n := by
    have hnil : value 10 [] = 0 := rfl
    simp [magnitude, hvalue, hnil]
  rwa [List.append_nil, hmagnitude] at hspells

theorem exists_spells_ofInt (n : Int) :
    ∃ negative, Spells (Text.ofInt n) (.decimal negative n.natAbs) ∧
      Double.signedUnits negative n.natAbs = n := by
  cases n with
  | ofNat k => exact ⟨false, spells_ofNat .none k, rfl⟩
  | negSucc k => exact ⟨true, spells_ofNat .minus (k + 1), rfl⟩

theorem exists_ofText?_ofInt {n : Int} (h : n.natAbs ≤ 2 ^ 53) :
    ∃ x, ofText? (Text.ofInt n) = some x ∧ x.exact = (int n).exact := by
  obtain ⟨negative, hspells, hsign⟩ := exists_spells_ofInt n
  have hstrip := hspells.strip_eq
  rw [← hstrip] at hspells
  obtain ⟨x, hread, hdenotes⟩ := exists_ofText? hspells
  refine ⟨x, hread, ?_⟩
  cases hdenotes with
  | decimal hrounds =>
      have hone : Double.one = 2 ^ 1074 := by decide +kernel
      have hunits : Double.Representable (n.natAbs * Double.one) := by
        rw [hone]
        exact Double.representable_mul h 1074
      have hbound : n.natAbs * Double.one < Double.bound := by
        calc
          n.natAbs * Double.one ≤ 2 ^ 53 * Double.one := Nat.mul_le_mul_right _ h
          _ < Double.bound := by decide +kernel
      rw [hrounds.eq_finite (by push_cast; rfl) hunits hbound, exact, exact,
        Double.signedUnits_mul, hsign]

/-- However a whole number is spelled, its value is read. -/
theorem Spelling.exists_ofJson? {n : Int} {v : Json} (h : Spelling n v) :
    ∃ x, ofJson? v = some x ∧ x.exact = (int n).exact := by
  cases h with
  | whole => exact ⟨_, rfl, rfl⟩
  | @double x h =>
      have hnan : (Number.double x).isNan = false := by
        rw [Bool.eq_false_iff, Ne, ← value?_eq_none_iff, h]
        exact Option.some_ne_none _
      exact ⟨_, by rw [ofJson?, hnan]; rfl, (value?_eq_iff _ (int n)).1 h⟩
  | radix hm h =>
      obtain ⟨x, hread, hdenotes⟩ := exists_ofText? h
      cases hdenotes with
      | whole m => exact ⟨_, hread, by rw [hm]⟩
  | decimal h => exact exists_ofText?_ofInt h

end Number

end FormIntake
