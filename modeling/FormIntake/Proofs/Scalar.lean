import FormIntake.Proofs.Checked
import FormIntake.Proofs.Numeral
import FormIntake.Scalar
/-!
# Scalars in documents

Numbers read from a document keep to the digit limit if those of the document
do: texts are measured as they are read, and doubles give 64-bit words. Every
value is either accepted as a scalar or rejected with a problem.
-/

namespace FormIntake.Scalar

/-! ## Digits -/

theorem fits_of_readIntText {t : Text} {n : Int} (h : readIntText t = .accepted n) :
    Numeral.fits n = true := by
  unfold readIntText at h
  split at h
  · simp [Checked.reject] at h
  · split at h
    · simp [Checked.reject] at h
    · rename_i negative digits hdigits
      split at h
      · simp [Checked.reject] at h
      · rename_i hlength
        simp only [Checked.accepted.injEq] at h
        obtain ⟨read, hread, heq⟩ := Option.map_eq_some_iff.1 hdigits
        have hdigit : ∀ d ∈ digits, d < 10 := by
          intro d hd
          have hmem : d ∈ read := by
            rw [← (Prod.mk.inj heq).2] at hd
            exact hd
          obtain ⟨c, hc⟩ := Numeral.exists_of_groupedDigits? hread hmem
          exact CodePoint.digitValue?_lt hc
        have hvalue := Numeral.value_lt (by decide) hdigit
        rw [← h]
        refine Numeral.fits_of_lt ?_ (Nat.le_of_not_lt hlength)
        rw [Numeral.natAbs_signed]
        exact hvalue

theorem isWord_iff {n : Int} :
    isWord n = true ↔ -0x8000000000000000 ≤ n ∧ n < 0x8000000000000000 := by
  unfold isWord
  rw [Bool.and_eq_true, decide_eq_true_eq, decide_eq_true_eq]
  unfold leastWord
  norm_num

theorem fits_of_isWord {n : Int} (h : isWord n = true) : Numeral.fits n = true := by
  rw [isWord_iff] at h
  have hlt : n.natAbs < 10 ^ 19 := by omega
  exact Numeral.fits_of_lt hlt (by decide)

theorem fits_of_intOfDouble {x : Double} {n : Int} (h : intOfDouble x = .accepted n) :
    Numeral.fits n = true := by
  unfold intOfDouble at h
  split at h
  · split at h
    · split at h
      · rename_i hword
        simp only [Checked.accepted.injEq] at h
        subst h
        exact fits_of_isWord (Bool.and_eq_true_iff.1 hword).1
      · simp [Checked.reject] at h
    · simp [Checked.reject] at h
  · simp [Checked.reject] at h

theorem fits_of_bool (b : Bool) : Numeral.fits b.toInt = true := by
  have hlt : b.toInt.natAbs < 10 ^ 1 := by
    cases b <;> decide
  exact Numeral.fits_of_lt hlt (by decide)

theorem fits_of_readInt {json : Json} {n : Int} (h : readInt json = .accepted n)
    (hdigits : json.integerDigits ≤ Numeral.digitLimit) : Numeral.fits n = true := by
  match json with
  | .bool b =>
      simp only [readInt, Checked.accepted.injEq] at h
      rw [← h]
      exact fits_of_bool b
  | .str t => exact fits_of_readIntText h
  | .number (.int m) =>
      simp only [readInt, Checked.accepted.injEq] at h
      rw [← h]
      exact Numeral.fits_of_length hdigits
  | .number (.double x) => exact fits_of_intOfDouble h
  | .null | .arr _ | .obj _ => simp [readInt, Checked.reject] at h

theorem fits_of_readCount {json : Json} {n : Nat} (h : readCount json = .accepted n)
    (hdigits : json.integerDigits ≤ Numeral.digitLimit) : Numeral.fits n = true := by
  rw [readCount, Checked.andThen_eq_accepted] at h
  obtain ⟨m, hm, hcount⟩ := h
  split at hcount
  · rename_i hpos
    simp only [Checked.accepted.injEq] at hcount
    have heq : (n : Int) = m := by omega
    rw [heq]
    exact fits_of_readInt hm hdigits
  · simp [Checked.reject] at hcount

theorem isWritable_of_readNumber {json : Json} {x : Number} (h : readNumber json = .accepted x)
    (hdigits : json.integerDigits ≤ Numeral.digitLimit) : x.isWritable = true := by
  match json with
  | .bool b =>
      simp only [readNumber, Checked.accepted.injEq] at h
      rw [← h]
      exact fits_of_bool b
  | .number (.int m) =>
      simp only [readNumber, Checked.accepted.injEq] at h
      rw [← h]
      exact Numeral.fits_of_length hdigits
  | .number (.double y) =>
      simp only [readNumber, Checked.accepted.injEq] at h
      rw [← h]
      rfl
  | .str t =>
      cases hread : readIntText t with
      | accepted n =>
          simp only [readNumber, hread, Checked.accepted.injEq] at h
          rw [← h]
          exact fits_of_readIntText hread
      | rejected _ | overflow =>
          simp only [readNumber, hread] at h
          split at h
          · simp [rejectNumber] at h
          · split at h
            · simp only [Checked.accepted.injEq] at h
              rw [← h]
              rfl
            · simp [rejectNumber] at h
  | .null | .arr _ | .obj _ => simp [readNumber, rejectNumber] at h

/-! ## Definite readings -/

open Checked

theorem definite_boolOfInt (n : Int) : Definite (boolOfInt n) := by
  unfold boolOfInt
  split
  · exact definite_accepted false
  · split
    · exact definite_accepted true
    · split
      · exact definite_reject _
      · exact definite_reject _

theorem definite_readBoolText (t : Text) : Definite (readBoolText t) := by
  unfold readBoolText
  split
  · exact definite_reject _
  · split
    · exact definite_accepted _
    · exact definite_reject _

theorem definite_readBool (json : Json) : Definite (readBool json) := by
  match json with
  | .bool b => exact definite_accepted b
  | .str t => exact definite_readBoolText t
  | .number (.int n) => exact definite_boolOfInt n
  | .number (.double x) =>
      unfold readBool
      simp only
      split
      · split
        · exact definite_reject _
        · exact definite_boolOfInt _
      · exact definite_reject _
  | .null | .arr _ | .obj _ => exact definite_reject _

theorem definite_readIntText (t : Text) : Definite (readIntText t) := by
  unfold readIntText
  split
  · exact definite_reject _
  · split
    · exact definite_reject _
    · split
      · exact definite_reject _
      · exact definite_accepted _

theorem definite_intOfDouble (x : Double) : Definite (intOfDouble x) := by
  unfold intOfDouble
  split
  · split
    · split
      · exact definite_accepted _
      · exact definite_reject _
    · exact definite_reject _
  · exact definite_reject _

theorem definite_readInt (json : Json) : Definite (readInt json) := by
  match json with
  | .bool b => exact definite_accepted b.toInt
  | .str t => exact definite_readIntText t
  | .number (.int n) => exact definite_accepted n
  | .number (.double x) => exact definite_intOfDouble x
  | .null | .arr _ | .obj _ => exact definite_reject _

theorem definite_rejectNumber (asInt asDouble : Cause) : Definite (rejectNumber asInt asDouble) :=
  ⟨Iff.rfl, by simp [rejectNumber], by simp [rejectNumber]⟩

theorem definite_readNumber (json : Json) : Definite (readNumber json) := by
  match json with
  | .bool b => exact definite_accepted (Number.int b.toInt)
  | .number n => exact definite_accepted n
  | .str t =>
      unfold readNumber
      simp only
      split
      · exact definite_accepted _
      · split
        · exact definite_rejectNumber _ _
        · split
          · exact definite_accepted _
          · exact definite_rejectNumber _ _
  | .null | .arr _ | .obj _ => exact definite_rejectNumber _ _

end FormIntake.Scalar
