import FormIntake.Number.Reading
/-!
# Numbers in submitted values

What a submitted value stands for is a number indeed.
-/

namespace FormIntake

namespace Double

theorem isNan_ofUnits (negative : Bool) (units : Nat) : (ofUnits negative units).isNan = false := by
  unfold ofUnits
  split <;> rfl

theorem isNan_ofDecimal (negative : Bool) (digits : Nat) (exponent : Int) :
    (ofDecimal negative digits exponent).isNan = false := by
  unfold ofDecimal
  split
  · rfl
  · simp only
    split
    · rfl
    · split
      · rfl
      · split
        · exact isNan_ofUnits _ _
        · exact isNan_ofUnits _ _

end Double

namespace Number

theorem isNan_of_readInfinity? {t : Text} {x : Double} (h : readInfinity? t = some x) :
    x.isNan = false := by
  unfold readInfinity? at h
  split at h
  · rw [← Option.some.inj h]
    rfl
  · split at h
    · rw [← Option.some.inj h]
      rfl
    · cases h

theorem isNan_of_readDecimal? {t : Text} {x : Double} (h : readDecimal? t = some x) :
    x.isNan = false := by
  unfold readDecimal? decimal? at h
  simp only [Option.bind_eq_bind, Option.bind_eq_some_iff, Option.pure_def,
    Option.some.injEq] at h
  obtain ⟨_, -, _, -, rfl⟩ := h
  exact Double.isNan_ofDecimal _ _ _

theorem isNan_of_ofJson? {v : Json} {x : Number} (h : ofJson? v = some x) : x.isNan = false := by
  match v with
  | .number n =>
      simp only [ofJson?] at h
      split at h
      · cases h
      · rename_i hnan
        rw [← Option.some.inj h]
        exact eq_false_of_ne_true hnan
  | .str t =>
      simp only [ofJson?, ofText?] at h
      split at h
      · rename_i y hread
        rw [← Option.some.inj h]
        exact isNan_of_readInfinity? hread
      · split at h
        · rename_i y hread
          rw [← Option.some.inj h]
          exact isNan_of_readDecimal? hread
        · obtain ⟨n, -, rfl⟩ := Option.map_eq_some_iff.1 h
          rfl
  | .null | .bool _ | .arr _ | .obj _ => simp [ofJson?] at h

end Number

end FormIntake
