import FormIntake.Number.Reading
import FormIntake.Proofs.Numeral.Grammar
import Mathlib.Logic.Basic
/-!
# The grammar of decimal numerals

A sign, digits with a point among them, and an exponent. Which runs of digits
count, and how they are taken from the beginning of a text, is left open.
-/

namespace FormIntake.Number

open Numeral

def point : CodePoint := CodePoint.ofChar '.'

def IsMark (c : CodePoint) : Prop :=
  c = CodePoint.ofChar 'e' ∨ c = CodePoint.ofChar 'E'

/-- Digits are taken as long as they last: what is taken is a run, and a run is taken as a whole
if a point, an exponent or nothing follows. -/
structure Takes (take : TakeDigits) (Run : Text → List Nat → Prop) : Prop where
  exists_run : ∀ t, ∃ taken, t = taken ++ (take t).2 ∧ Run taken (take t).1
  run : ∀ {t digits rest}, Run t digits → (∀ c ∈ rest.head?, c = point ∨ IsMark c) →
    take (t ++ rest) = (digits, rest)
  nil : ∀ {digits}, Run [] digits → digits = []
  unsigned : ∀ {t digits}, Run t digits →
    ∀ c ∈ t.head?, c ≠ CodePoint.ofChar '-' ∧ c ≠ CodePoint.ofChar '+'

inductive Mantissa (Run : Text → List Nat → Prop) : Text → List Nat → List Nat → Prop
  | whole {t : Text} {digits : List Nat} (h : Run t digits) (hne : digits ≠ []) :
      Mantissa Run t digits []
  | pointed {t u : Text} {whole places : List Nat} (ht : Run t whole) (hu : Run u places)
      (hne : whole ≠ [] ∨ places ≠ []) : Mantissa Run (t ++ point :: u) whole places

inductive Exponent (Run : Text → List Nat → Prop) : Text → Int → Prop
  | none : Exponent Run [] 0
  | some {mark : CodePoint} {sign t : Text} {negative : Bool} {digits : List Nat}
      (hmark : IsMark mark) (hsign : Sign sign negative) (h : Run t digits) (hne : digits ≠ []) :
      Exponent Run (mark :: (sign ++ t)) (signed negative (value 10 digits))

inductive Decimal (Run : Text → List Nat → Prop) : Text → Double → Prop
  | mk {sign mantissa exponent : Text} {negative : Bool} {whole places : List Nat} {e : Int}
      (hsign : Sign sign negative) (hmantissa : Mantissa Run mantissa whole places)
      (hexponent : Exponent Run exponent e) :
      Decimal Run (sign ++ (mantissa ++ exponent))
        (.ofDecimal negative (value 10 (whole ++ places)) (e - places.length))

variable {take : TakeDigits} {Run : Text → List Nat → Prop}

/-! ## Code points -/

section

variable {p : CodePoint → Prop} (hsigns : p (CodePoint.ofChar '-') ∧ p (CodePoint.ofChar '+'))
  (hrun : ∀ {t digits}, Run t digits → ∀ c ∈ t, p c)

include hrun

theorem Mantissa.forall_mem {t : Text} {whole places : List Nat} (h : Mantissa Run t whole places)
    (hpoint : p point) : ∀ c ∈ t, p c := by
  cases h with
  | whole ht _ => exact hrun ht
  | pointed ht hu _ =>
      intro c hc
      rcases List.mem_append.1 hc with hc | hc
      · exact hrun ht c hc
      · rcases List.mem_cons.1 hc with rfl | hc
        · exact hpoint
        · exact hrun hu c hc

include hsigns

theorem Exponent.forall_mem {t : Text} {e : Int} (h : Exponent Run t e)
    (hmark : ∀ c, IsMark c → p c) : ∀ c ∈ t, p c := by
  cases h with
  | none =>
      intro c hc
      cases hc
  | some hm hsign ht _ =>
      intro c hc
      rcases List.mem_cons.1 hc with rfl | hc
      · exact hmark c hm
      · rcases List.mem_append.1 hc with hc | hc
        · exact hsign.forall_mem hsigns c hc
        · exact hrun ht c hc

theorem Decimal.forall_mem {t : Text} {x : Double} (h : Decimal Run t x) (hpoint : p point)
    (hmark : ∀ c, IsMark c → p c) : ∀ c ∈ t, p c := by
  cases h with
  | mk hsign hmantissa hexponent =>
      intro c hc
      rcases List.mem_append.1 hc with hc | hc
      · exact hsign.forall_mem hsigns c hc
      · rcases List.mem_append.1 hc with hc | hc
        · exact hmantissa.forall_mem hrun hpoint c hc
        · exact hexponent.forall_mem hsigns hrun hmark c hc

end

theorem Exponent.head {t : Text} {e : Int} (h : Exponent Run t e) : ∀ c ∈ t.head?, IsMark c := by
  cases h with
  | none =>
      intro c hc
      cases hc
  | some hmark _ _ _ =>
      intro c hc
      rw [← Option.some.inj hc]
      exact hmark

theorem not_isMark_point : ¬ IsMark point := by
  unfold IsMark point
  decide

/-! ## The reader -/

theorem mantissa?_of_point {t after rest : Text} {whole places : List Nat}
    (hwhole : take t = (whole, point :: after)) (hplaces : take after = (places, rest)) :
    mantissa? take t =
      if whole = [] ∧ places = [] then none else some (whole, places, rest) := by
  simp [mantissa?, hwhole, hplaces, point]

theorem mantissa?_of_ne_point {t rest : Text} {whole : List Nat} (hwhole : take t = (whole, rest))
    (hrest : ∀ c ∈ rest.head?, c ≠ point) :
    mantissa? take t = if whole = [] then none else some (whole, [], rest) := by
  cases rest with
  | nil => simp [mantissa?, hwhole]
  | cons c rest =>
      have hc : c ≠ CodePoint.ofChar '.' := hrest c rfl
      simp [mantissa?, hwhole, hc]

namespace Takes

variable (h : Takes take Run)

include h

theorem mantissa?_append {m rest : Text} {whole places : List Nat}
    (hm : Mantissa Run m whole places) (hrest : ∀ c ∈ rest.head?, IsMark c) :
    mantissa? take (m ++ rest) = some (whole, places, rest) := by
  have hends : ∀ c ∈ rest.head?, c = point ∨ IsMark c := fun c hc => Or.inr (hrest c hc)
  cases hm with
  | whole hrun hne =>
      rw [mantissa?_of_ne_point (h.run hrun hends), if_neg hne]
      rintro c hc rfl
      exact not_isMark_point (hrest _ hc)
  | @pointed t u _ _ ht hu hne =>
      have hwhole : take (t ++ point :: (u ++ rest)) = (whole, point :: (u ++ rest)) :=
        h.run ht fun c hc => Or.inl (Option.some.inj hc).symm
      have hsome : ¬ (whole = [] ∧ places = []) := by
        rintro ⟨hw, hp⟩
        exact hne.elim (absurd hw) (absurd hp)
      rw [List.append_assoc, List.cons_append, mantissa?_of_point hwhole (h.run hu hends),
        if_neg hsome]

theorem exists_mantissa {t rest : Text} {whole places : List Nat}
    (hread : mantissa? take t = some (whole, places, rest)) :
    ∃ m, t = m ++ rest ∧ Mantissa Run m whole places := by
  obtain ⟨taken, htext, hrun⟩ := h.exists_run t
  by_cases hpoint : ∃ after, (take t).2 = point :: after
  · obtain ⟨after, hafter⟩ := hpoint
    obtain ⟨takenAfter, htextAfter, hrunAfter⟩ := h.exists_run after
    have hfirst : take t = ((take t).1, point :: after) := Prod.ext rfl hafter
    rw [mantissa?_of_point hfirst rfl] at hread
    split at hread
    · cases hread
    · rename_i hsome
      obtain ⟨rfl, hafterwards⟩ := Prod.mk.inj (Option.some.inj hread)
      obtain ⟨rfl, rfl⟩ := Prod.mk.inj hafterwards
      rw [not_and_or] at hsome
      refine ⟨taken ++ point :: takenAfter, ?_, .pointed hrun hrunAfter hsome⟩
      rw [List.append_assoc, List.cons_append, ← htextAfter, ← hafter]
      exact htext
  · have hother : ∀ c ∈ (take t).2.head?, c ≠ point := by
      rintro c hc rfl
      obtain ⟨after, hafter⟩ := List.head?_eq_some_iff.1 hc
      exact hpoint ⟨after, hafter⟩
    have hfirst : take t = ((take t).1, (take t).2) := rfl
    rw [mantissa?_of_ne_point hfirst hother] at hread
    split at hread
    · cases hread
    · rename_i hne
      obtain ⟨rfl, hafterwards⟩ := Prod.mk.inj (Option.some.inj hread)
      obtain ⟨rfl, rfl⟩ := Prod.mk.inj hafterwards
      exact ⟨taken, htext, .whole hrun hne⟩

theorem exponent?_eq_some_iff {t : Text} {e : Int} :
    exponent? take t = some e ↔ Exponent Run t e := by
  constructor
  · intro hread
    cases t with
    | nil =>
        rw [← Option.some.inj hread]
        exact .none
    | cons c rest =>
        simp only [exponent?] at hread
        split at hread
        · rename_i hmark
          split at hread
          · rename_i d digits htake
            obtain ⟨sign, htext, hsign⟩ := exists_sign rest
            obtain ⟨taken, hbody, hrun⟩ := h.exists_run (takeSign rest).2
            rw [htake] at hbody hrun
            rw [hbody, List.append_nil] at htext
            rw [← Option.some.inj hread]
            generalize (takeSign rest).1 = negative at *
            subst htext
            exact .some hmark hsign hrun (List.cons_ne_nil d digits)
          · cases hread
        · cases hread
  · intro hexponent
    cases hexponent with
    | none => rfl
    | @some mark sign t negative digits hmark hsign hrun hne =>
        have hsplit := takeSign_append hsign (h.unsigned hrun)
        have htake : take (t ++ []) = (digits, []) := h.run hrun fun c hc => nomatch hc
        rw [List.append_nil] at htake
        obtain ⟨d, digits, rfl⟩ := List.exists_cons_of_ne_nil hne
        have hletter : mark = CodePoint.ofChar 'e' ∨ mark = CodePoint.ofChar 'E' := hmark
        simp only [exponent?, if_pos hletter, hsplit, htake]

theorem unsigned_mantissa {m : Text} {whole places : List Nat} (hm : Mantissa Run m whole places)
    (rest : Text) :
    ∀ c ∈ (m ++ rest).head?, c ≠ CodePoint.ofChar '-' ∧ c ≠ CodePoint.ofChar '+' := by
  intro c hc
  cases hm with
  | whole hrun hne =>
      cases m with
      | nil => exact absurd (h.nil hrun) hne
      | cons first m =>
          rw [← Option.some.inj hc]
          exact h.unsigned hrun first rfl
  | @pointed t u _ _ ht hu _ =>
      cases t with
      | nil =>
          rw [← Option.some.inj hc]
          unfold point
          decide
      | cons first t =>
          rw [← Option.some.inj hc]
          exact h.unsigned ht first rfl

theorem decimal?_eq_some_iff {t : Text} {x : Double} :
    decimal? take t = some x ↔ Decimal Run t x := by
  simp only [decimal?, Option.bind_eq_bind, Option.bind_eq_some_iff, Option.pure_def,
    Option.some.injEq]
  constructor
  · rintro ⟨⟨whole, places, rest⟩, hm, e, he, rfl⟩
    obtain ⟨sign, htext, hsign⟩ := exists_sign t
    obtain ⟨m, hbody, hmantissa⟩ := h.exists_mantissa hm
    have hexponent := h.exponent?_eq_some_iff.1 he
    rw [hbody] at htext
    generalize (takeSign t).1 = negative at *
    subst htext
    exact .mk hsign hmantissa hexponent
  · intro hdecimal
    cases hdecimal with
    | @mk sign m exponent negative whole places e hsign hmantissa hexponent =>
        have hsplit := takeSign_append hsign (h.unsigned_mantissa hmantissa exponent)
        rw [hsplit]
        exact ⟨(whole, places, exponent), h.mantissa?_append hmantissa hexponent.head, e,
          h.exponent?_eq_some_iff.2 hexponent, rfl⟩

end Takes

end FormIntake.Number
