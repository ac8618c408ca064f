import FormIntake.Proofs.Number.Spellings
import FormIntake.Proofs.Validation.Fields
/-!
# Numbers are judged by their values

What is reported about the value of a number field depends on the exact values
of that number and of the bounds, and not on how any of them is spelled. The
values are compared as they are, without rounding.
-/

namespace FormIntake

namespace Number

structure Same (x y : Number) : Prop where
  value : x.value? = y.value?
  inRange : x.InRange ∧ y.InRange

/-- The value of a number keeps to the bounds; a bound without a value, NaN, asks for nothing. -/
structure Within (r : NumberRules) (a : Line) : Prop where
  least : ∀ b ∈ r.min, ∀ c ∈ b.value?, c ≤ a
  greatest : ∀ b ∈ r.max, ∀ c ∈ b.value?, a ≤ c

end Number

namespace Validation

open Number

structure SameBounds (r r' : NumberRules) : Prop where
  min : Option.Rel Same r.min r'.min
  max : Option.Rel Same r.max r'.max

variable {zone : Int} {today : Date} {f : Field} {rules rules' : Option NumberRules} {v w : Json}

/-! ## Reports -/

theorem report_or {label : Text} {o o' p p' : Option Violation}
    (ho : report label o = report label o') (hp : report label p = report label p') :
    report label (o.or p) = report label (o'.or p') := by
  have hnone : o = none ↔ o' = none := by
    rw [← report_eq_none_iff label, ho, report_eq_none_iff]
  cases o with
  | none =>
      rw [hnone.1 rfl]
      exact hp
  | some u =>
      cases o' with
      | none => cases hnone.2 rfl
      | some u' => exact ho

theorem report_breaks_congr {label : Text} {u u' : Violation} {broken broken' : Bool}
    (hmessage : u.message label = u'.message label) (hnameable : u.isNameable = u'.isNameable)
    (hbroken : broken = broken') :
    report label (breaks u broken) = report label (breaks u' broken') := by
  subst hbroken
  cases broken with
  | false => rfl
  | true => simp only [breaks, if_true, report, hmessage, hnameable]

theorem report_bound_congr {label : Text} {bound bound' : Option Number} {u : Number → Violation}
    {broken : Number → Bool} (h : Option.Rel Same bound bound')
    (hu : ∀ x y, x.display = y.display → x.isWritable = y.isWritable →
      (u x).message label = (u y).message label ∧ (u x).isNameable = (u y).isNameable)
    (hbroken : ∀ x y, x.exact = y.exact → broken x = broken y) :
    report label (bound.bind fun b => breaks (u b) (broken b)) =
      report label (bound'.bind fun b => breaks (u b) (broken b)) := by
  cases h with
  | none => rfl
  | @some x y h =>
      have hexact := (value?_eq_iff _ _).1 h.value
      obtain ⟨hmessage, hnameable⟩ :=
        hu x y (display_congr hexact) (isWritable_congr h.inRange.1 h.inRange.2 hexact)
      exact report_breaks_congr hmessage hnameable (hbroken x y hexact)

theorem report_checkNumber_congr (label : Text) (h : Option.Rel SameBounds rules rules')
    (v : Json) : report label (checkNumber rules v) = report label (checkNumber rules' v) := by
  unfold checkNumber
  split
  · rfl
  · rename_i x hx
    cases h with
    | none => rfl
    | @some r r' h =>
        simp only [Option.bind_some, firstOf_pair]
        apply report_or
        · apply report_bound_congr h.min
          · intro x y hdisplay hwritable
            exact ⟨by simp only [Violation.message, hdisplay], hwritable⟩
          · intro b c hexact
            rw [lt, lt, hexact]
        · apply report_bound_congr h.max
          · intro x y hdisplay hwritable
            exact ⟨by simp only [Violation.message, hdisplay], hwritable⟩
          · intro b c hexact
            rw [lt, lt, hexact]

/-- Values of the same number break the same rules. -/
theorem checkNumber_congr {x y : Number} (hv : ofJson? v = some x) (hw : ofJson? w = some y)
    (h : x.exact = y.exact) : checkNumber rules v = checkNumber rules w := by
  simp only [checkNumber, hv, hw, lt, h]

/-! ## Fields -/

theorem validateField_number (hkind : f.kind = .number rules) (v : Json) :
    validateField zone today f v =
      report f.label (if isEmpty v then breaks .missing f.required else checkNumber rules v) := by
  have hviolation : violation zone today f v =
      .ok (if isEmpty v then breaks .missing f.required else checkNumber rules v) := by
    rw [violation, checkKind, hkind, if_neg (by simp)]
    split
    · rfl
    · rfl
  rw [validateField, hviolation]
  split
  · rename_i h
    cases h
  · rename_i h
    rw [Except.ok.inj h]
    rfl
  · rename_i u h
    rw [Except.ok.inj h]
    rfl

theorem validateField_of_number {x : Number} (hkind : f.kind = .number rules)
    (hx : ofJson? v = some x) :
    validateField zone today f v = report f.label (checkNumber rules v) := by
  have hfull : ¬ isEmpty v = true := fun h =>
    not_vacant_of_ofJson? hx ((isEmpty_iff_vacant v).1 h)
  rw [validateField_number hkind, if_neg hfull]

/-! ## Verdicts -/

/-- What is found about a number of the given value: the least bound comes first. -/
inductive Verdict (r : NumberRules) (a : Line) : Option Violation → Prop
  | tooSmall {b : Number} {c : Line} (hb : r.min = some b) (hc : b.value? = some c) (h : a < c) :
      Verdict r a (some (.tooSmall b))
  | tooLarge {b : Number} {c : Line} (hmin : ∀ b ∈ r.min, ∀ c ∈ b.value?, c ≤ a)
      (hb : r.max = some b) (hc : b.value? = some c) (h : c < a) :
      Verdict r a (some (.tooLarge b))
  | within (h : Within r a) : Verdict r a none

theorem Verdict.eq_none_iff {r : NumberRules} {a : Line} {o : Option Violation}
    (h : Verdict r a o) : o = none ↔ Within r a := by
  cases h with
  | tooSmall hb hc hlt =>
      constructor
      · intro hnone
        cases hnone
      · intro hwithin
        exact absurd (hwithin.least _ hb _ hc) (not_le_of_gt hlt)
  | tooLarge _ hb hc hlt =>
      constructor
      · intro hnone
        cases hnone
      · intro hwithin
        exact absurd (hwithin.greatest _ hb _ hc) (not_le_of_gt hlt)
  | within hwithin => exact ⟨fun _ => hwithin, fun _ => rfl⟩

theorem bound_cases (bound : Option Number) (u : Number → Violation) (broken : Number → Bool) :
    ((bound.bind fun b => breaks (u b) (broken b)) = none ∧ ∀ b ∈ bound, broken b = false) ∨
      ∃ b, bound = some b ∧ broken b = true ∧
        (bound.bind fun b => breaks (u b) (broken b)) = some (u b) := by
  cases bound with
  | none => exact Or.inl ⟨rfl, fun b hb => by cases hb⟩
  | some b =>
      cases hb : broken b with
      | false =>
          refine Or.inl ⟨by simp [breaks, hb], ?_⟩
          intro c hc
          rw [← Option.some.inj hc, hb]
      | true => exact Or.inr ⟨b, rfl, hb, by simp [breaks, hb]⟩

theorem le_of_not_lt {x y : Number} {a c : Line} (h : x.lt y = false) (hx : x.value? = some a)
    (hy : y.value? = some c) : c ≤ a := by
  rw [Bool.eq_false_iff, Ne, lt_iff_below, below_iff hx hy] at h
  exact not_lt.1 h

/-- The numbers are compared by their values. -/
theorem checkNumber_verdict (rules : Option NumberRules) {x : Number} {a : Line}
    (hx : ofJson? v = some x) (ha : x.value? = some a) :
    Verdict (rules.getD ⟨none, none⟩) a (checkNumber rules v) := by
  simp only [checkNumber, hx]
  cases rules with
  | none =>
      apply Verdict.within
      constructor
      · intro b hb
        cases hb
      · intro b hb
        cases hb
  | some r =>
      rw [Option.getD_some, Option.bind_some, firstOf_pair]
      rcases bound_cases r.min .tooSmall x.lt with ⟨hnone, hmin⟩ | ⟨b, hb, hbroken, hsome⟩
      · have hleast : ∀ b ∈ r.min, ∀ c ∈ b.value?, c ≤ a :=
          fun b hb c hc => le_of_not_lt (hmin b hb) ha hc
        rw [hnone, Option.none_or]
        rcases bound_cases r.max .tooLarge (·.lt x) with ⟨hnone', hmax⟩ | ⟨b, hb, hbroken, hsome⟩
        · rw [hnone']
          exact .within ⟨hleast, fun b hb c hc => le_of_not_lt (hmax b hb) hc ha⟩
        · obtain ⟨c, a', hc, ha', hlt⟩ := (lt_iff_below b x).1 hbroken
          rw [hsome]
          rw [ha] at ha'
          rw [← Option.some.inj ha'] at hlt
          exact .tooLarge hleast hb hc hlt
      · obtain ⟨a', c, ha', hc, hlt⟩ := (lt_iff_below x b).1 hbroken
        rw [hsome, Option.some_or]
        rw [ha] at ha'
        rw [← Option.some.inj ha'] at hlt
        exact .tooSmall hb hc hlt

/-! ## Number fields -/

/-- A number field judges by values alone: what it reports stays the same when its bounds or a
whole number are given in another form, and it takes a number exactly if the value lies within
those of the bounds. -/
theorem number_judged_by_value (zone : Int) (today : Date) {f : Field}
    {rules : Option NumberRules} (hkind : f.kind = .number rules) :
    (∀ rules' v, Option.Rel SameBounds rules rules' →
      validateField zone today { f with kind := .number rules' } v =
        validateField zone today f v) ∧
    (∀ n v w, Spelling n v → Spelling n w →
      validateField zone today f v = validateField zone today f w) ∧
    (∀ mark ∈ marks, ∀ n : Nat, Spelling n (.str (radixText mark.1 mark.2 n))) ∧
    ∀ v x a, ofJson? v = some x → x.value? = some a →
      (validateField zone today f v = .ok none ↔ Within (rules.getD ⟨none, none⟩) a) ∧
      ∃ o, Verdict (rules.getD ⟨none, none⟩) a o ∧
        validateField zone today f v = report f.label o := by
  refine ⟨?_, ?_, fun mark hmark n => spelling_radixText hmark n, ?_⟩
  · intro rules' v hrules
    rw [validateField_number rfl, validateField_number hkind]
    split
    · rfl
    · exact (report_checkNumber_congr f.label hrules v).symm
  · intro n v w hv hw
    obtain ⟨x, hx, hexact⟩ := hv.exists_ofJson?
    obtain ⟨y, hy, hexact'⟩ := hw.exists_ofJson?
    rw [validateField_of_number hkind hx, validateField_of_number hkind hy,
      checkNumber_congr hx hy (hexact.trans hexact'.symm)]
  · intro v x a hx ha
    have hverdict := checkNumber_verdict rules hx ha
    rw [validateField_of_number hkind hx, report_eq_none_iff]
    exact ⟨hverdict.eq_none_iff, _, hverdict, rfl⟩

def sizeField : Field where
  name := "size"
  label := "Size"
  required := true
  kind := .number (some ⟨some (.int 5), none⟩)

def fiveAsDouble : Number :=
  .double (.finite false (5 * Double.one))

def sizeDay : Date :=
  ⟨2025, 3, 2, by decide⟩

theorem sizeField_judges_by_value :
    sizeField.kind = .number (some ⟨some (.int 5), none⟩) ∧
      Option.Rel SameBounds (some ⟨some (.int 5), none⟩) (some ⟨some fiveAsDouble, none⟩) ∧
      Spelling 4 (.str "0x04") ∧ Spelling 4 (.str (Text.ofInt 4)) ∧
      validateField 0 sizeDay { sizeField with kind := .number (some ⟨some fiveAsDouble, none⟩) }
        (.str "0x04") = validateField 0 sizeDay sizeField (.str (Text.ofInt 4)) ∧
      ofJson? (.str "5") = some fiveAsDouble ∧
      fiveAsDouble.value? = some ((5 : ℚ) : WithTop ℚ) ∧
      validateField 0 sizeDay sizeField (.str "5") = .ok none := by
  have hexact : fiveAsDouble.exact = (int 5).exact := by decide +kernel
  have hvalue : fiveAsDouble.value? = some ((5 : ℚ) : WithTop ℚ) :=
    (value?_eq_iff fiveAsDouble (int 5)).2 hexact
  have hrange : 5 * Double.one < Double.bound := by decide +kernel
  have hsame : Same (int 5) fiveAsDouble := ⟨hvalue.symm, trivial, hrange⟩
  have hbounds : Option.Rel SameBounds (some ⟨some (.int 5), none⟩)
      (some ⟨some fiveAsDouble, none⟩) := .some ⟨.some hsame, .none⟩
  have hradix : Spelling 4 (.str "0x04") :=
    @Spelling.radix 4 _ 4 rfl (@Spells.whole (CodePoint.ofChar 'x') 16 (Text.ofString "04") [0, 4]
      (by decide) (by decide) (by decide))
  have hdecimal : Spelling 4 (.str (Text.ofInt 4)) := .decimal (by decide)
  have hread : ofJson? (.str "5") = some fiveAsDouble := by decide +kernel
  obtain ⟨hforms, hspelt, -, hverdict⟩ := number_judged_by_value 0 sizeDay (f := sizeField) rfl
  refine ⟨rfl, hbounds, hradix, hdecimal, ?_, hread, hvalue, ?_⟩
  · rw [hforms _ _ hbounds]
    exact hspelt _ _ _ hradix hdecimal
  · apply (hverdict _ _ _ hread hvalue).1.2
    constructor
    · intro b hb c hc
      rw [← Option.some.inj hb] at hc
      rw [← Option.some.inj hc]
      exact le_refl _
    · intro b hb
      cases hb

end Validation

end FormIntake
