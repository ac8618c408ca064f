import FormIntake.Proofs.Number.Decimal
import FormIntake.Proofs.Scalar
import FormIntake.Proofs.Text.Blank
/-!
# The grammar of scalars

Which values of a document stand for a truth value, a count or a number, said
without the readers.
-/

namespace FormIntake.Scalar

open Checked Numeral Number

def Padded (Core : Text → Prop) (t : Text) : Prop :=
  ∃ before core after, t = before ++ core ++ after ∧ (∀ c ∈ before, c.isWhiteSpace = true) ∧
    (∀ c ∈ after, c.isWhiteSpace = true) ∧ Core core

abbrev decimalDigit? (c : CodePoint) : Option Nat :=
  c.digitValue? 10

def zero : CodePoint := CodePoint.ofChar '0'

/-- What may follow the digits of a whole number: nothing, or a point with zeros after it. -/
def ZeroPlaces (t : Text) : Prop :=
  t = [] ∨ ∃ places, t = point :: places ∧ places ≠ [] ∧ ∀ c ∈ places, c = zero

inductive Whole : Text → Bool → List Nat → Prop
  | mk {sign t places : Text} {negative : Bool} {digits : List Nat} (hsign : Sign sign negative)
      (hdigits : Grouped decimalDigit? t digits) (hplaces : ZeroPlaces places) :
      Whole (sign ++ t ++ places) negative digits

/-- The text stands for the whole number; longer numerals are not read. -/
def SpellsInt (t : Text) (n : Int) : Prop :=
  t.hasSurrogate = false ∧ ∃ negative digits, Padded (fun core => Whole core negative digits) t ∧
    digits.length ≤ digitLimit ∧ n = signed negative (value 10 digits)

def IsName (t : Text) : Prop :=
  ∃ sign negative name, t = sign ++ name ∧ Sign sign negative ∧
    ∃ word ∈ ["nan", "inf", "infinity"], name.asciiLower = Text.ofString word

def SpellsDouble (t : Text) : Prop :=
  t.hasSurrogate = false ∧
    Padded (fun core => IsName core ∨ ∃ x, Decimal (Run decimalDigit?) core x) t

def yesWords : List String :=
  ["1", "on", "t", "true", "y", "yes"]

def noWords : List String :=
  ["0", "off", "f", "false", "n", "no"]

/-- A truth value, a zero or a one, or a word for a truth value without regard to ASCII case. -/
def IsBool : Json → Prop
  | .bool _ => True
  | .number (.int n) => n = 0 ∨ n = 1
  | .number (.double x) => x.toInt? = some 0 ∨ x.toInt? = some 1
  | .str t => t.hasSurrogate = false ∧
      ∃ word ∈ yesWords ++ noWords, t.asciiLower = Text.ofString word
  | _ => False

/-- A truth value, or a whole number that is not negative: as such, as a double within 64 bits, or
as a numeral. -/
def IsCount : Json → Prop
  | .bool _ => True
  | .number (.int n) => 0 ≤ n
  | .number (.double x) => ∃ n, x.toInt? = some n ∧ 0 ≤ n ∧ n < 0x8000000000000000
  | .str t => ∃ n, SpellsInt t n ∧ 0 ≤ n
  | _ => False

def IsNumber : Json → Prop
  | .bool _ => True
  | .number _ => True
  | .str t => (∃ n, SpellsInt t n) ∨ SpellsDouble t
  | _ => False

/-! ## Padding -/

theorem padded_iff {Core : Text → Prop}
    (h : ∀ core, Core core → ∀ c ∈ core, c.isWhiteSpace = false) {t : Text} :
    Padded Core t ↔ Core (t.trim CodePoint.isWhiteSpace) := by
  constructor
  · rintro ⟨before, core, after, rfl, hbefore, hafter, hcore⟩
    rw [Text.trim_padded hbefore (h core hcore) hafter]
    exact hcore
  · intro hcore
    obtain ⟨before, after, htext, hbefore, hafter⟩ := Text.exists_padding CodePoint.isWhiteSpace t
    exact ⟨before, _, after, htext, hbefore, hafter, hcore⟩

theorem signs_not_white : (CodePoint.ofChar '-').isWhiteSpace = false ∧
    (CodePoint.ofChar '+').isWhiteSpace = false := by
  decide

/-! ## Digits -/

theorem val_of_digit {c : CodePoint} {d : Nat} (h : decimalDigit? c = some d) :
    0x30 ≤ c.val ∧ c.val ≤ 0x39 := by
  have hval := CodePoint.val_of_digitValue? le_rfl h
  have hlt := CodePoint.digitValue?_lt h
  omega

theorem ne_of_digit {c other : CodePoint} {d : Nat} (h : decimalDigit? c = some d)
    (hother : other.val < 0x30 ∨ 0x39 < other.val) : c ≠ other := by
  rintro rfl
  have hval := val_of_digit h
  omega

theorem not_white_of_digit {c : CodePoint} {d : Nat} (h : decimalDigit? c = some d) :
    c.isWhiteSpace = false := by
  have hval := val_of_digit h
  simp only [CodePoint.isWhiteSpace, Bool.or_eq_false_iff, Bool.and_eq_false_iff,
    decide_eq_false_iff_not, beq_eq_false_iff_ne]
  omega

theorem decimalDigit?_lowLine : decimalDigit? lowLine = none := by
  decide

theorem ne_sign_of_digit {c : CodePoint} {d : Nat} (h : decimalDigit? c = some d) :
    c ≠ CodePoint.ofChar '-' ∧ c ≠ CodePoint.ofChar '+' :=
  ⟨ne_of_digit h (by decide), ne_of_digit h (by decide)⟩

theorem unsigned_of_grouped {t : Text} {digits : List Nat} (h : Grouped decimalDigit? t digits) :
    ∀ c ∈ t.head?, c ≠ CodePoint.ofChar '-' ∧ c ≠ CodePoint.ofChar '+' := by
  obtain ⟨c, d, rest, rfl, hc⟩ := h.exists_cons
  intro other hother
  rw [← Option.some.inj hother]
  exact ne_sign_of_digit hc

theorem not_white_of_grouped {t : Text} {digits : List Nat} (h : Grouped decimalDigit? t digits) :
    ∀ c ∈ t, c.isWhiteSpace = false :=
  h.forall_mem (by decide) fun _ _ => not_white_of_digit

theorem takes_groupedDigits :
    Takes (takeGroupedDigits decimalDigit? false) (Run decimalDigit?) where
  exists_run := exists_run
  run := by
    intro t digits rest hrun hrest
    apply takeGroupedDigits_run decimalDigit?_lowLine hrun
    intro c hc
    rcases hrest c hc with rfl | rfl | rfl <;> decide
  nil := by
    rintro digits (⟨-, rfl⟩ | hgrouped)
    · rfl
    · cases hgrouped
  unsigned := by
    rintro t digits (⟨rfl, -⟩ | hgrouped)
    · intro c hc
      cases hc
    · exact unsigned_of_grouped hgrouped

/-! ## Whole numbers -/

theorem dropZeroPlaces_append {t places : Text} (ht : point ∉ t) (hplaces : ZeroPlaces places) :
    dropZeroPlaces (t ++ places) = t := by
  rcases hplaces with rfl | ⟨zeros, rfl, hne, hzeros⟩
  · have hsplit : Text.splitOn (CodePoint.ofChar '.') t = [t] := Text.splitOn_eq_self ht
    rw [List.append_nil, dropZeroPlaces, hsplit]
  · have hpoint : point ∉ zeros := by
      intro hmem
      exact absurd (hzeros point hmem) (by decide)
    have hall : (zeros.all fun c => c = CodePoint.ofChar '0') = true := by
      rw [List.all_eq_true]
      intro c hc
      exact decide_eq_true (hzeros c hc)
    have hsplit : Text.splitOn (CodePoint.ofChar '.') (t ++ point :: zeros) = [t, zeros] := by
      rw [← point, Text.splitOn_append ht, Text.splitOn_eq_self hpoint]
    simp [dropZeroPlaces, hsplit, hne, hall]

theorem exists_zeroPlaces (t : Text) :
    ∃ places, t = dropZeroPlaces t ++ places ∧ ZeroPlaces places := by
  unfold dropZeroPlaces
  split
  · rename_i whole places hsplit
    split
    · rename_i hzeros
      have hjoined : Text.joined [point] [whole, places] = t := by
        rw [← hsplit]
        exact Text.joined_splitOn t
      rw [Bool.and_eq_true, List.all_eq_true] at hzeros
      refine ⟨point :: places, ?_, Or.inr ⟨places, rfl, ?_, ?_⟩⟩
      · rw [← hjoined]
        simp [Text.joined]
      · rintro rfl
        cases hzeros.1
      · intro c hc
        exact of_decide_eq_true (hzeros.2 c hc)
    · exact ⟨[], (List.append_nil t).symm, Or.inl rfl⟩
  · exact ⟨[], (List.append_nil t).symm, Or.inl rfl⟩

theorem Whole.not_white {t : Text} {negative : Bool} {digits : List Nat}
    (h : Whole t negative digits) : ∀ c ∈ t, c.isWhiteSpace = false := by
  cases h with
  | mk hsign hdigits hplaces =>
      intro c hc
      rcases List.mem_append.1 hc with hc | hc
      · rcases List.mem_append.1 hc with hc | hc
        · exact hsign.forall_mem (p := fun c => c.isWhiteSpace = false) signs_not_white c hc
        · exact not_white_of_grouped hdigits c hc
      · rcases hplaces with rfl | ⟨zeros, rfl, -, hzeros⟩
        · cases hc
        · rcases List.mem_cons.1 hc with rfl | hc
          · decide
          · rw [hzeros c hc]
            decide

theorem intDigits?_eq_some_iff {t : Text} {negative : Bool} {digits : List Nat} :
    intDigits? t = some (negative, digits) ↔ Padded (fun core => Whole core negative digits) t := by
  rw [padded_iff fun _ => Whole.not_white, intDigits?]
  generalize t.trim CodePoint.isWhiteSpace = core
  simp only [Option.map_eq_some_iff, Prod.mk.injEq,
    groupedDigits?_eq_some_iff decimalDigit?_lowLine]
  constructor
  · rintro ⟨_, hgrouped, rfl, rfl⟩
    obtain ⟨places, hcore, hplaces⟩ := exists_zeroPlaces core
    obtain ⟨sign, hbody, hsign⟩ := exists_sign (dropZeroPlaces core)
    have hwhole := Whole.mk hsign hgrouped hplaces
    rw [← hbody, ← hcore] at hwhole
    exact hwhole
  · intro hwhole
    cases hwhole with
    | @mk sign body places _ _ hsign hdigits hplaces =>
        have hpoint : ∀ c ∈ sign ++ body, c ≠ point := by
          intro c hc
          rcases List.mem_append.1 hc with hc | hc
          · exact hsign.forall_mem (p := fun c => c ≠ point) (by decide) c hc
          · exact hdigits.forall_mem (p := fun c => c ≠ point) (by decide)
              (fun _ _ hdigit => ne_of_digit hdigit (by decide)) c hc
        rw [dropZeroPlaces_append (fun hmem => hpoint point hmem rfl) hplaces,
          takeSign_append hsign (unsigned_of_grouped hdigits)]
        exact ⟨digits, hdigits, rfl, rfl⟩

theorem readIntText_eq_accepted {t : Text} {n : Int} :
    readIntText t = .accepted n ↔ SpellsInt t n := by
  unfold readIntText SpellsInt
  cases hsurrogate : t.hasSurrogate with
  | true => simp [Checked.reject]
  | false =>
      simp only [← intDigits?_eq_some_iff]
      cases hread : intDigits? t with
      | none => simp [Checked.reject]
      | some found =>
          obtain ⟨negative, digits⟩ := found
          simp only [Bool.false_eq_true, if_false, Option.some.injEq, Prod.mk.injEq, true_and]
          constructor
          · intro h
            split at h
            · simp [Checked.reject] at h
            · rename_i hlimit
              exact ⟨negative, digits, ⟨rfl, rfl⟩, Nat.le_of_not_lt hlimit,
                (Checked.accepted.inj h).symm⟩
          · rintro ⟨_, _, ⟨rfl, rfl⟩, hlimit, rfl⟩
            rw [if_neg (Nat.not_lt.2 hlimit)]

/-! ## Doubles -/

theorem asciiLower_eq_iff {c other : CodePoint} (h : other.val < 0x41) :
    c.asciiLower = other ↔ c = other := by
  unfold CodePoint.asciiLower
  split
  · simp only [Fin.ext_iff]
    omega
  · exact Iff.rfl

theorem takeSign_asciiLower (t : Text) :
    takeSign t.asciiLower = ((takeSign t).1, (takeSign t).2.asciiLower) := by
  cases t with
  | nil => rfl
  | cons c rest =>
      have hminus : c.asciiLower = CodePoint.ofChar '-' ↔ c = CodePoint.ofChar '-' :=
        asciiLower_eq_iff (by decide)
      have hplus : c.asciiLower = CodePoint.ofChar '+' ↔ c = CodePoint.ofChar '+' :=
        asciiLower_eq_iff (by decide)
      simp only [Text.asciiLower, List.map_cons, takeSign, hminus, hplus]
      split
      · rfl
      · split
        · rfl
        · rfl

theorem val_of_mem_name {name : Text} {c : CodePoint}
    (h : ∃ word ∈ ["nan", "inf", "infinity"], name.asciiLower = Text.ofString word)
    (hc : c ∈ name) : 0x41 ≤ c.val ∧ c.val ≤ 0x7A := by
  obtain ⟨word, hword, hname⟩ := h
  have hletters : ((Text.ofString word).all fun letter =>
      0x61 ≤ letter.val && letter.val ≤ 0x7A) = true := by
    simp only [List.mem_cons, List.not_mem_nil, or_false] at hword
    rcases hword with rfl | rfl | rfl <;> rfl
  have hlower : c.asciiLower ∈ Text.ofString word := hname ▸ List.mem_map_of_mem hc
  have hval := List.all_eq_true.1 hletters _ hlower
  rw [Bool.and_eq_true, decide_eq_true_eq, decide_eq_true_eq] at hval
  unfold CodePoint.asciiLower at hval
  split at hval
  · omega
  · omega

theorem namedDouble?_isSome_iff {t : Text} : (∃ x, namedDouble? t = some x) ↔ IsName t := by
  have hnamed : (∃ x, namedDouble? t = some x) ↔
      ∃ word ∈ ["nan", "inf", "infinity"], (takeSign t).2.asciiLower = Text.ofString word := by
    simp only [namedDouble?, takeSign_asciiLower]
    split
    · rename_i hnan
      simp [hnan]
    · rename_i hnan
      split
      · rename_i hinf
        simp [hinf]
      · rename_i hinf
        simp [hnan, not_or.1 hinf]
  rw [hnamed]
  constructor
  · intro hword
    obtain ⟨sign, htext, hsign⟩ := exists_sign t
    exact ⟨sign, _, _, htext, hsign, hword⟩
  · rintro ⟨sign, negative, name, rfl, hsign, hword⟩
    have hsplit : takeSign (sign ++ name) = (negative, name) := by
      apply takeSign_append hsign
      intro c hc
      have hval := val_of_mem_name hword (List.mem_of_mem_head? hc)
      constructor
      · rintro rfl
        exact absurd hval (by decide)
      · rintro rfl
        exact absurd hval (by decide)
    rw [hsplit]
    exact hword

theorem IsName.not_white {t : Text} (h : IsName t) : ∀ c ∈ t, c.isWhiteSpace = false := by
  obtain ⟨sign, negative, name, rfl, hsign, hword⟩ := h
  intro c hc
  rcases List.mem_append.1 hc with hc | hc
  · exact hsign.forall_mem (p := fun c => c.isWhiteSpace = false) signs_not_white c hc
  · have hval := val_of_mem_name hword hc
    simp only [CodePoint.isWhiteSpace, Bool.or_eq_false_iff, Bool.and_eq_false_iff,
      decide_eq_false_iff_not, beq_eq_false_iff_ne]
    omega

theorem not_white_of_decimal {t : Text} {x : Double} (h : Decimal (Run decimalDigit?) t x) :
    ∀ c ∈ t, c.isWhiteSpace = false := by
  refine h.forall_mem (p := fun c => c.isWhiteSpace = false) signs_not_white ?_ ?_ ?_
  · rintro t digits (⟨rfl, -⟩ | hgrouped)
    · intro c hc
      cases hc
    · exact not_white_of_grouped hgrouped
  · decide
  · rintro c (rfl | rfl) <;> decide

theorem doubleOfText?_isSome_iff {t : Text} (h : t.hasSurrogate = false) :
    (∃ x, doubleOfText? t = some x) ↔ SpellsDouble t := by
  have hcore : ∀ core, (IsName core ∨ ∃ x, Decimal (Run decimalDigit?) core x) →
      ∀ c ∈ core, c.isWhiteSpace = false := by
    rintro core (hname | ⟨x, hdecimal⟩)
    · exact hname.not_white
    · exact not_white_of_decimal hdecimal
  rw [SpellsDouble, padded_iff hcore]
  simp only [h, true_and, ← namedDouble?_isSome_iff,
    ← Takes.decimal?_eq_some_iff takes_groupedDigits]
  unfold doubleOfText?
  simp only
  generalize t.trim CodePoint.isWhiteSpace = core
  cases namedDouble? core with
  | none => simp
  | some x => simp

/-! ## Readers -/

theorem boolOfInt_isAccepted_iff {n : Int} :
    (∃ b, boolOfInt n = accepted b) ↔ n = 0 ∨ n = 1 := by
  unfold boolOfInt
  split
  · rename_i hzero
    simp [hzero]
  · rename_i hzero
    split
    · rename_i hone
      simp [hone]
    · rename_i hone
      split <;> simp [Checked.reject, hzero, hone]

theorem boolOfText?_isSome_iff {t : Text} :
    (∃ b, boolOfText? t = some b) ↔
      ∃ word ∈ yesWords ++ noWords, t.asciiLower = Text.ofString word := by
  have hsplit : (∃ word ∈ yesWords ++ noWords, t.asciiLower = Text.ofString word) ↔
      (∃ word ∈ yesWords, Text.ofString word = t.asciiLower) ∨
        ∃ word ∈ noWords, Text.ofString word = t.asciiLower := by
    simp only [List.mem_append, or_and_right, exists_or, eq_comm]
  rw [hsplit]
  simp only [boolOfText?, List.any_eq_true, decide_eq_true_eq]
  split
  · rename_i hyes
    exact ⟨fun _ => Or.inl hyes, fun _ => ⟨true, rfl⟩⟩
  · rename_i hyes
    split
    · rename_i hno
      exact ⟨fun _ => Or.inr hno, fun _ => ⟨false, rfl⟩⟩
    · rename_i hno
      constructor
      · rintro ⟨b, hb⟩
        cases hb
      · intro h
        exact absurd h (not_or.2 ⟨hyes, hno⟩)

theorem readBoolText_isAccepted_iff {t : Text} :
    (∃ b, readBoolText t = accepted b) ↔ IsBool (.str t) := by
  unfold readBoolText IsBool
  cases hsurrogate : t.hasSurrogate with
  | true => simp [Checked.reject, hsurrogate]
  | false =>
      simp only [hsurrogate, Bool.false_eq_true, if_false, true_and]
      rw [← boolOfText?_isSome_iff]
      cases boolOfText? t <;> simp [Checked.reject]

theorem decides_readBool (v : Json) : Decides (IsBool v) False (readBool v) := by
  apply (definite_readBool v).congr _ Iff.rfl
  match v with
  | .bool b => simp [readBool, IsBool]
  | .str t => exact readBoolText_isAccepted_iff
  | .number (.int n) => exact boolOfInt_isAccepted_iff
  | .number (.double x) =>
      cases hx : x.toInt? with
      | none => simp [readBool, IsBool, hx, Checked.reject]
      | some n =>
          simp only [readBool, IsBool, hx, Option.some.injEq]
          split
          · rename_i hleast
            simp [Checked.reject, hleast, leastWord]
          · exact boolOfInt_isAccepted_iff
  | .null | .arr _ | .obj _ => simp [readBool, IsBool, Checked.reject]

theorem intOfDouble_eq_accepted {x : Double} {n : Int} :
    intOfDouble x = accepted n ↔ x.toInt? = some n ∧ isWord n = true ∧ n ≠ leastWord := by
  cases x with
  | nan => simp [intOfDouble, Double.toInt?, Checked.reject]
  | infinite _ => simp [intOfDouble, Double.toInt?, Checked.reject]
  | finite negative units =>
      unfold intOfDouble
      simp only
      cases hx : (Double.finite negative units).toInt? with
      | none => simp [Checked.reject]
      | some m =>
          simp only [Option.some.injEq]
          split
          · rename_i hword
            rw [Bool.and_eq_true, decide_eq_true_eq] at hword
            rw [accepted.injEq]
            constructor
            · rintro rfl
              exact ⟨rfl, hword⟩
            · rintro ⟨rfl, -⟩
              rfl
          · rename_i hword
            rw [Bool.and_eq_true, decide_eq_true_eq] at hword
            constructor
            · intro h
              cases h
            · rintro ⟨rfl, h⟩
              exact absurd h hword

theorem decides_readCount (v : Json) : Decides (IsCount v) False (readCount v) := by
  have hread : Decides (∃ n, readInt v = accepted n ∧ 0 ≤ n) False (readCount v) :=
    (definite_readInt v).andThen fun n _ => decides_ite n.toNat .negativeInt
  apply hread.congr _ Iff.rfl
  match v with
  | .bool b => cases b <;> simp [readInt, IsCount]
  | .str t => simp [readInt, IsCount, readIntText_eq_accepted]
  | .number (.int n) => simp [readInt, IsCount]
  | .number (.double x) =>
      have hleast : leastWord < 0 := by decide
      simp only [readInt, IsCount, intOfDouble_eq_accepted, isWord_iff]
      apply exists_congr
      intro n
      constructor
      · rintro ⟨⟨hx, ⟨-, hbelow⟩, -⟩, hpos⟩
        exact ⟨hx, hpos, by omega⟩
      · rintro ⟨hx, hpos, hbelow⟩
        exact ⟨⟨hx, ⟨by omega, by omega⟩, by omega⟩, hpos⟩
  | .null | .arr _ | .obj _ => simp [readInt, IsCount, Checked.reject]

theorem decides_readNumber (v : Json) : Decides (IsNumber v) False (readNumber v) := by
  apply (definite_readNumber v).congr _ Iff.rfl
  match v with
  | .bool b => simp [readNumber, IsNumber]
  | .number n => simp [readNumber, IsNumber]
  | .str t =>
      simp only [IsNumber, ← readIntText_eq_accepted]
      cases hread : readIntText t with
      | accepted n => simp [readNumber, hread]
      | overflow => cases (definite_readIntText t).overflow_iff.1 hread
      | rejected problems =>
          simp only [readNumber, hread]
          cases hsurrogate : t.hasSurrogate with
          | true => simp [SpellsDouble, hsurrogate, rejectNumber]
          | false =>
              rw [← doubleOfText?_isSome_iff hsurrogate]
              cases doubleOfText? t <;> simp [rejectNumber]
  | .null | .arr _ | .obj _ => simp [readNumber, IsNumber, rejectNumber]

end FormIntake.Scalar
