import FormIntake.Numeral
import FormIntake.Proofs.Text.Split
/-!
# The grammar of numerals

Signs and digits grouped by low lines, said without the readers: what the
readers take is exactly that.
-/

namespace FormIntake

/-! ## Digits of any script -/

namespace CodePoint

theorem exists_zero_of_decimalValue? {c : CodePoint} {d : Nat}
    (h : c.decimalValue? = some d) :
    ∃ first ∈ Unicode.zeros, first ≤ c.val ∧ c.val < first + 10 := by
  unfold decimalValue? at h
  split at h
  · rename_i first hfound
    have hrange := List.find?_some hfound
    rw [Bool.and_eq_true, decide_eq_true_eq, decide_eq_true_eq] at hrange
    exact ⟨first, List.mem_of_find?_eq_some hfound, hrange⟩
  · cases h

theorem of_decimalValue? {p : CodePoint → Prop}
    (htable : ∀ first ∈ Unicode.zeros, ∀ i < 10, p (ofNat (first + i))) {c : CodePoint} {d : Nat}
    (h : c.decimalValue? = some d) : p c := by
  obtain ⟨first, hfirst, hle, hlt⟩ := exists_zero_of_decimalValue? h
  have hc : ofNat (first + (c.val - first)) = c := by
    have hval : first + (c.val - first) = c.val := by omega
    rw [hval, ofNat, dif_pos c.isLt]
  rw [← hc]
  exact htable first hfirst (c.val - first) (by omega)

theorem plain_of_decimalValue? {c : CodePoint} {d : Nat} (h : c.decimalValue? = some d) :
    c.isBlank = false ∧ c ≠ ofChar '-' ∧ c ≠ ofChar '+' := by
  refine of_decimalValue? (p := fun c => c.isBlank = false ∧ c ≠ ofChar '-' ∧ c ≠ ofChar '+') ?_ h
  decide +kernel

theorem isSurrogate_of_decimalValue? {c : CodePoint} {d : Nat} (h : c.decimalValue? = some d) :
    c.isSurrogate = false := by
  refine of_decimalValue? (p := fun c => c.isSurrogate = false) ?_ h
  decide +kernel

theorem decimalValue?_digitChar :
    ∀ d < 10, (ofChar d.digitChar).decimalValue? = some d := by
  decide +kernel

end CodePoint

namespace Numeral

/-! ## Signs -/

inductive Sign : Text → Bool → Prop
  | none : Sign [] false
  | plus : Sign [CodePoint.ofChar '+'] false
  | minus : Sign [CodePoint.ofChar '-'] true

theorem Sign.forall_mem {p : CodePoint → Prop} {sign : Text} {negative : Bool}
    (h : Sign sign negative) (hp : p (CodePoint.ofChar '-') ∧ p (CodePoint.ofChar '+')) :
    ∀ c ∈ sign, p c := by
  cases h with
  | none =>
      intro c hc
      cases hc
  | plus =>
      intro c hc
      rw [List.mem_singleton.1 hc]
      exact hp.2
  | minus =>
      intro c hc
      rw [List.mem_singleton.1 hc]
      exact hp.1

theorem exists_sign (t : Text) :
    ∃ sign, t = sign ++ (takeSign t).2 ∧ Sign sign (takeSign t).1 := by
  cases t with
  | nil => exact ⟨[], rfl, .none⟩
  | cons c rest =>
      by_cases hminus : c = CodePoint.ofChar '-'
      · exact ⟨[c], by simp [takeSign, hminus], by simpa [takeSign, hminus] using Sign.minus⟩
      · by_cases hplus : c = CodePoint.ofChar '+'
        · subst hplus
          exact ⟨_, rfl, .plus⟩
        · rw [takeSign, if_neg hminus, if_neg hplus]
          exact ⟨[], rfl, .none⟩

theorem takeSign_append {sign body : Text} {negative : Bool} (h : Sign sign negative)
    (hbody : ∀ c ∈ body.head?, c ≠ CodePoint.ofChar '-' ∧ c ≠ CodePoint.ofChar '+') :
    takeSign (sign ++ body) = (negative, body) := by
  cases h with
  | none =>
      cases body with
      | nil => rfl
      | cons c rest =>
          obtain ⟨hminus, hplus⟩ := hbody c rfl
          rw [List.nil_append, takeSign, if_neg hminus, if_neg hplus]
  | plus => rfl
  | minus => rfl

/-! ## Digits -/

section

variable {digit? : CodePoint → Option Nat}

theorem takeDigits_append {run rest : Text} {digits : List Nat}
    (hrun : run.map digit? = digits.map some) (hrest : ∀ c ∈ rest.head?, digit? c = none) :
    takeDigits digit? (run ++ rest) = (digits, rest) := by
  induction run generalizing digits with
  | nil =>
      rw [List.map_nil, List.nil_eq, List.map_eq_nil_iff] at hrun
      rw [hrun, List.nil_append]
      cases rest with
      | nil => rfl
      | cons c rest => rw [takeDigits, hrest c rfl]
  | cons c run ih =>
      cases digits with
      | nil => cases hrun
      | cons d digits =>
          obtain ⟨hc, hrun⟩ := List.cons.inj hrun
          rw [List.cons_append, takeDigits, hc, ih hrun]

theorem exists_takeDigits (digit? : CodePoint → Option Nat) (t : Text) :
    ∃ run, t = run ++ (takeDigits digit? t).2 ∧
      run.map digit? = (takeDigits digit? t).1.map some ∧
      ∀ c ∈ (takeDigits digit? t).2.head?, digit? c = none := by
  induction t with
  | nil => exact ⟨[], rfl, rfl, fun c hc => by cases hc⟩
  | cons c t ih =>
      cases hc : digit? c with
      | none =>
          have htake : takeDigits digit? (c :: t) = ([], c :: t) := by rw [takeDigits, hc]
          rw [htake]
          refine ⟨[], rfl, rfl, ?_⟩
          intro first hfirst
          rw [← Option.some.inj hfirst, hc]
      | some d =>
          obtain ⟨run, htext, hrun, hrest⟩ := ih
          have htake : takeDigits digit? (c :: t) =
              (d :: (takeDigits digit? t).1, (takeDigits digit? t).2) := by
            rw [takeDigits, hc]
          rw [htake]
          refine ⟨c :: run, ?_, ?_, hrest⟩
          · rw [List.cons_append, ← htext]
          · rw [List.map_cons, List.map_cons, hc, hrun]

theorem takeDigits_eq_nil_iff {t : Text} {digits : List Nat} :
    takeDigits digit? t = (digits, []) ↔ t.map digit? = digits.map some := by
  constructor
  · intro h
    obtain ⟨run, htext, hrun, -⟩ := exists_takeDigits digit? t
    rw [h, List.append_nil] at htext
    rw [h] at hrun
    rwa [htext]
  · intro h
    have htake : takeDigits digit? (t ++ []) = (digits, []) :=
      takeDigits_append h fun c hc => nomatch hc
    rwa [List.append_nil] at htake

theorem exists_of_mem_run {t : Text} {digits : List Nat} (h : t.map digit? = digits.map some)
    {c : CodePoint} (hc : c ∈ t) : ∃ d, digit? c = some d := by
  have hmem : digit? c ∈ digits.map some := by
    rw [← h]
    exact List.mem_map_of_mem hc
  obtain ⟨d, -, hd⟩ := List.mem_map.1 hmem
  exact ⟨d, hd.symm⟩

/-- Digits, with at most one low line between one and the next. -/
inductive Grouped (digit? : CodePoint → Option Nat) : Text → List Nat → Prop
  | one {c : CodePoint} {d : Nat} (h : digit? c = some d) : Grouped digit? [c] [d]
  | next {c : CodePoint} {d : Nat} {t : Text} {digits : List Nat} (h : digit? c = some d)
      (rest : Grouped digit? t digits) : Grouped digit? (c :: t) (d :: digits)
  | line {c : CodePoint} {d : Nat} {t : Text} {digits : List Nat} (h : digit? c = some d)
      (rest : Grouped digit? t digits) : Grouped digit? (c :: lowLine :: t) (d :: digits)

namespace Grouped

variable {t : Text} {digits : List Nat}

theorem digits_ne_nil (h : Grouped digit? t digits) : digits ≠ [] := by
  cases h <;> exact List.cons_ne_nil _ _

theorem exists_cons (h : Grouped digit? t digits) :
    ∃ c d rest, t = c :: rest ∧ digit? c = some d := by
  cases h with
  | one hc | next hc _ | line hc _ => exact ⟨_, _, _, rfl, hc⟩

theorem forall_mem {p : CodePoint → Prop} (h : Grouped digit? t digits) (hline : p lowLine)
    (hdigit : ∀ c d, digit? c = some d → p c) : ∀ c ∈ t, p c := by
  induction h with
  | one hc =>
      intro c hmem
      rw [List.mem_singleton.1 hmem]
      exact hdigit _ _ hc
  | next hc _ ih =>
      intro c hmem
      rcases List.mem_cons.1 hmem with rfl | hmem
      · exact hdigit _ _ hc
      · exact ih c hmem
  | line hc _ ih =>
      intro c hmem
      rcases List.mem_cons.1 hmem with rfl | hmem
      · exact hdigit _ _ hc
      · rcases List.mem_cons.1 hmem with rfl | hmem
        · exact hline
        · exact ih c hmem

theorem of_run (h : t.map digit? = digits.map some) (hne : digits ≠ []) :
    Grouped digit? t digits := by
  induction t generalizing digits with
  | nil =>
      rw [List.map_nil, List.nil_eq, List.map_eq_nil_iff] at h
      exact absurd h hne
  | cons c t ih =>
      cases digits with
      | nil => exact absurd rfl hne
      | cons d digits =>
          obtain ⟨hc, hrest⟩ := List.cons.inj h
          cases digits with
          | nil =>
              rw [List.map_nil, List.map_eq_nil_iff] at hrest
              rw [hrest]
              exact .one hc
          | cons next digits => exact .next hc (ih hrest (List.cons_ne_nil _ _))

end Grouped

/-! ### Texts that are all digits -/

theorem groupedDigits?_lowLine (t : Text) : groupedDigits? digit? (lowLine :: t) = none := by
  simp [groupedDigits?, Text.splitOn]

theorem groupedDigits?_one {c : CodePoint} (hc : c ≠ lowLine) :
    groupedDigits? digit? [c] = (digit? c).map fun d => [d] := by
  cases h : digit? c <;> simp [groupedDigits?, Text.splitOn, hc, h]

theorem groupedDigits?_line {c : CodePoint} (hc : c ≠ lowLine) (t : Text) :
    groupedDigits? digit? (c :: lowLine :: t) =
      (digit? c).bind fun d => (groupedDigits? digit? t).map (d :: ·) := by
  cases h : digit? c with
  | none => simp [groupedDigits?, Text.splitOn, hc, h]
  | some d =>
      simp only [groupedDigits?, Text.splitOn, if_neg hc, if_true, List.mapM_cons,
        List.isEmpty_cons, List.mapM_nil, h]
      generalize (List.mapM _ (Text.splitOn lowLine t) : Option (List (List Nat))) = groups
      cases groups <;> simp

theorem groupedDigits?_next {c next : CodePoint} (hc : c ≠ lowLine) (hnext : next ≠ lowLine)
    (t : Text) :
    groupedDigits? digit? (c :: next :: t) =
      (digit? c).bind fun d => (groupedDigits? digit? (next :: t)).map (d :: ·) := by
  obtain ⟨part, parts, hsplit⟩ := Text.exists_splitOn lowLine t
  cases h : digit? c with
  | none => simp [groupedDigits?, Text.splitOn, hc, hnext, hsplit, h]
  | some d =>
      simp only [groupedDigits?, Text.splitOn, if_neg hc, if_neg hnext, hsplit, List.mapM_cons,
        List.isEmpty_cons, h]
      generalize (List.mapM _ parts : Option (List (List Nat))) = groups
      generalize (List.mapM _ part : Option (List Nat)) = group
      cases digit? next <;> cases group <;> cases groups <;> simp

theorem grouped_of_groupedDigits? {t : Text} {digits : List Nat}
    (h : groupedDigits? digit? t = some digits) : Grouped digit? t digits := by
  cases t with
  | nil => cases h
  | cons c rest =>
      have hc : c ≠ lowLine := by
        rintro rfl
        cases (groupedDigits?_lowLine rest).symm.trans h
      cases rest with
      | nil =>
          rw [groupedDigits?_one hc] at h
          obtain ⟨d, hd, rfl⟩ := Option.map_eq_some_iff.1 h
          exact .one hd
      | cons next t =>
          by_cases hnext : next = lowLine
          · subst hnext
            rw [groupedDigits?_line hc] at h
            obtain ⟨d, hd, htail⟩ := Option.bind_eq_some_iff.1 h
            obtain ⟨others, hothers, rfl⟩ := Option.map_eq_some_iff.1 htail
            exact .line hd (grouped_of_groupedDigits? hothers)
          · rw [groupedDigits?_next hc hnext] at h
            obtain ⟨d, hd, htail⟩ := Option.bind_eq_some_iff.1 h
            obtain ⟨others, hothers, rfl⟩ := Option.map_eq_some_iff.1 htail
            exact .next hd (grouped_of_groupedDigits? hothers)
termination_by t.length

/-- A text is read as digits exactly if it is digits, grouped. -/
theorem groupedDigits?_eq_some_iff (hline : digit? lowLine = none) {t : Text}
    {digits : List Nat} :
    groupedDigits? digit? t = some digits ↔ Grouped digit? t digits := by
  have hdigit : ∀ {c : CodePoint} {d : Nat}, digit? c = some d → c ≠ lowLine := by
    rintro c d hc rfl
    cases hline.symm.trans hc
  refine ⟨grouped_of_groupedDigits?, ?_⟩
  intro h
  induction h with
  | one hc => simp [groupedDigits?_one (hdigit hc), hc]
  | line hc _ ih => simp [groupedDigits?_line (hdigit hc), hc, ih]
  | next hc hrest ih =>
      obtain ⟨c', d', rest, rfl, hc'⟩ := hrest.exists_cons
      simp [groupedDigits?_next (hdigit hc) (hdigit hc'), hc, ih]

/-! ### Texts that begin with digits -/

def Run (digit? : CodePoint → Option Nat) (t : Text) (digits : List Nat) : Prop :=
  (t = [] ∧ digits = []) ∨ Grouped digit? t digits

/-- What follows the digits of a numeral: it begins neither with a digit nor with a low line. -/
def Ends (digit? : CodePoint → Option Nat) (rest : Text) : Prop :=
  ∀ c ∈ rest.head?, digit? c = none ∧ c ≠ lowLine

theorem takeGroupedDigits_ends {rest : Text} (h : Ends digit? rest) (inside : Bool) :
    takeGroupedDigits digit? inside rest = ([], rest) := by
  cases rest with
  | nil => rfl
  | cons c rest =>
      obtain ⟨hdigit, hline⟩ := h c rfl
      simp [takeGroupedDigits, hdigit, hline]

theorem takeGroupedDigits_append (hline : digit? lowLine = none) {t rest : Text}
    {digits : List Nat} (h : Grouped digit? t digits) (hrest : Ends digit? rest) (inside : Bool) :
    takeGroupedDigits digit? inside (t ++ rest) = (digits, rest) := by
  induction h generalizing inside with
  | one hc => simp [takeGroupedDigits, hc, takeGroupedDigits_ends hrest]
  | next hc _ ih => simp [takeGroupedDigits, hc, ih]
  | line hc hgrouped ih =>
      obtain ⟨d, digits, rfl⟩ := List.exists_cons_of_ne_nil hgrouped.digits_ne_nil
      simp [takeGroupedDigits, hc, hline, ih]

/-- What is taken are grouped digits; inside a numeral, a low line may come first. -/
theorem takeGroupedDigits_spec (inside : Bool) (t : Text) :
    takeGroupedDigits digit? inside t = ([], t) ∨
      ∃ taken digits rest, takeGroupedDigits digit? inside t = (digits, rest) ∧
        Grouped digit? taken digits ∧
        (t = taken ++ rest ∨ inside = true ∧ t = lowLine :: (taken ++ rest)) := by
  induction t generalizing inside with
  | nil => exact Or.inl rfl
  | cons c t ih =>
      cases hc : digit? c with
      | some d =>
          right
          rcases ih true with hnone | ⟨taken, digits, rest, htake, hgrouped, htext⟩
          · exact ⟨[c], [d], t, by simp [takeGroupedDigits, hc, hnone], .one hc, Or.inl rfl⟩
          · have hread : takeGroupedDigits digit? inside (c :: t) = (d :: digits, rest) := by
              simp [takeGroupedDigits, hc, htake]
            rcases htext with rfl | ⟨-, rfl⟩
            · exact ⟨c :: taken, d :: digits, rest, hread, .next hc hgrouped, Or.inl rfl⟩
            · exact ⟨c :: lowLine :: taken, d :: digits, rest, hread, .line hc hgrouped, Or.inl rfl⟩
      | none =>
          by_cases hline : inside = true ∧ c = lowLine
          · obtain ⟨rfl, rfl⟩ := hline
            rcases ih false with hnone | ⟨taken, digits, rest, htake, hgrouped, htext⟩
            · left
              simp [takeGroupedDigits, hc, hnone]
            · right
              obtain ⟨d, digits, rfl⟩ := List.exists_cons_of_ne_nil hgrouped.digits_ne_nil
              rcases htext with rfl | ⟨hfalse, -⟩
              · exact ⟨taken, d :: digits, rest, by simp [takeGroupedDigits, hc, htake], hgrouped,
                  Or.inr ⟨rfl, rfl⟩⟩
              · cases hfalse
          · left
            simp [takeGroupedDigits, hc, hline]

theorem exists_run (t : Text) :
    ∃ taken, t = taken ++ (takeGroupedDigits digit? false t).2 ∧
      Run digit? taken (takeGroupedDigits digit? false t).1 := by
  rcases @takeGroupedDigits_spec digit? false t with
    hnone | ⟨taken, digits, rest, htake, hgrouped, htext⟩
  · rw [hnone]
    exact ⟨[], rfl, Or.inl ⟨rfl, rfl⟩⟩
  · rw [htake]
    rcases htext with rfl | ⟨hfalse, -⟩
    · exact ⟨taken, rfl, Or.inr hgrouped⟩
    · cases hfalse

theorem takeGroupedDigits_run (hline : digit? lowLine = none) {t rest : Text} {digits : List Nat}
    (h : Run digit? t digits) (hrest : Ends digit? rest) :
    takeGroupedDigits digit? false (t ++ rest) = (digits, rest) := by
  rcases h with ⟨rfl, rfl⟩ | hgrouped
  · exact takeGroupedDigits_ends hrest false
  · exact takeGroupedDigits_append hline hgrouped hrest false

end

end Numeral

end FormIntake
