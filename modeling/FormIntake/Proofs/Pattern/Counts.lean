import FormIntake.Proofs.Pattern.Tokens
/-!
# Reading counts

A mark of repetition is read as the counts that it stands for. A brace that no
counts follow is left as it is.
-/

namespace FormIntake.Pattern.Reader

open CodePoint (ofChar)
open Notation

variable {s : State} {input rest : Text} {low high : List Nat}

theorem digits_before {mark : Char} (hmark : (ofChar mark).digitValue? 10 = none) {t more : Text}
    {ds : List Nat} (hrun : Run 10 t ds) {n : Nat} (hn : ds.length ≤ n) (s : State) :
    digits 10 n (s.at (t ++ ofChar mark :: more)) = .ok (ds, s.at (ofChar mark :: more)) :=
  digits_run hrun hn (Or.inr (next_cons hmark more)) s

def countsOf (low high : List Nat) : Nat × Option Nat :=
  (Numeral.value 10 low, if high = [] then none else some (Numeral.value 10 high))

def countOf (ds : List Nat) : ReaderM Nat :=
  if Numeral.digitLimit < ds.length then throw (.countTooLong ds.length)
  else if countLimit ≤ Numeral.value 10 ds then throw .countTooLarge
  else return Numeral.value 10 ds

def closeBraces (start : List Token) (low high : List Nat) :
    ReaderM (Option (Nat × Option Nat)) := do
  if !(← accept '\x7d') then
    modify fun s => { s with tokens := start }
    return none
  else if (← peek) = some .dangling then malformed
  else
    let least ← countOf low
    if high.isEmpty then return some (least, none)
    else
      let most ← countOf high
      if most < least then malformed else return some (least, some most)

theorem braces_open (hinput : (tokens input).head? ≠ some (.char (ofChar '\x7d'))) (s : State) :
    braces (s.at input) =
      (do
        let low ← digits 10 (tokens input).length
        if ← accept ',' then
          let high ← digits 10 (tokens input).length
          closeBraces (tokens input) low high
        else closeBraces (tokens input) low low) (s.at input) := by
  rw [braces, bind_ok (get_ok _), bind_ok (peek_at s input), if_neg hinput]
  rfl

theorem countOf_countable {ds : List Nat} (h : Countable ds) (s : State) :
    countOf ds s = .ok (Numeral.value 10 ds, s) := by
  rw [countOf, if_neg (not_lt.2 h.1), if_neg (not_le.2 h.2)]
  rfl

theorem closeBraces_run {start : List Token} (hlow : Countable low) (hhigh : Countable high)
    (hle : high ≠ [] → Numeral.value 10 low ≤ Numeral.value 10 high)
    (hrest : rest ≠ [backslash]) (s : State) :
    closeBraces start low high (s.at (ofChar '\x7d' :: rest)) =
      .ok (some (countsOf low high), s.at rest) := by
  rw [closeBraces, bind_ok (accept_yes (by decide) s rest)]
  simp only [Bool.not_true, Bool.false_eq_true, if_false]
  rw [bind_ok (peek_at s rest), if_neg (not_dangling hrest), bind_ok (countOf_countable hlow _)]
  by_cases hempty : high = []
  · subst hempty
    rfl
  · rw [if_neg (by simpa using hempty), bind_ok (countOf_countable hhigh _),
      if_neg (not_lt.2 (hle hempty)), countsOf, if_neg hempty]
    rfl

theorem closeBraces_none {start t : Text} (ht : Next (· ≠ ofChar '\x7d') t) (s : State) :
    closeBraces (tokens start) low high (s.at t) = .ok (none, s.at start) := by
  rw [closeBraces, bind_ok (accept_no ht s)]
  rfl

theorem head?_run {t more : Text} {ds : List Nat} (hrun : Run 10 t ds) {c : CodePoint}
    (hc : c.digitValue? 10 = none) (hmore : ds = [] → Next (· ≠ c) more) :
    (tokens (t ++ more)).head? ≠ some (.char c) := by
  intro hhead
  have hfirst := head?_of_tokens hhead
  cases t with
  | nil => exact hmore (List.map_eq_nil_iff.1 hrun.symm) c hfirst rfl
  | cons d t =>
      obtain rfl := Option.some.inj hfirst
      obtain ⟨value, hvalue⟩ := Numeral.exists_of_mem_run hrun List.mem_cons_self
      cases hc.symm.trans hvalue

theorem braces_run (h : Braces input low high rest) (hlow : Countable low) (hhigh : Countable high)
    (hle : high ≠ [] → Numeral.value 10 low ≤ Numeral.value 10 high)
    (hrest : rest ≠ [backslash]) (s : State) :
    braces (s.at input) = .ok (some (countsOf low high), s.at rest) := by
  cases h with
  | @exactly t rest digits hdigits hne =>
      rw [braces_open (head?_run hdigits (by decide) fun hnil => absurd hnil hne),
        bind_ok (digits_before (by decide) hdigits (length_le_of_run hdigits _) s),
        bind_ok (accept_no (next_cons (by decide) rest) s)]
      exact closeBraces_run hlow hhigh hle hrest s
  | @between t u rest low high hrun hrun' =>
      have hlength : high.length ≤
          (tokens (t ++ ofChar ',' :: (u ++ ofChar '\x7d' :: rest))).length := by
        rw [tokens_run hrun, tokens_char (by decide), List.length_append, List.length_cons]
        have := length_le_of_run hrun' (ofChar '\x7d' :: rest)
        omega
      rw [braces_open (head?_run hrun (by decide) fun _ => next_cons (by decide) _),
        bind_ok (digits_before (by decide) hrun (length_le_of_run hrun _) s),
        bind_ok (accept_yes (by decide) s _)]
      simp only [if_true]
      rw [bind_ok (digits_before (by decide) hrun' hlength s)]
      exact closeBraces_run hlow hhigh hle hrest s

/-- Where no counts are, what follows the digits is none of their marks, or the braces do not
close. -/
theorem braces_none (h : ∀ low high rest, ¬ Braces input low high rest) (s : State) :
    braces (s.at input) = .ok (none, s.at input) := by
  by_cases hclose : (tokens input).head? = some (.char (ofChar '\x7d'))
  · rw [braces, bind_ok (get_ok _), bind_ok (peek_at s input), if_pos hclose]
    rfl
  · obtain ⟨t, htext, hrun, hends⟩ := Numeral.exists_takeDigits (·.digitValue? 10) input
    generalize (Numeral.takeDigits (·.digitValue? 10) input).1 = low at hrun
    generalize (Numeral.takeDigits (·.digitValue? 10) input).2 = more at htext hends
    subst htext
    rw [braces_open hclose, bind_ok (digits_run hrun (length_le_of_run hrun more) (Or.inr hends) s)]
    by_cases hcomma : more.head? = some (ofChar ',')
    · obtain ⟨more, rfl⟩ := List.head?_eq_some_iff.1 hcomma
      obtain ⟨u, htext, hrun', hends'⟩ := Numeral.exists_takeDigits (·.digitValue? 10) more
      generalize (Numeral.takeDigits (·.digitValue? 10) more).1 = high at hrun'
      generalize (Numeral.takeDigits (·.digitValue? 10) more).2 = rest at htext hends'
      subst htext
      have hlength : high.length ≤ (tokens (t ++ ofChar ',' :: (u ++ rest))).length := by
        rw [tokens_run hrun, tokens_char (by decide), List.length_append, List.length_cons]
        have := length_le_of_run hrun' rest
        omega
      have hopen : Next (· ≠ ofChar '\x7d') rest := by
        rintro c hc rfl
        obtain ⟨rest, rfl⟩ := List.head?_eq_some_iff.1 hc
        exact h low high rest (.between hrun hrun')
      rw [bind_ok (accept_yes (by decide) s _)]
      simp only [if_true]
      rw [bind_ok (digits_run hrun' hlength (Or.inr hends') s)]
      exact closeBraces_none hopen s
    · have hopen : Next (· ≠ ofChar '\x7d') more := by
        rintro c hc rfl
        obtain ⟨rest, rfl⟩ := List.head?_eq_some_iff.1 hc
        by_cases hempty : low = []
        · subst hempty
          obtain rfl : t = [] := List.map_eq_nil_iff.1 hrun
          rw [List.nil_append, tokens_char (by decide)] at hclose
          exact hclose rfl
        · exact h low low rest (.exactly hrun hempty)
      rw [bind_ok (accept_no (fun c hc heq => hcomma (heq ▸ hc)) s)]
      exact closeBraces_none hopen s

theorem braces_length (h : Braces input low high rest) :
    (tokens rest).length ≤ (tokens input).length := by
  cases h with
  | exactly hdigits _ =>
      rw [tokens_run hdigits, tokens_char (by decide), List.length_append, List.length_cons]
      omega
  | between hlow hhigh =>
      rw [tokens_run hlow, tokens_char (by decide), tokens_run hhigh, tokens_char (by decide)]
      simp only [List.length_append, List.length_cons]
      omega

theorem quantifier_length {least : Nat} {most : Option Nat}
    (h : Quantifier input least most rest) : (tokens rest).length < (tokens input).length := by
  cases h with
  | star | plus | optional =>
      rw [tokens_char (by decide)]
      exact Nat.lt_succ_self _
  | atLeast hbraces | between hbraces =>
      rw [tokens_char (by decide)]
      exact Nat.lt_succ_of_le (braces_length hbraces)

theorem repetition_run {least : Nat} {most : Option Nat} (h : Quantifier input least most rest)
    (hrest : rest ≠ [backslash]) (s : State) :
    ∃ c t, input = c :: t ∧ (c.val = 0x2A ∨ c.val = 0x2B ∨ c.val = 0x3F ∨ c.val = 0x7B) ∧
      repetition c (s.at t) = .ok (some (least, most), s.at rest) := by
  cases h with
  | star => exact ⟨_, _, rfl, Or.inl rfl, rfl⟩
  | plus => exact ⟨_, _, rfl, Or.inr (Or.inl rfl), rfl⟩
  | optional => exact ⟨_, _, rfl, Or.inr (Or.inr (Or.inl rfl)), rfl⟩
  | atLeast hbraces hlow =>
      refine ⟨_, _, rfl, Or.inr (Or.inr (Or.inr rfl)), ?_⟩
      exact braces_run hbraces hlow ⟨Nat.zero_le _, by decide⟩ (fun h => absurd rfl h) hrest s
  | @between input rest low high hbraces hne hlow hhigh hle =>
      refine ⟨_, _, rfl, Or.inr (Or.inr (Or.inr rfl)), ?_⟩
      have hread := braces_run hbraces hlow hhigh (fun _ => hle) hrest s
      rw [countsOf, if_neg hne] at hread
      exact hread

theorem greed_run (hrest : Starts rest) (s : State) :
    greed (s.at rest) = .ok (.greedy, s.at rest) := by
  rw [greed, bind_ok (accept_no (hrest.next_ne (by decide)) s)]
  exact bind_ok (accept_no (hrest.next_ne (by decide)) s) _

theorem repeatLast_run (hrest : Starts rest) (counts : Nat × Option Nat) (p : Pattern)
    (before : List Piece) (s : State) :
    repeatLast counts (⟨p, true⟩ :: before) (s.at rest) =
      .ok (⟨.loop .greedy counts.1 counts.2 p, false⟩ :: before,
        { s with loops := true }.at rest) := by
  rw [repeatLast]
  simp only [Bool.not_true, Bool.false_eq_true, if_false]
  rw [bind_ok (greed_run hrest s)]
  rfl

end FormIntake.Pattern.Reader
