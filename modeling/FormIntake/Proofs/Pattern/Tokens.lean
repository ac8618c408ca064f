import FormIntake.Proofs.Numeral
import FormIntake.Proofs.Pattern.Notation
/-!
# Running the reader of patterns

How the reader of patterns goes through a text, character by character, and how
it takes digits and names.
-/

namespace FormIntake.Pattern.Reader

open CodePoint (ofChar)
open Notation

section Running

variable {α β : Type} {s s' : State} {a : α} {t : Text}

theorem bind_ok {m : ReaderM α} (h : m s = .ok (a, s')) (f : α → ReaderM β) :
    (m >>= f) s = f a s' := by
  show (m s >>= fun x => f x.1 x.2) = f a s'
  rw [h]
  rfl

def State.at (s : State) (t : Text) : State :=
  { s with tokens := Reader.tokens t }

theorem tokens_char {c : CodePoint} (hc : c ≠ backslash) (t : Text) :
    tokens (c :: t) = .char c :: tokens t := by
  have hval : c.val ≠ 0x5C := fun h => hc (Fin.ext h)
  rw [tokens.eq_def]
  exact if_neg hval

theorem tokens_append (ht : ∀ c ∈ t, c ≠ backslash) (rest : Text) :
    tokens (t ++ rest) = t.map .char ++ tokens rest := by
  induction t with
  | nil => rfl
  | cons c t ih =>
      have hmore := ih fun d hd => ht d (List.mem_cons_of_mem c hd)
      rw [List.cons_append, tokens_char (ht c List.mem_cons_self), hmore]
      rfl

theorem head?_of_tokens {c : CodePoint} (h : (tokens t).head? = some (.char c)) :
    t.head? = some c := by
  cases t with
  | nil => cases h
  | cons d t =>
      by_cases hd : d = backslash
      · subst hd
        cases t <;> cases h
      · rw [tokens_char hd] at h
        cases h
        rfl

theorem not_dangling (ht : t ≠ [backslash]) : (tokens t).head? ≠ some .dangling := by
  intro h
  cases t with
  | nil => cases h
  | cons c t =>
      by_cases hc : c = backslash
      · subst hc
        cases t with
        | nil => exact ht rfl
        | cons d t => cases h
      · rw [tokens_char hc] at h
        cases h

theorem get_ok (s : State) : (get : ReaderM State) s = .ok (s, s) :=
  rfl

theorem peek_at (s : State) (t : Text) : peek (s.at t) = .ok ((tokens t).head?, s.at t) :=
  rfl

theorem peek_char {c : CodePoint} (hc : c ≠ backslash) (s : State) (t : Text) :
    peek (s.at (c :: t)) = .ok (some (.char c), s.at (c :: t)) := by
  rw [peek_at, tokens_char hc]
  rfl

theorem advance_char {c : CodePoint} (hc : c ≠ backslash) (s : State) (t : Text) :
    advance (s.at (c :: t)) = .ok ((), s.at t) := by
  show Except.ok ((), { s with tokens := (tokens (c :: t)).tail }) = _
  rw [tokens_char hc]
  rfl

theorem next_token {token : Token} {u : Text} (h : tokens t = token :: tokens u) (s : State) :
    next (s.at t) = .ok (some token, s.at u) := by
  show Except.ok ((tokens t).head?, { s with tokens := (tokens t).tail }) = _
  rw [h]
  rfl

theorem next_char {c : CodePoint} (hc : c ≠ backslash) (s : State) (t : Text) :
    next (s.at (c :: t)) = .ok (some (.char c), s.at t) :=
  next_token (tokens_char hc t) s

theorem accept_yes {c : Char} (hc : ofChar c ≠ backslash) (s : State) (t : Text) :
    accept c (s.at (ofChar c :: t)) = .ok (true, s.at t) := by
  rw [accept, bind_ok (peek_char hc s t), if_pos rfl, bind_ok (advance_char hc s t)]
  rfl

theorem accept_no {c : Char} (h : Next (· ≠ ofChar c) t) (s : State) :
    accept c (s.at t) = .ok (false, s.at t) := by
  rw [accept, bind_ok (peek_at s t), if_neg fun hhead => h _ (head?_of_tokens hhead) rfl]
  rfl

theorem expect_yes {c : Char} (hc : ofChar c ≠ backslash) (s : State) (t : Text) :
    expect c (s.at (ofChar c :: t)) = .ok ((), s.at t) := by
  rw [expect, bind_ok (accept_yes hc s t)]
  rfl

end Running

/-! ## Digits -/

section Digits

variable {base n : Nat} {t rest : Text} {ds : List Nat} {c : CodePoint}

theorem ne_backslash_of_digit {d : Nat} (h : c.digitValue? base = some d) : c ≠ backslash := by
  rintro rfl
  cases h

theorem run_one {d : Nat} (h : c.digitValue? base = some d) : Run base [c] [d] := by
  rw [Run, List.map_singleton, List.map_singleton, h]

theorem tokens_run (hrun : Run base t ds) (rest : Text) :
    tokens (t ++ rest) = t.map .char ++ tokens rest := by
  apply tokens_append
  intro c hc
  obtain ⟨d, hd⟩ := Numeral.exists_of_mem_run hrun hc
  exact ne_backslash_of_digit hd

theorem digits_run (hrun : Run base t ds) (hmost : ds.length ≤ n)
    (hall : ds.length = n ∨ Next (fun c => c.digitValue? base = none) rest) (s : State) :
    digits base n (s.at (t ++ rest)) = .ok (ds, s.at rest) := by
  induction t generalizing n ds with
  | nil =>
      obtain rfl : ds = [] := List.map_eq_nil_iff.1 hrun.symm
      cases n with
      | zero => rfl
      | succ n =>
          have hnext := hall.resolve_left (Nat.succ_ne_zero n).symm
          rw [List.nil_append, digits, bind_ok (peek_at s rest)]
          rcases hhead : (tokens rest).head? with - | c | - | -
          · rfl
          · simp only [hnext c (head?_of_tokens hhead)]
            rfl
          · rfl
          · rfl
  | cons c t ih =>
      cases ds with
      | nil => cases hrun
      | cons d ds =>
          obtain ⟨hc, hrun⟩ := List.cons.inj hrun
          have hchar := ne_backslash_of_digit hc
          cases n with
          | zero => exact absurd hmost (Nat.not_succ_le_zero _)
          | succ n =>
              have hread := ih hrun (Nat.le_of_succ_le_succ hmost) (hall.imp_left Nat.succ.inj)
              rw [List.cons_append, digits, bind_ok (peek_char hchar s _)]
              simp only [hc]
              rw [bind_ok (advance_char hchar s _), bind_ok hread]
              rfl

theorem length_le_of_run (hrun : Run base t ds)
    (rest : Text) : ds.length ≤ (tokens (t ++ rest)).length := by
  have hlength : t.length = ds.length := by simpa using congrArg List.length hrun
  rw [tokens_run hrun, List.length_append, List.length_map, hlength]
  exact Nat.le_add_right _ _

end Digits

/-! ## Names -/

section Names

variable {name rest : Text} {stop : Char}

theorem untilChar_run (hplain : ∀ c ∈ name, c ≠ backslash ∧ c ≠ ofChar stop)
    (hstop : ofChar stop ≠ backslash) {fuel : Nat} (hfuel : name.length < fuel) (done : Text)
    (hne : done ++ name ≠ []) (s : State) :
    untilChar stop fuel done (s.at (name ++ ofChar stop :: rest)) =
      .ok (done ++ name, s.at rest) := by
  induction name generalizing fuel done with
  | nil =>
      obtain ⟨fuel, rfl⟩ := Nat.exists_eq_succ_of_ne_zero (Nat.ne_of_gt hfuel)
      rw [List.append_nil] at hne ⊢
      rw [List.nil_append, untilChar, bind_ok (next_char hstop s rest)]
      simp only [if_true, List.isEmpty_iff, if_neg hne]
      rfl
  | cons c name ih =>
      obtain ⟨fuel, rfl⟩ := Nat.exists_eq_succ_of_ne_zero (Nat.ne_of_gt (Nat.zero_lt_of_lt hfuel))
      obtain ⟨hc, hcstop⟩ := hplain c List.mem_cons_self
      have htoken : Token.char c ≠ .char (ofChar stop) := fun h => hcstop (Token.char.inj h)
      have hmore : untilChar stop fuel (done ++ [c]) (s.at (name ++ ofChar stop :: rest)) =
          .ok (done ++ [c] ++ name, s.at rest) :=
        ih (fun d hd => hplain d (List.mem_cons_of_mem c hd)) (Nat.lt_of_succ_lt_succ hfuel) _
          (by simp)
      rw [List.cons_append, untilChar, bind_ok (next_char hc s _)]
      simp only [if_neg htoken, Token.text]
      rw [hmore, List.append_assoc, List.singleton_append]

theorem nameUntil_run (hplain : ∀ c ∈ name, c ≠ backslash ∧ c ≠ ofChar stop)
    (hstop : ofChar stop ≠ backslash) (hne : name ≠ []) (s : State) :
    nameUntil stop (s.at (name ++ ofChar stop :: rest)) = .ok (name, s.at rest) := by
  have hfuel : name.length < (tokens (name ++ ofChar stop :: rest)).length := by
    rw [tokens_append fun c hc => (hplain c hc).1, tokens_char hstop, List.length_append,
      List.length_map, List.length_cons]
    omega
  rw [nameUntil, bind_ok (get_ok _)]
  exact untilChar_run hplain hstop hfuel [] hne s

theorem plain_of_contains {table : Unicode.RangeTable} (hbackslash : table.contains 0x5C = false)
    (hclose : table.contains 0x3E = false) {c : CodePoint} (hc : table.contains c.val = true) :
    c ≠ backslash ∧ c ≠ ofChar '>' := by
  constructor
  · rintro rfl
    cases hbackslash.symm.trans hc
  · rintro rfl
    cases hclose.symm.trans hc

theorem plain_of_isIdentifier (hname : isIdentifier name = true) :
    ∀ c ∈ name, c ≠ backslash ∧ c ≠ ofChar '>' := by
  cases name with
  | nil => exact fun c hc => nomatch hc
  | cons first name =>
      rw [isIdentifier, Bool.and_eq_true, List.all_eq_true] at hname
      intro c hc
      rcases List.mem_cons.1 hc with rfl | hmem
      · exact plain_of_contains rfl rfl hname.1
      · exact plain_of_contains rfl rfl (hname.2 c hmem)

end Names

end FormIntake.Pattern.Reader
