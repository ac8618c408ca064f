import FormIntake.Pattern.Matching
import Mathlib.Computability.Language
/-!
# Matchers and languages

A matcher recognizes a language if it gets past exactly the texts of the
language: it succeeds if some text of the language comes next and what follows
succeeds after it. This is kept by every way in which patterns without
conditions are put together. The order in which a matcher tries its ways does
not show, since every way is tried before it fails.
-/

namespace FormIntake.Pattern

open scoped Computability

/-! ## Places -/

namespace Place

def past (s : Place) (t rest : Text) : Place :=
  { s with before := t.reverse ++ s.before, after := rest, offset := s.offset + t.length }

theorem past_nil (s : Place) : s.past [] s.after = s := rfl

theorem past_past (s : Place) (t u rest rest' : Text) :
    (s.past t rest).past u rest' = s.past (t ++ u) rest' := by
  simp [past, Nat.add_assoc]

end Place

/-- Whether a matcher's continuation succeeds does not depend on what groups have matched. -/
def Blind (k : Rest) : Prop :=
  ∀ (s : Place) (captured : Assoc Nat Text),
    (k { s with captured := captured }).isSome = (k s).isSome

/-! ## Recognition -/

/-- The matcher succeeds if a text of the language comes next, after which what follows succeeds. -/
def Recognizes (m : Matcher) (L : Language CodePoint) : Prop :=
  ∀ (s : Place) (k : Rest), Blind k →
    ((m s k).isSome = true ↔
      ∃ t ∈ L, ∃ rest, s.after = t ++ rest ∧ (k (s.past t rest)).isSome = true)

def oneOf (p : CodePoint → Bool) : Language CodePoint :=
  {t | ∃ c, p c = true ∧ t = [c]}

namespace Recognizes

variable {m m' : Matcher} {L M : Language CodePoint}

theorem blind (h : Recognizes m L) {k : Rest} (hk : Blind k) : Blind fun s => m s k := by
  intro s captured
  rw [Bool.eq_iff_iff, h _ k hk, h _ k hk]
  have hpast : ∀ t rest, (k (({ s with captured := captured } : Place).past t rest)).isSome =
      (k (s.past t rest)).isSome :=
    fun t rest => hk (s.past t rest) captured
  simp only [hpast]

theorem empty : Recognizes (run .empty) 1 := by
  intro s k _
  constructor
  · intro h
    exact ⟨[], rfl, s.after, rfl, h⟩
  · rintro ⟨t, rfl, rest, hafter, h⟩
    rw [List.nil_append] at hafter
    rwa [← hafter] at h

theorem one (test : CharTest) : Recognizes (run (.one test)) (oneOf test.holds) := by
  intro s k _
  constructor
  · intro h
    cases hafter : s.after with
    | nil => simp [run, Place.step?, hafter] at h
    | cons c rest =>
        simp only [run, Place.step?, hafter] at h
        split at h
        · rename_i hc
          exact ⟨[c], ⟨c, hc, rfl⟩, rest, rfl, h⟩
        · cases h
  · rintro ⟨t, ⟨c, hc, rfl⟩, rest, hafter, h⟩
    rw [List.singleton_append] at hafter
    simp only [run, Place.step?, hafter, if_pos hc]
    exact h

theorem seq (h : Recognizes m L) (h' : Recognizes m' M) :
    Recognizes (fun s k => m s fun e => m' e k) (L * M) := by
  intro s k hk
  rw [h s _ (h'.blind hk)]
  constructor
  · rintro ⟨t, ht, rest, hafter, hrest⟩
    obtain ⟨u, hu, rest', hafter', hk'⟩ := (h' _ k hk).1 hrest
    refine ⟨t ++ u, Language.append_mem_mul ht hu, rest', ?_, ?_⟩
    · rw [hafter, List.append_assoc]
      exact congrArg (t ++ ·) hafter'
    · rwa [Place.past_past] at hk'
  · rintro ⟨v, hv, rest, hafter, hk'⟩
    obtain ⟨t, ht, u, hu, rfl⟩ := Language.mem_mul.1 hv
    refine ⟨t, ht, u ++ rest, ?_, (h' _ k hk).2 ⟨u, hu, rest, rfl, ?_⟩⟩
    · rw [hafter, List.append_assoc]
    · rwa [Place.past_past]

theorem alt {left right : Pattern} (h : Recognizes left.run L) (h' : Recognizes right.run M) :
    Recognizes (run (.alt left right)) (L + M) := by
  intro s k hk
  have hor : run (.alt left right) s k = (left.run s k).or (right.run s k) := by
    rw [run]
    cases left.run s k <;> rfl
  rw [hor, Option.isSome_or, Bool.or_eq_true, h s k hk, h' s k hk]
  simp only [Language.mem_add, or_and_right, exists_or]

theorem capture {body : Pattern} (h : Recognizes body.run L) (index : Nat) :
    Recognizes (run (.capture index body)) L := by
  intro s k hk
  have hblind : Blind fun e => k (Place.capture index s e) := by
    intro e captured
    exact (hk e _).trans (hk e _).symm
  rw [run, h s _ hblind]
  have hpast : ∀ e, (k (Place.capture index s e)).isSome = (k e).isSome := fun e => hk e _
  simp only [hpast]

theorem rounds (h : Recognizes m L) (n : Nat) : Recognizes (Pattern.rounds m n) (L ^ n) := by
  induction n with
  | zero =>
      rw [pow_zero]
      exact empty
  | succ n ih =>
      rw [pow_succ']
      exact h.seq ih

end Recognizes

/-! ## Greedy loops -/

section Loops

variable {m : Matcher} {L : Language CodePoint} {n : Nat} {t : Text}

/-- Texts put together from some texts of a language have a first one that is not empty. -/
theorem exists_first_of_mem_pow (ht : t ∈ L ^ n) (hne : t ≠ []) :
    ∃ u ∈ L, u ≠ [] ∧ ∃ n' < n, ∃ v ∈ L ^ n', t = u ++ v := by
  induction n generalizing t with
  | zero => exact absurd ht hne
  | succ n ih =>
      rw [pow_succ'] at ht
      obtain ⟨u, hu, v, hv, rfl⟩ := Language.mem_mul.1 ht
      by_cases hempty : u = []
      · subst hempty
        rw [List.nil_append] at hne ⊢
        obtain ⟨u, hu, hne, n', hn', v', hv', hsplit⟩ := ih hv hne
        exact ⟨u, hu, hne, n', Nat.lt_succ_of_lt hn', v', hv', hsplit⟩
      · exact ⟨u, hu, hempty, n, Nat.lt_succ_self n, v, hv, rfl⟩

/-- The empty ones among them can be left out, so there need not be more than code points. -/
theorem exists_pow_le_length (ht : t ∈ L ^ n) : ∃ n' ≤ n, n' ≤ t.length ∧ t ∈ L ^ n' := by
  induction hlength : t.length using Nat.strong_induction_on generalizing t n with
  | _ length ih =>
      by_cases hne : t = []
      · subst hne
        exact ⟨0, Nat.zero_le n, Nat.zero_le _, rfl⟩
      · obtain ⟨u, hu, hempty, n', hn', v, hv, rfl⟩ := exists_first_of_mem_pow ht hne
        have hpos := List.length_pos_of_ne_nil hempty
        rw [List.length_append] at hlength
        obtain ⟨n'', hle, hshort, hmem⟩ := ih v.length (by omega) hv rfl
        refine ⟨n'' + 1, by omega, by omega, ?_⟩
        rw [pow_succ']
        exact Language.append_mem_mul hu hmem

def upTo (L : Language CodePoint) (n : Nat) : Language CodePoint :=
  {t | ∃ j ≤ n, t ∈ L ^ j}

theorem moreGreedy_stuck (m : Matcher) (n : Nat) (s : Place) (k : Rest) :
    moreGreedy m n (some s.offset) s k = k s := by
  cases n with
  | zero => rfl
  | succ n => exact if_pos rfl

theorem moreGreedy_succ (m : Matcher) (n : Nat) {last : Option Nat} {s : Place}
    (hlast : last ≠ some s.offset) (k : Rest) :
    moreGreedy m (n + 1) last s k =
      (m s fun e => moreGreedy m n (some s.offset) e k).or (k s) := by
  rw [moreGreedy, if_neg hlast]
  cases m s fun e => moreGreedy m n (some s.offset) e k <;> rfl

theorem Recognizes.blind_moreGreedy (h : Recognizes m L) (n : Nat) (last : Option Nat) {k : Rest}
    (hk : Blind k) : Blind fun s => moreGreedy m n last s k := by
  induction n generalizing last with
  | zero => exact hk
  | succ n ih =>
      intro s captured
      by_cases hlast : last = some s.offset
      · subst hlast
        have hs := moreGreedy_stuck m (n + 1) s k
        have hs' := moreGreedy_stuck m (n + 1) { s with captured := captured } k
        dsimp only at hs' ⊢
        rw [hs, hs', hk s captured]
      · have hm := h.blind (ih (some s.offset)) s captured
        have hs := moreGreedy_succ m n hlast k
        have hs' := moreGreedy_succ m n (s := { s with captured := captured }) hlast k
        dsimp only at hm hs' ⊢
        rw [hs, hs', Option.isSome_or, Option.isSome_or, hm, hk s captured]

/-- More rounds of a loop. A round that takes nothing ends the loop, but nothing is lost by that:
the empty rounds can be left out. The induction is on the rounds that are left. -/
theorem Recognizes.moreGreedy (h : Recognizes m L) (n : Nat) {last : Option Nat} {s : Place}
    (hlast : last ≠ some s.offset) {k : Rest} (hk : Blind k) :
    (Pattern.moreGreedy m n last s k).isSome = true ↔
      ∃ t ∈ upTo L n, ∃ rest, s.after = t ++ rest ∧ (k (s.past t rest)).isSome = true := by
  induction n generalizing last s with
  | zero =>
      constructor
      · intro hs
        exact ⟨[], ⟨0, le_refl 0, rfl⟩, s.after, rfl, hs⟩
      · rintro ⟨t, ⟨j, hj, ht⟩, rest, hafter, hs⟩
        obtain rfl := Nat.le_zero.1 hj
        obtain rfl : t = [] := ht
        rw [List.nil_append] at hafter
        rwa [← hafter] at hs
  | succ n ih =>
      rw [moreGreedy_succ m n hlast, Option.isSome_or, Bool.or_eq_true,
        h s _ (h.blind_moreGreedy n _ hk)]
      constructor
      · rintro (⟨u, hu, rest, hafter, hmore⟩ | hs)
        · by_cases hempty : u = []
          · subst hempty
            rw [List.nil_append] at hafter
            rw [← hafter, Place.past_nil, moreGreedy_stuck] at hmore
            exact ⟨[], ⟨0, Nat.zero_le _, rfl⟩, s.after, rfl, hmore⟩
          · have hpos := List.length_pos_of_ne_nil hempty
            have hmoved : some s.offset ≠ some (s.past u rest).offset := by
              simp only [Place.past, ne_eq, Option.some.injEq]
              omega
            obtain ⟨v, ⟨j, hj, hv⟩, rest', hafter', hs⟩ := (ih hmoved).1 hmore
            refine ⟨u ++ v, ⟨j + 1, Nat.succ_le_succ hj, ?_⟩, rest', ?_, ?_⟩
            · rw [pow_succ']
              exact Language.append_mem_mul hu hv
            · rw [hafter, List.append_assoc]
              exact congrArg (u ++ ·) hafter'
            · rwa [Place.past_past] at hs
        · exact ⟨[], ⟨0, Nat.zero_le _, rfl⟩, s.after, rfl, hs⟩
      · rintro ⟨t, ⟨j, hj, ht⟩, rest, hafter, hs⟩
        by_cases hempty : t = []
        · subst hempty
          rw [List.nil_append] at hafter
          rw [← hafter] at hs
          exact Or.inr hs
        · obtain ⟨u, hu, hne, j', hj', v, hv, rfl⟩ := exists_first_of_mem_pow ht hempty
          have hpos := List.length_pos_of_ne_nil hne
          have hmoved : some s.offset ≠ some (s.past u (v ++ rest)).offset := by
            simp only [Place.past, ne_eq, Option.some.injEq]
            omega
          refine Or.inl ⟨u, hu, v ++ rest, ?_, (ih hmoved).2 ⟨v, ⟨j', by omega, hv⟩, rest, rfl, ?_⟩⟩
          · rw [hafter, List.append_assoc]
          · rwa [Place.past_past]

end Loops

/-- At least `least` texts of the language, one after the other, and at most `most` unless that
is `none`. -/
def repeated (L : Language CodePoint) (least : Nat) (most : Option Nat) : Language CodePoint :=
  {t | ∃ n, least ≤ n ∧ (∀ bound ∈ most, n ≤ bound) ∧ t ∈ L ^ n}

theorem repeated_eq_mul {L : Language CodePoint} {least : Nat} {most : Option Nat}
    (hmost : ∀ bound ∈ most, least ≤ bound) :
    repeated L least most = L ^ least * repeated L 0 (most.map (· - least)) := by
  have hspare : ∀ n, (∀ bound ∈ most.map (· - least), n ≤ bound) ↔
      ∀ bound ∈ most, least + n ≤ bound := by
    intro n
    cases most with
    | none => simp
    | some bound =>
        have hle := hmost bound rfl
        simp only [Option.map_some, Option.mem_some_iff, forall_eq']
        omega
  ext t
  rw [Language.mem_mul]
  constructor
  · rintro ⟨n, hleast, hbound, ht⟩
    obtain ⟨extra, rfl⟩ := Nat.exists_eq_add_of_le hleast
    rw [pow_add] at ht
    obtain ⟨u, hu, v, hv, rfl⟩ := Language.mem_mul.1 ht
    exact ⟨u, hu, v, ⟨extra, Nat.zero_le extra, (hspare extra).2 hbound, hv⟩, rfl⟩
  · rintro ⟨u, hu, v, ⟨extra, -, hbound, hv⟩, rfl⟩
    refine ⟨least + extra, Nat.le_add_right least extra, (hspare extra).1 hbound, ?_⟩
    rw [pow_add]
    exact Language.append_mem_mul hu hv

theorem repeated_eq_kstar (L : Language CodePoint) : repeated L 0 none = L∗ := by
  ext t
  rw [Language.kstar_eq_iSup_pow, Language.mem_iSup]
  constructor
  · rintro ⟨n, -, -, ht⟩
    exact ⟨n, ht⟩
  · rintro ⟨n, ht⟩
    exact ⟨n, Nat.zero_le n, by simp, ht⟩

theorem Recognizes.loop {body : Pattern} {L : Language CodePoint} (h : Recognizes body.run L)
    {least : Nat} {most : Option Nat} (hmost : ∀ bound ∈ most, least ≤ bound) :
    Recognizes (run (.loop .greedy least most body)) (repeated L least most) := by
  have hmore : Recognizes
      (fun s k => Pattern.moreGreedy body.run (spareRounds least most s) none s k)
      (repeated L 0 (most.map (· - least))) := by
    intro s k hk
    rw [h.moreGreedy _ (Option.some_ne_none _).symm hk]
    constructor
    · rintro ⟨t, ⟨n, hn, ht⟩, hrest⟩
      refine ⟨t, ⟨n, Nat.zero_le n, ?_, ht⟩, hrest⟩
      cases most with
      | none => simp
      | some bound => simpa using hn.trans (Nat.min_le_left _ _)
    · rintro ⟨t, ⟨n, -, hbound, ht⟩, rest, hafter, hs⟩
      -- rounds for the texts that are not empty are enough, and of these there are few
      obtain ⟨n', hle, hshort, ht'⟩ := exists_pow_le_length ht
      refine ⟨t, ⟨n', ?_, ht'⟩, rest, hafter, hs⟩
      have hlength : s.after.length = t.length + rest.length := by rw [hafter, List.length_append]
      cases most with
      | none =>
          simp only [spareRounds]
          omega
      | some bound =>
          have hn := hbound (bound - least) rfl
          simp only [spareRounds]
          omega
  rw [repeated_eq_mul hmost]
  exact (h.rounds least).seq hmore

theorem Recognizes.accepts_iff {p : Pattern} {L : Language CodePoint} (h : Recognizes p.run L)
    (t : Text) : p.accepts t = true ↔ t ∈ L := by
  rw [accepts, h _ _ fun s captured => by cases s.after <;> rfl]
  constructor
  · rintro ⟨u, hu, rest, hafter, hs⟩
    cases rest with
    | nil =>
        have ht : t = u := hafter.trans (List.append_nil u)
        rwa [ht]
    | cons c rest => cases hs
  · intro ht
    exact ⟨t, ht, [], (List.append_nil t).symm, rfl⟩

/-! ## Patterns in a row -/

theorem run_concat_cons (p : Pattern) (ps : List Pattern) (s : Place) (k : Rest) :
    run (concat (p :: ps)) s k = p.run s fun s => run (concat ps) s k := by
  cases ps with
  | nil => rfl
  | cons q ps => rfl

theorem run_concat_append (ps qs : List Pattern) (s : Place) (k : Rest) :
    run (concat (ps ++ qs)) s k = run (concat ps) s fun s => run (concat qs) s k := by
  induction ps generalizing s k with
  | nil => rfl
  | cons p ps ih =>
      have hrest : (fun s => run (concat (ps ++ qs)) s k) =
          fun s => run (concat ps) s fun s => run (concat qs) s k := funext fun s => ih s k
      rw [List.cons_append, run_concat_cons, run_concat_cons, hrest]

theorem Recognizes.snoc {ps : List Pattern} {p : Pattern} {L M : Language CodePoint}
    (h : Recognizes (run (concat ps)) L) (hp : Recognizes p.run M) :
    Recognizes (run (concat (ps ++ [p]))) (L * M) := by
  have hrun : run (concat (ps ++ [p])) = fun s k => run (concat ps) s fun e => p.run e k := by
    funext s k
    exact run_concat_append ps [p] s k
  rw [hrun]
  exact h.seq hp

theorem Recognizes.set {items : List SetItem} {negated : Bool} {f : CodePoint → Bool}
    (hf : ∀ c, (items.any (·.holds c) != negated) = f c) :
    Recognizes (run (.one ⟨items, negated, .exact⟩)) (oneOf f) := by
  have hholds : (CharTest.mk items negated .exact).holds = f := by
    funext c
    rw [← hf c]
    simp [CharTest.holds, CaseMode.variants]
  have h := Recognizes.one ⟨items, negated, .exact⟩
  rwa [hholds] at h

theorem oneOf_eq_singleton (c : CodePoint) : oneOf (· == c) = ({[c]} : Language CodePoint) := by
  ext t
  constructor
  · rintro ⟨d, hd, rfl⟩
    obtain rfl := beq_iff_eq.1 hd
    rfl
  · rintro rfl
    exact ⟨c, beq_self_eq_true c, rfl⟩

def only (c : CodePoint) : Pattern :=
  .one ⟨[.single c], false, .exact⟩

theorem Recognizes.only (c : CodePoint) : Recognizes (run (Pattern.only c)) {[c]} := by
  rw [← oneOf_eq_singleton]
  exact Recognizes.set fun d => by simp [SetItem.holds]

end FormIntake.Pattern
