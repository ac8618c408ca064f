import FormIntake.Proofs.Number.Order
import FormIntake.Proofs.RateLimit.Run
import FormIntake.Service.App
import Mathlib.Algebra.Order.Floor.Ring
import Mathlib.Data.Rat.Floor
/-!
# How long a denied key waits

A denied call finds the window of its key open and full, and leaves it so. The
wait is what is left of the window: until then every call of the key is denied,
and the next one opens a new window.
-/

namespace FormIntake

variable {κ τ : Type} [CommRing τ] [LinearOrder τ]

/-! ## A key on its own -/

namespace Window

variable {points duration t wait : τ} {held : Option (Window τ)} {w : Window τ}
  {times : List τ} {before after : List (τ × Option τ)}

theorem call_of_new (hpoints : 0 < points) (h : current duration held t = ⟨t, 0⟩) :
    (call points duration held t).1 = none := by
  have hroom : ¬ points ≤ ((0 : ℕ) : τ) := by
    rw [Nat.cast_zero]
    exact not_le.2 hpoints
  simp only [call, h, if_neg hroom]

theorem call_of_over (hpoints : 0 < points) (hover : duration ≤ t - w.start) :
    (call points duration (some w) t).1 = none :=
  call_of_new hpoints (if_pos hover)

theorem call_of_full (hfull : points ≤ (w.count : τ)) (hopen : t - w.start < duration) :
    call points duration (some w) t = (some (duration - (t - w.start)), some w) := by
  simp only [call, current, if_neg (not_le.2 hopen), if_pos hfull]

/-- A denied call finds an open window that is full, and leaves it as it is. -/
theorem exists_full_of_denied (hpoints : 0 < points)
    (h : (call points duration held t).1 = some wait) :
    ∃ w, held = some w ∧ (call points duration held t).2 = some w ∧ t - w.start < duration ∧
      points ≤ (w.count : τ) ∧ wait = duration - (t - w.start) := by
  cases held with
  | none =>
      rw [call_of_new hpoints rfl] at h
      cases h
  | some w =>
      by_cases hover : duration ≤ t - w.start
      · rw [call_of_over hpoints hover] at h
        cases h
      · by_cases hfull : points ≤ (w.count : τ)
        · rw [call_of_full hfull (not_le.1 hover)] at h ⊢
          exact ⟨w, rfl, rfl, not_le.1 hover, hfull, (Option.some.inj h).symm⟩
        · simp only [call, current, if_neg hover, if_neg hfull] at h
          cases h

theorem start_le_of_call (hheld : ∀ w ∈ held, w.start ≤ t) :
    ∀ w ∈ (call points duration held t).2, w.start ≤ t := by
  have hcurrent : (current duration held t).start ≤ t := by
    unfold current
    split
    · exact le_refl t
    · split
      · exact le_refl t
      · exact hheld _ rfl
  intro w hw
  simp only [call] at hw
  split at hw
  · exact hheld w hw
  · rw [← Option.some.inj hw]
    exact hcurrent

/-- What a denied call of a run tells: the window that is open then, with which the run goes on,
as it does without the call. -/
theorem exists_full_of_log (hpoints : 0 < points) (hheld : ∀ w ∈ held, ∀ t ∈ times, w.start ≤ t)
    (hordered : times.Pairwise (· ≤ ·))
    (hlog : log points duration held times = before ++ (t, some wait) :: after) :
    ∃ w, w.start ≤ t ∧ t - w.start < duration ∧ points ≤ (w.count : τ) ∧
      wait = duration - (t - w.start) ∧
      after = log points duration (some w) (after.map Prod.fst) ∧
      log points duration held (before.map Prod.fst ++ after.map Prod.fst) = before ++ after := by
  induction before generalizing held times with
  | nil =>
      cases times with
      | nil => cases hlog
      | cons u rest =>
          obtain ⟨hentry, hafter⟩ := List.cons.inj hlog
          obtain ⟨rfl, hdenied⟩ := Prod.mk.inj hentry
          obtain ⟨w, rfl, hkept, hopen, hfull, hwait⟩ := exists_full_of_denied hpoints hdenied
          rw [hkept] at hafter
          have htimes : after.map Prod.fst = rest := by
            rw [← hafter, log_times]
          refine ⟨w, hheld w rfl u List.mem_cons_self, hopen, hfull, hwait, ?_, ?_⟩
          · rw [htimes, hafter]
          · rw [htimes]
            exact hafter
  | cons entry before ih =>
      cases times with
      | nil => cases hlog
      | cons u rest =>
          obtain ⟨rfl, hrest⟩ := List.cons.inj hlog
          obtain ⟨hnext, hordered⟩ := List.pairwise_cons.1 hordered
          have hstarted : ∀ w ∈ (call points duration held u).2, w.start ≤ u :=
            start_le_of_call fun w hw => hheld w hw u List.mem_cons_self
          obtain ⟨w, hle, hopen, hfull, hwait, hafter, hwithout⟩ :=
            ih (fun w hw s hs => (hstarted w hw).trans (hnext s hs)) hordered hrest
          refine ⟨w, hle, hopen, hfull, hwait, hafter, ?_⟩
          rw [List.map_cons, List.cons_append, log, hwithout, List.cons_append]

theorem allowed_of_over (hpoints : 0 < points) (hfull : points ≤ (w.count : τ))
    {between rest : List (τ × Option τ)} {u : τ} {answer : Option τ}
    (hlog : log points duration (some w) times = between ++ (u, answer) :: rest)
    (hopen : ∀ entry ∈ between, entry.1 - w.start < duration)
    (hover : duration ≤ u - w.start) : answer = none := by
  induction between generalizing times with
  | nil =>
      cases times with
      | nil => cases hlog
      | cons v times =>
          obtain ⟨hentry, -⟩ := List.cons.inj hlog
          obtain ⟨rfl, rfl⟩ := Prod.mk.inj hentry
          exact call_of_over hpoints hover
  | cons entry between ih =>
      cases times with
      | nil => cases hlog
      | cons v times =>
          obtain ⟨hentry, htail⟩ := List.cons.inj hlog
          obtain ⟨hfirst, hothers⟩ := List.forall_mem_cons.1 hopen
          rw [← hentry] at hfirst
          rw [call_of_full hfull hfirst] at htail
          exact ih htail hothers

variable [IsStrictOrderedRing τ]

theorem denied_of_open (hfull : points ≤ (w.count : τ)) (hordered : times.Pairwise (· ≤ ·)) :
    ∀ entry ∈ log points duration (some w) times, entry.1 - w.start < duration →
      entry.2 ≠ none := by
  induction times with
  | nil => exact fun _ h => absurd h List.not_mem_nil
  | cons u rest ih =>
      intro entry hentry hopen
      obtain ⟨hnext, hordered⟩ := List.pairwise_cons.1 hordered
      -- Entries come in the order of their times, so the window is open at the head, too.
      have hhead : u ≤ entry.1 := by
        have htime : entry.1 ∈ u :: rest := by
          rw [← log_times points duration (some w) (u :: rest)]
          exact List.mem_map_of_mem hentry
        rcases List.mem_cons.1 htime with heq | hmem
        · exact heq.ge
        · exact hnext _ hmem
      have hfirst : u - w.start < duration := (sub_le_sub_right hhead _).trans_lt hopen
      rw [log, call_of_full hfull hfirst] at hentry
      rcases List.mem_cons.1 hentry with rfl | hentry
      · exact Option.some_ne_none _
      · exact ih hordered entry hentry hopen

end Window

/-! ## A limiter -/

variable [DecidableEq κ]

namespace RateLimiter

variable {points : ℕ} {duration opened wait : τ} {calls : List (Call κ τ)}
  {before after : CallLog κ τ} {c : Call κ τ}

theorem calls_of_log {l : RateLimiter κ τ}
    (hlog : l.log calls = before ++ (c, some wait) :: after) :
    calls = before.map Prod.fst ++ c :: after.map Prod.fst := by
  rw [← log_calls l calls, hlog, List.map_append, List.map_cons]

variable [IsStrictOrderedRing τ]

/-- A denied call of a run falls into an open window that is full. With that window its key goes
on, as it would if the call were not made. -/
theorem exists_full_of_log (hpoints : 1 ≤ points) (hordered : Call.Ordered calls)
    (hlog : (start (points : τ) duration opened).log calls = before ++ (c, some wait) :: after) :
    ∃ w : Window τ, w.start ≤ c.time ∧ c.time - w.start < duration ∧ (points : τ) ≤ w.count ∧
      wait = duration - (c.time - w.start) ∧
      after.ofKey c.key = Window.log (points : τ) duration (some w)
        (Call.timesOf c.key (after.map Prod.fst)) ∧
      Window.log (points : τ) duration none
        (Call.timesOf c.key (before.map Prod.fst ++ after.map Prod.fst)) =
        (before ++ after).ofKey c.key := by
  have hkey : Window.log (points : τ) duration none (Call.timesOf c.key calls) =
      before.ofKey c.key ++ (c.time, some wait) :: after.ofKey c.key := by
    rw [← start_log_ofKey (points : τ) duration opened hordered c.key, hlog,
      CallLog.ofKey_append_cons]
  have hfull := Window.exists_full_of_log (Nat.cast_pos.2 hpoints) (by simp)
    (hordered.timesOf c.key) hkey
  rwa [← List.map_append, ← CallLog.ofKey_append, CallLog.ofKey_times, CallLog.ofKey_times,
    List.map_append] at hfull

/-- A denied call changes nothing: all others are answered as they are if it is not made. -/
theorem log_without_denied (hpoints : 1 ≤ points) (hordered : Call.Ordered calls)
    (hlog : (start (points : τ) duration opened).log calls = before ++ (c, some wait) :: after) :
    (start (points : τ) duration opened).log (before.map Prod.fst ++ after.map Prod.fst) =
      before ++ after := by
  have hcalls := calls_of_log hlog
  have hless : Call.Ordered (before.map Prod.fst ++ after.map Prod.fst) := by
    rw [hcalls] at hordered
    exact hordered.sublist ((List.Sublist.refl _).append (List.sublist_cons_self c _))
  apply CallLog.eq_of_ofKey
  · rw [log_calls, List.map_append]
  · intro key
    rw [start_log_ofKey (points : τ) duration opened hless key]
    by_cases hkey : c.key = key
    · subst hkey
      obtain ⟨w, -, -, -, -, -, hwithout⟩ := exists_full_of_log hpoints hordered hlog
      exact hwithout
    · have htimes : Call.timesOf key (before.map Prod.fst ++ after.map Prod.fst) =
          Call.timesOf key calls := by
        simp [Call.timesOf, hcalls, hkey]
      rw [htimes, ← start_log_ofKey (points : τ) duration opened hordered key, hlog]
      simp [CallLog.ofKey, hkey]

/-- After how many whole seconds a denied client is told to come back. -/
def retryAfter [FloorRing τ] (wait : τ) : ℤ :=
  max 1 ⌈wait⌉

/-- The wait that a denied call is told is what the calls after it need. -/
structure WaitIsExact [FloorRing τ] (l : RateLimiter κ τ) (before after : CallLog κ τ)
    (c : Call κ τ) (wait : τ) : Prop where
  pos : 0 < wait
  le_duration : wait ≤ l.duration
  denied_until : ∀ entry ∈ after, entry.1.key = c.key → entry.1.time < c.time + wait →
    entry.2 ≠ none
  /-- The first call of the key from then on is allowed. -/
  allowed_from : ∀ (between rest : CallLog κ τ) (d : Call κ τ) (answer : Option τ),
    after = between ++ (d, answer) :: rest → d.key = c.key → c.time + wait ≤ d.time →
    (∀ entry ∈ between, entry.1.key = c.key → entry.1.time < c.time + wait) → answer = none
  /-- All other calls are answered as they are if the call is not made. -/
  removable : l.log (before.map Prod.fst ++ after.map Prod.fst) = before ++ after
  le_retryAfter : wait ≤ retryAfter wait
  /-- Whoever stays away for as long as told is then let through. -/
  allowed_on_return : ∀ (between rest : CallLog κ τ) (d : Call κ τ) (answer : Option τ),
    after = between ++ (d, answer) :: rest → d.key = c.key →
    (∀ entry ∈ between, entry.1.key ≠ c.key) → c.time + retryAfter wait ≤ d.time → answer = none

theorem le_retryAfter [FloorRing τ] (wait : τ) : wait ≤ retryAfter wait := by
  calc
    wait ≤ ⌈wait⌉ := Int.le_ceil wait
    _ ≤ retryAfter wait := Int.cast_le.2 (le_max_right _ _)

/-- The wait is exact in all parts: it is what is left of the window. -/
theorem start_waitIsExact [FloorRing τ] (hpoints : 1 ≤ points) (hordered : Call.Ordered calls)
    (hlog : (start (points : τ) duration opened).log calls = before ++ (c, some wait) :: after) :
    WaitIsExact (start (points : τ) duration opened) before after c wait := by
  obtain ⟨w, hle, hopen, hfull, hwait, hafter, -⟩ := exists_full_of_log hpoints hordered hlog
  -- The wait and the window end together.
  have hend : ∀ t, t < c.time + wait ↔ t - w.start < duration := by
    intro t
    rw [hwait, sub_lt_iff_lt_add]
    have hsum : c.time + (duration - (c.time - w.start)) = duration + w.start := by ring
    rw [hsum]
  have hlater : Call.Ordered (after.map Prod.fst) := by
    rw [calls_of_log hlog] at hordered
    exact (List.pairwise_append.1 hordered).2.1.of_cons
  have hallowed : ∀ (between rest : CallLog κ τ) (d : Call κ τ) (answer : Option τ),
      after = between ++ (d, answer) :: rest → d.key = c.key → c.time + wait ≤ d.time →
      (∀ entry ∈ between, entry.1.key = c.key → entry.1.time < c.time + wait) →
      answer = none := by
    intro between rest d answer hsplit hkey htime hbetween
    rw [hsplit, ← hkey, CallLog.ofKey_append_cons, hkey] at hafter
    refine Window.allowed_of_over (Nat.cast_pos.2 hpoints) hfull hafter.symm ?_ ?_
    · intro entry hentry
      obtain ⟨call, hcall, rfl⟩ := List.mem_map.1 hentry
      obtain ⟨hmem, hown⟩ := List.mem_filter.1 hcall
      exact (hend _).1 (hbetween call hmem (of_decide_eq_true hown))
    · exact not_lt.1 (mt (hend _).2 (not_lt.2 htime))
  refine ⟨?_, ?_, ?_, hallowed, log_without_denied hpoints hordered hlog, le_retryAfter wait, ?_⟩
  · rw [hwait]
    exact sub_pos.2 hopen
  · rw [hwait]
    exact sub_le_self _ (sub_nonneg.2 hle)
  · intro entry hentry hkey htime
    refine Window.denied_of_open hfull (hlater.timesOf c.key) (entry.1.time, entry.2) ?_
      ((hend _).1 htime)
    rw [← hafter]
    exact CallLog.mem_ofKey hentry hkey
  · intro between rest d answer hsplit hkey hbetween htime
    refine hallowed between rest d answer hsplit hkey ?_ ?_
    · exact (add_le_add_right (le_retryAfter wait) c.time).trans htime
    · intro entry hentry hown
      exact absurd hown (hbetween entry hentry)

end RateLimiter

/-! ## The answer to a denied client -/

theorem Number.ceil?_of_value? {x : Number} {q : ℚ} (h : x.value? = some (q : WithTop ℚ)) :
    x.ceil? = some ⌈q⌉ := by
  have hvalue : ∀ p : ℚ, some ((p : WithTop ℚ) : Line) = some (q : WithTop ℚ) → p = q :=
    fun p hp => WithTop.coe_injective (WithBot.coe_injective (Option.some.inj hp))
  match x, h with
  | int n, h =>
      rw [← hvalue n h, Int.ceil_intCast]
      rfl
  | double .nan, h => cases h
  | double (.infinite true), h => exact absurd (Option.some.inj h) (WithBot.bot_lt_coe _).ne
  | double (.infinite false), h =>
      exact absurd (WithBot.coe_injective (Option.some.inj h)) (WithTop.coe_lt_top q).ne'
  | double (.finite negative units), h =>
      rw [← hvalue _ h]
      have hfloor := Rat.floor_intCast_div_natCast (-Double.signedUnits negative units) Double.one
      rw [Int.cast_neg, neg_div, Int.floor_neg] at hfloor
      rw [ceil?, Double.ceil?, ← hfloor, neg_neg]

namespace App

theorem refuse_answer (app : App) (r : Request) {wait : Number} {q : ℚ}
    (h : wait.value? = some (q : WithTop ℚ)) :
    (app.refuse r wait).answer = some (tooManyRequests (RateLimiter.retryAfter q)) := by
  rw [refuse, retryAfter?, Number.ceil?_of_value? h]
  rfl

end App

namespace RateLimiter

variable [IsStrictOrderedRing τ]

/-- The wait of a denied call is exact, the call is as good as not made, and the whole seconds that
the client is sent are enough. -/
theorem denied_call_waits_exactly [FloorRing τ] {points : ℕ} (hpoints : 1 ≤ points)
    {duration opened : τ} {calls : List (Call κ τ)} (hordered : Call.Ordered calls)
    {before after : CallLog κ τ} {c : Call κ τ} {wait : τ}
    (hlog : (start (points : τ) duration opened).log calls = before ++ (c, some wait) :: after) :
    WaitIsExact (start (points : τ) duration opened) before after c wait ∧
      ∀ (app : App) (r : Request) (w : Number) (q : ℚ), w.value? = some (q : WithTop ℚ) →
        (app.refuse r w).answer = some (App.tooManyRequests (retryAfter q)) :=
  ⟨start_waitIsExact hpoints hordered hlog, fun app r _ _ h => app.refuse_answer r h⟩

/-- Key 0 is denied twice in its window. Told to wait for 15/2, it is sent 8 and comes back then. -/
def deniedCalls : List (Call ℕ ℚ) :=
  [⟨0, 0⟩, ⟨5 / 2, 0⟩, ⟨3, 1⟩, ⟨9, 0⟩, ⟨21 / 2, 0⟩]

theorem second_call_waits_exactly :
    1 ≤ 1 ∧ Call.Ordered deniedCalls ∧
      (start ((1 : ℕ) : ℚ) 10 0).log deniedCalls =
        [(⟨0, 0⟩, none)] ++ (⟨5 / 2, 0⟩, some (15 / 2)) ::
          [(⟨3, 1⟩, none), (⟨9, 0⟩, some 1), (⟨21 / 2, 0⟩, none)] ∧
      retryAfter (15 / 2 : ℚ) = 8 ∧
      WaitIsExact (start ((1 : ℕ) : ℚ) 10 0) [(⟨0, 0⟩, none)]
        [(⟨3, 1⟩, none), (⟨9, 0⟩, some 1), (⟨21 / 2, 0⟩, none)] ⟨5 / 2, 0⟩ (15 / 2) := by
  have hordered : Call.Ordered deniedCalls := by
    unfold Call.Ordered
    decide +kernel
  have hlog : (start ((1 : ℕ) : ℚ) 10 0).log deniedCalls =
      [(⟨0, 0⟩, none)] ++ (⟨5 / 2, 0⟩, some (15 / 2)) ::
        [(⟨3, 1⟩, none), (⟨9, 0⟩, some 1), (⟨21 / 2, 0⟩, none)] := by
    decide +kernel
  exact ⟨le_refl 1, hordered, hlog, by decide +kernel,
    (denied_call_waits_exactly (le_refl 1) hordered hlog).1⟩

end RateLimiter

end FormIntake
