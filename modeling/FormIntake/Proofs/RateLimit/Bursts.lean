import FormIntake.Proofs.RateLimit.Run
import Mathlib.Data.Nat.Cast.Order.Ring
/-!
# Bursts of allowed calls

The allowed calls of a key come in bursts, one for each window that was opened:
a burst has at most as many calls as the limiter gives, and the next one starts
a duration later at the earliest. What a key holds is the window of its last
burst; this bounds the allowed calls from above and the denied ones from below.
-/

namespace FormIntake

def CallLog.allowed {τ : Type} (log : List (τ × Option τ)) : List τ :=
  (log.filter fun entry => entry.2.isNone).map Prod.fst

theorem CallLog.allowed_sublist {τ : Type} (log : List (τ × Option τ)) :
    (allowed log).Sublist (log.map Prod.fst) :=
  List.filter_sublist.map Prod.fst

/-- The call that opens a window, and the allowed calls after it in the window. -/
structure Burst (τ : Type) where
  start : τ
  later : List τ

namespace Burst

variable {τ : Type}

def calls (b : Burst τ) : List τ :=
  b.start :: b.later

def window (b : Burst τ) : Window τ :=
  ⟨b.start, b.calls.length⟩

/-- All calls of a list of bursts in which the last burst comes first. -/
def history (bursts : List (Burst τ)) : List τ :=
  bursts.reverse.flatMap calls

@[simp] theorem history_nil : history ([] : List (Burst τ)) = [] := rfl

@[simp] theorem history_cons (b : Burst τ) (earlier : List (Burst τ)) :
    history (b :: earlier) = history earlier ++ b.calls := by
  simp [history]

variable [CommRing τ] [LinearOrder τ]

/-- At most so many calls, all of them within the duration from the first. -/
structure Fits (points : ℕ) (duration : τ) (b : Burst τ) : Prop where
  length_le : b.calls.length ≤ points
  within : ∀ t ∈ b.calls, b.start ≤ t ∧ t < b.start + duration

end Burst

open Burst

variable {τ : Type} [CommRing τ] [LinearOrder τ]

/-- How many of the times lie in the interval that begins with `a`, its end not included. -/
def countFrom (duration a : τ) (times : List τ) : ℕ :=
  times.countP fun t => a ≤ t ∧ t < a + duration

/-- How many of the times lie less than the duration before `a`, or at it. -/
def countUpTo (duration a : τ) (times : List τ) : ℕ :=
  times.countP fun t => t ≤ a ∧ a - t < duration

/-- What has come of a key up to now: its bursts, the last one first. -/
structure Recorded (points : ℕ) (duration now : τ) (bursts : List (Burst τ)) : Prop where
  fits : ∀ b ∈ bursts, b.Fits points duration
  apart : bursts.Pairwise fun b earlier => earlier.start + duration ≤ b.start
  past : ∀ b ∈ bursts, ∀ t ∈ b.calls, t ≤ now

namespace Recorded

variable {points : ℕ} {duration now t : τ} {bursts : List (Burst τ)}

theorem nil (points : ℕ) (duration now : τ) : Recorded points duration now [] :=
  ⟨by simp, List.Pairwise.nil, by simp⟩

theorem mono (h : Recorded points duration now bursts) (hle : now ≤ t) :
    Recorded points duration t bursts :=
  ⟨h.fits, h.apart, fun b hb s hs => (h.past b hb s hs).trans hle⟩

variable [IsStrictOrderedRing τ]

theorem open_new (h : Recorded points duration now bursts) (hduration : 0 < duration)
    (hpoints : 0 < points) (hover : ∀ b ∈ bursts.head?, duration ≤ now - b.start) :
    Recorded points duration now (⟨now, []⟩ :: bursts) := by
  refine ⟨?_, ?_, ?_⟩
  · intro b hb
    rcases List.mem_cons.1 hb with rfl | hb
    · refine ⟨hpoints, ?_⟩
      intro t ht
      rw [List.mem_singleton.1 ht]
      exact ⟨le_refl now, lt_add_of_pos_right now hduration⟩
    · exact h.fits b hb
  · refine List.pairwise_cons.2 ⟨?_, h.apart⟩
    intro c hc
    cases bursts with
    | nil => cases hc
    | cons b earlier =>
        have hlast : b.start + duration ≤ now := by
          have hlong := hover b rfl
          linarith
        rcases List.mem_cons.1 hc with rfl | hc
        · exact hlast
        · have happart := (List.pairwise_cons.1 h.apart).1 c hc
          have hforward : b.start ≤ now := by linarith
          exact happart.trans hforward
  · intro b hb
    rcases List.mem_cons.1 hb with rfl | hb
    · intro t ht
      rw [List.mem_singleton.1 ht]
    · exact h.past b hb

theorem join {b : Burst τ} {earlier : List (Burst τ)}
    (h : Recorded points duration now (b :: earlier)) (hopen : now - b.start < duration)
    (hroom : b.calls.length < points) :
    Recorded points duration now (⟨b.start, b.later ++ [now]⟩ :: earlier) := by
  have hmem : ∀ t ∈ (⟨b.start, b.later ++ [now]⟩ : Burst τ).calls, t ∈ b.calls ∨ t = now := by
    intro t ht
    simpa [Burst.calls, or_assoc] using ht
  have hb := h.fits b List.mem_cons_self
  refine ⟨?_, ?_, ?_⟩
  · intro c hc
    rcases List.mem_cons.1 hc with rfl | hc
    · refine ⟨?_, ?_⟩
      · simpa [Burst.calls] using Nat.succ_le_of_lt hroom
      · intro t ht
        rcases hmem t ht with ht | rfl
        · exact hb.within t ht
        · have hstart := h.past b List.mem_cons_self b.start List.mem_cons_self
          exact ⟨hstart, sub_lt_iff_lt_add'.1 hopen⟩
    · exact h.fits c (List.mem_cons_of_mem _ hc)
  · exact List.pairwise_cons.2 (List.pairwise_cons.1 h.apart)
  · intro c hc
    rcases List.mem_cons.1 hc with rfl | hc
    · intro t ht
      rcases hmem t ht with ht | rfl
      · exact h.past b List.mem_cons_self t ht
      · exact le_refl _
    · exact h.past c (List.mem_cons_of_mem _ hc)

/-- The calls of a burst whose window is open have all come less than the duration ago. -/
theorem length_le_countUpTo {b : Burst τ} {earlier : List (Burst τ)}
    (h : Recorded points duration now (b :: earlier)) (hopen : now - b.start < duration) :
    b.calls.length ≤ countUpTo duration now (history (b :: earlier)) := by
  have hall : b.calls.countP (fun t => t ≤ now ∧ now - t < duration) = b.calls.length := by
    rw [List.countP_eq_length]
    intro t ht
    have hstart := ((h.fits b List.mem_cons_self).within t ht).1
    have hpast := h.past b List.mem_cons_self t ht
    have hrecent : now - t < duration := by linarith
    simpa using ⟨hpast, hrecent⟩
  rw [countUpTo, history_cons, List.countP_append, hall]
  exact Nat.le_add_left _ _

theorem call (h : Recorded points duration now bursts) (hduration : 0 < duration) :
    (∃ wait, Window.call (points : τ) duration (bursts.head?.map window) now =
        (some wait, bursts.head?.map window) ∧
      points ≤ countUpTo duration now (history bursts)) ∨
    ∃ next : List (Burst τ), Window.call (points : τ) duration (bursts.head?.map window) now =
        (none, next.head?.map window) ∧
      history next = history bursts ++ [now] ∧ Recorded points duration now next := by
  by_cases hover : ∀ b ∈ bursts.head?, duration ≤ now - b.start
  · have hcurrent : Window.current duration (bursts.head?.map window) now = ⟨now, 0⟩ := by
      cases hlast : bursts.head? with
      | none => rfl
      | some b => exact if_pos (hover b hlast)
    simp only [Window.call, hcurrent, Nat.cast_le]
    by_cases hpoints : points ≤ 0
    · rw [if_pos hpoints]
      exact Or.inl ⟨_, rfl, hpoints.trans (Nat.zero_le _)⟩
    · rw [if_neg hpoints]
      refine Or.inr ⟨⟨now, []⟩ :: bursts, rfl, history_cons _ _, ?_⟩
      exact h.open_new hduration (Nat.lt_of_not_le hpoints) hover
  · push Not at hover
    obtain ⟨b, hlast, hopen⟩ := hover
    obtain ⟨earlier, rfl⟩ := List.head?_eq_some_iff.1 hlast
    have hcurrent : Window.current duration (((b :: earlier).head?).map window) now =
        b.window := if_neg (not_le.2 hopen)
    simp only [Window.call, hcurrent, window, Nat.cast_le]
    by_cases hfull : points ≤ b.calls.length
    · rw [if_pos hfull]
      exact Or.inl ⟨_, rfl, hfull.trans (h.length_le_countUpTo hopen)⟩
    · rw [if_neg hfull]
      refine Or.inr ⟨⟨b.start, b.later ++ [now]⟩ :: earlier, ?_, ?_, ?_⟩
      · simp [window, Burst.calls]
      · simp [Burst.calls]
      · exact h.join hopen (Nat.lt_of_not_le hfull)

theorem log_bursts (h : Recorded points duration now bursts) (hduration : 0 < duration)
    {times : List τ} (hfrom : ∀ t ∈ times, now ≤ t) (hordered : times.Pairwise (· ≤ ·)) :
    ∃ last final, Recorded points duration last final ∧
      history final = history bursts ++
        CallLog.allowed (Window.log (points : τ) duration (bursts.head?.map window) times) := by
  induction times generalizing bursts now with
  | nil => exact ⟨now, bursts, h, (List.append_nil _).symm⟩
  | cons t rest ih =>
      obtain ⟨hnext, hrest⟩ := List.pairwise_cons.1 hordered
      have hnow := h.mono (hfrom t List.mem_cons_self)
      rcases hnow.call hduration with ⟨wait, hcall, -⟩ | ⟨next, hcall, hhistory, hrecorded⟩
      · obtain ⟨last, final, hfinal, heq⟩ := ih hnow hnext hrest
        refine ⟨last, final, hfinal, ?_⟩
        rw [heq, Window.log, hcall]
        rfl
      · obtain ⟨last, final, hfinal, heq⟩ := ih hrecorded hnext hrest
        refine ⟨last, final, hfinal, ?_⟩
        rw [heq, hhistory, Window.log, hcall, List.append_assoc]
        rfl

/-- A call that is denied comes less than the duration after as many allowed ones as the limiter
gives. -/
theorem full_of_denied (h : Recorded points duration now bursts) (hduration : 0 < duration)
    {times : List τ} (hfrom : ∀ t ∈ times, now ≤ t) (hordered : times.Pairwise (· ≤ ·))
    {before after : List (τ × Option τ)} {t wait : τ}
    (hlog : Window.log (points : τ) duration (bursts.head?.map window) times =
      before ++ (t, some wait) :: after) :
    points ≤ countUpTo duration t (history bursts ++ CallLog.allowed before) := by
  induction times generalizing bursts now before with
  | nil => simp [Window.log] at hlog
  | cons u rest ih =>
      obtain ⟨hnext, hrest⟩ := List.pairwise_cons.1 hordered
      have hnow := h.mono (hfrom u List.mem_cons_self)
      rcases hnow.call hduration with ⟨first, hcall, hfull⟩ | ⟨next, hcall, hhistory, hrecorded⟩
      · rw [Window.log, hcall] at hlog
        cases before with
        | nil =>
            obtain ⟨hentry, -⟩ := List.cons.inj hlog
            obtain ⟨rfl, -⟩ := Prod.mk.inj hentry
            simpa [CallLog.allowed] using hfull
        | cons entry before =>
            obtain ⟨rfl, htail⟩ := List.cons.inj hlog
            have hcount := ih hnow hnext hrest htail
            exact hcount
      · rw [Window.log, hcall] at hlog
        cases before with
        | nil =>
            obtain ⟨hentry, -⟩ := List.cons.inj hlog
            cases (Prod.mk.inj hentry).2
        | cons entry before =>
            obtain ⟨rfl, htail⟩ := List.cons.inj hlog
            have hcount := ih hrecorded hnext hrest htail
            rw [hhistory, List.append_assoc] at hcount
            exact hcount

end Recorded

/-! ## Counting calls in intervals -/

structure Burst.InTurn (points : ℕ) (duration : τ) (bursts : List (Burst τ)) : Prop where
  fits : ∀ b ∈ bursts, b.Fits points duration
  apart : bursts.Pairwise fun b c => b.start + duration ≤ c.start

theorem Recorded.inTurn {points : ℕ} {duration now : τ} {bursts : List (Burst τ)}
    (h : Recorded points duration now bursts) : InTurn points duration bursts.reverse :=
  ⟨fun b hb => h.fits b (List.mem_reverse.1 hb), List.pairwise_reverse.2 h.apart⟩

variable [IsStrictOrderedRing τ]

/-- Times that are less than the duration apart lie in two bursts at most. -/
theorem Burst.InTurn.countP_le {points : ℕ} {duration : τ} {bursts : List (Burst τ)}
    (h : InTurn points duration bursts) {p : τ → Bool}
    (hshort : ∀ s t, p s = true → p t = true → t < s + duration) :
    (bursts.flatMap calls).countP p ≤ 2 * points := by
  induction bursts with
  | nil => exact Nat.zero_le _
  | cons b rest ih =>
      obtain ⟨hnext, hrest⟩ := List.pairwise_cons.1 h.apart
      have hlength : ∀ c ∈ b :: rest, c.calls.countP p ≤ points := fun c hc =>
        List.countP_le_length.trans (h.fits c hc).length_le
      rw [List.flatMap_cons, List.countP_append]
      by_cases hmeets : ∃ s ∈ b.calls, p s = true
      · obtain ⟨s, hs, hp⟩ := hmeets
        have hfirst := hlength b List.mem_cons_self
        cases rest with
        | nil =>
            rw [List.flatMap_nil, List.countP_nil]
            omega
        | cons c others =>
            have hsecond := hlength c (List.mem_cons_of_mem _ List.mem_cons_self)
            -- From the third burst on, everything is too late.
            have hothers : (others.flatMap calls).countP p = 0 := by
              rw [List.countP_eq_zero]
              intro t ht hpt
              obtain ⟨d, hd, ht⟩ := List.mem_flatMap.1 ht
              have hfits := h.fits d (List.mem_cons_of_mem _ (List.mem_cons_of_mem _ hd))
              have hb := ((h.fits b List.mem_cons_self).within s hs).2
              have hc := hnext c List.mem_cons_self
              have hcd := (List.pairwise_cons.1 hrest).1 d hd
              have hdt := (hfits.within t ht).1
              have hst := hshort s t hp hpt
              linarith
            rw [List.flatMap_cons, List.countP_append, hothers]
            omega
      · have hnone : b.calls.countP p = 0 := by
          rw [List.countP_eq_zero]
          exact fun s hs hp => hmeets ⟨s, hs, hp⟩
        have htail := ih ⟨fun c hc => h.fits c (List.mem_cons_of_mem _ hc), hrest⟩
        omega

theorem countFrom_le {points : ℕ} {duration : τ} {bursts : List (Burst τ)}
    (h : InTurn points duration bursts) (a : τ) :
    countFrom duration a (bursts.flatMap calls) ≤ 2 * points := by
  apply h.countP_le
  intro s t hs ht
  rw [decide_eq_true_eq] at hs ht
  linarith [hs.1, ht.2]

theorem countUpTo_le {points : ℕ} {duration : τ} {bursts : List (Burst τ)}
    (h : InTurn points duration bursts) (a : τ) :
    countUpTo duration a (bursts.flatMap calls) ≤ 2 * points := by
  apply h.countP_le
  intro s t hs ht
  rw [decide_eq_true_eq] at hs ht
  linarith [hs.2, ht.1]

/-- The calls that lie less than the duration before a call fill, together with it, an interval. -/
theorem countUpTo_lt_countFrom {duration t : τ} (hduration : 0 < duration) {earlier later : List τ}
    (hordered : (earlier ++ t :: later).Pairwise (· ≤ ·)) :
    ∃ a, countUpTo duration t earlier < countFrom duration a (earlier ++ t :: later) := by
  have hself : ∀ a, a ≤ t → t < a + duration →
      countFrom duration a earlier < countFrom duration a (earlier ++ t :: later) := by
    intro a hle hlt
    rw [countFrom, countFrom, List.countP_append, List.countP_cons_of_pos (by simp [hle, hlt])]
    omega
  cases hrecent : earlier.filter (fun s => s ≤ t ∧ t - s < duration) with
  | nil =>
      refine ⟨t, ?_⟩
      have hzero : countUpTo duration t earlier = 0 := by
        rw [countUpTo, List.countP_eq_length_filter, hrecent, List.length_nil]
      have hpos := hself t (le_refl t) (lt_add_of_pos_right t hduration)
      omega
  | cons a others =>
      have ha : a ∈ earlier.filter (fun s => s ≤ t ∧ t - s < duration) := by
        rw [hrecent]
        exact List.mem_cons_self
      have hnear := (List.mem_filter.1 ha).2
      rw [decide_eq_true_eq] at hnear
      have hend : t < a + duration := sub_lt_iff_lt_add'.1 hnear.2
      refine ⟨a, ?_⟩
      calc
        countUpTo duration t earlier ≤ countFrom duration a earlier := by
          apply List.countP_mono_left
          intro s hs hp
          rw [decide_eq_true_eq] at hp ⊢
          have hmem : s ∈ a :: others := by
            rw [← hrecent]
            exact List.mem_filter.2 ⟨hs, decide_eq_true hp⟩
          have hfirst : a ≤ s := by
            have hsorted := ((List.pairwise_append.1 hordered).1.filter
              fun s => s ≤ t ∧ t - s < duration)
            rw [hrecent] at hsorted
            rcases List.mem_cons.1 hmem with rfl | hmem
            · exact le_refl _
            · exact (List.pairwise_cons.1 hsorted).1 s hmem
          exact ⟨hfirst, hp.1.trans_lt hend⟩
        _ < countFrom duration a (earlier ++ t :: later) := hself a hnear.1 hend

/-! ## Runs of a key on its own -/

namespace Window

variable {points : ℕ} {duration : τ} {times : List τ}

theorem exists_bursts (points : ℕ) (hduration : 0 < duration) (hordered : times.Pairwise (· ≤ ·)) :
    ∃ bursts, CallLog.allowed (log (points : τ) duration none times) = bursts.flatMap calls ∧
      InTurn points duration bursts := by
  obtain ⟨now, hfrom⟩ := exists_le_of_ordered hordered
  obtain ⟨last, final, hfinal, hhistory⟩ :=
    (Recorded.nil points duration now).log_bursts hduration hfrom hordered
  exact ⟨final.reverse, hhistory.symm, hfinal.inTurn⟩

theorem full_of_denied (hduration : 0 < duration) (hordered : times.Pairwise (· ≤ ·))
    {before after : List (τ × Option τ)} {t wait : τ}
    (hlog : log (points : τ) duration none times = before ++ (t, some wait) :: after) :
    points ≤ countUpTo duration t (CallLog.allowed before) := by
  obtain ⟨now, hfrom⟩ := exists_le_of_ordered hordered
  exact (Recorded.nil points duration now).full_of_denied hduration hfrom hordered hlog

/-- Whoever never makes more calls in an interval than the limiter gives is always allowed. -/
theorem allowed_of_modest (hduration : 0 < duration) (hordered : times.Pairwise (· ≤ ·))
    (hmodest : ∀ a, countFrom duration a times ≤ points) :
    ∀ entry ∈ log (points : τ) duration none times, entry.2 = none := by
  rintro ⟨t, answer⟩ hentry
  cases answer with
  | none => rfl
  | some wait =>
      obtain ⟨before, after, hlog⟩ := List.append_of_mem hentry
      have hfull := full_of_denied hduration hordered hlog
      have htimes : times = before.map Prod.fst ++ t :: after.map Prod.fst := by
        rw [← log_times (points : τ) duration none times, hlog, List.map_append, List.map_cons]
      rw [htimes] at hordered
      obtain ⟨a, hcount⟩ := countUpTo_lt_countFrom hduration hordered
      rw [← htimes] at hcount
      have hless : points < points := by
        calc
          points ≤ countUpTo duration t (CallLog.allowed before) := hfull
          _ ≤ countUpTo duration t (before.map Prod.fst) :=
            (CallLog.allowed_sublist before).countP_le
          _ < countFrom duration a times := hcount
          _ ≤ points := hmodest a
      exact absurd hless (lt_irrefl points)

end Window

/-! ## Runs of a limiter -/

variable {κ : Type} [DecidableEq κ]

/-- Calls of a key are neither allowed nor denied too often. -/
structure Fair (points : ℕ) (duration : τ) (key : κ) (calls : List (Call κ τ))
    (log : CallLog κ τ) : Prop where
  /-- The allowed calls are those of bursts that follow each other in turn. -/
  in_bursts : ∃ bursts, CallLog.allowed (log.ofKey key) = bursts.flatMap Burst.calls ∧
    Burst.InTurn points duration bursts
  /-- No half-open interval of that duration, whichever end is left out, has more than twice the
  calls that the limiter gives. -/
  at_most_twice : ∀ a, countFrom duration a (CallLog.allowed (log.ofKey key)) ≤ 2 * points ∧
    countUpTo duration a (CallLog.allowed (log.ofKey key)) ≤ 2 * points
  /-- A call is denied only if all calls that the limiter gives lie less than the duration
  before it. -/
  full_before_denied : ∀ (before after : CallLog κ τ) (c : Call κ τ) (wait : τ), c.key = key →
    log = before ++ (c, some wait) :: after →
    points ≤ countUpTo duration c.time (CallLog.allowed (before.ofKey key))
  /-- A key that never makes more calls in an interval than that is never denied. -/
  modest_allowed : (∀ a, countFrom duration a (Call.timesOf key calls) ≤ points) →
    ∀ entry ∈ log, entry.1.key = key → entry.2 = none

/-- A limiter neither allows too much nor denies too much, whatever the calls. -/
theorem start_fair (points : ℕ) {duration : τ} (hduration : 0 < duration) (opened : τ)
    {calls : List (Call κ τ)} (hordered : Call.Ordered calls) (key : κ) :
    Fair points duration key calls
      ((RateLimiter.start (points : τ) duration opened).log calls) := by
  have halone := RateLimiter.start_log_ofKey (points : τ) duration opened hordered key
  have htimes := hordered.timesOf key
  obtain ⟨bursts, hallowed, hturn⟩ := Window.exists_bursts points hduration htimes
  refine ⟨⟨bursts, ?_, hturn⟩, ?_, ?_, ?_⟩
  · rw [halone, hallowed]
  · intro a
    rw [halone, hallowed]
    exact ⟨countFrom_le hturn a, countUpTo_le hturn a⟩
  · rintro before after c wait rfl hlog
    have hkey : Window.log (points : τ) duration none (Call.timesOf c.key calls) =
        CallLog.ofKey c.key before ++ (c.time, some wait) :: CallLog.ofKey c.key after := by
      rw [← halone, hlog, CallLog.ofKey_append_cons]
    exact Window.full_of_denied hduration htimes hkey
  · rintro hmodest ⟨c, answer⟩ hentry hkey
    apply Window.allowed_of_modest hduration htimes hmodest (c.time, answer)
    rw [← halone]
    exact CallLog.mem_ofKey hentry hkey

/-- Two calls may lie close together at the end of one window and the start of the next. -/
def adjoiningCalls : List (Call ℕ ℤ) :=
  [⟨0, 0⟩, ⟨9, 0⟩, ⟨9, 0⟩, ⟨10, 0⟩, ⟨11, 1⟩, ⟨12, 0⟩]

theorem adjoining_windows_fair :
    (0 : ℤ) < 10 ∧ Call.Ordered adjoiningCalls ∧
      CallLog.ofKey 0 ((RateLimiter.start 2 10 0).log adjoiningCalls) =
        [(0, none), (9, none), (9, some 1), (10, none), (12, none)] ∧
      Fair 2 (10 : ℤ) 0 adjoiningCalls ((RateLimiter.start 2 10 0).log adjoiningCalls) := by
  have hordered : Call.Ordered adjoiningCalls := by
    unfold Call.Ordered
    decide
  exact ⟨by decide, hordered, by decide, start_fair 2 (by decide) 0 hordered 0⟩

end FormIntake
