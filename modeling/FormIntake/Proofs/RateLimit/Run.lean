import FormIntake.RateLimit
import Mathlib.Algebra.Order.Ring.Defs
import Mathlib.Tactic.Linarith
/-!
# Runs of a rate limiter

A limiter serves all keys from one table and sweeps it now and then. Each key
by itself is served by a much plainer machine, which holds the last window of
that key and never sweeps. Times are those of an ordered ring, so that sums and
differences are exact.
-/

namespace FormIntake

structure Call (κ τ : Type) where
  time : τ
  key : κ
  deriving DecidableEq

/-- Calls with their answers: nothing if a call is allowed, otherwise the time to wait. -/
abbrev CallLog (κ τ : Type) := List (Call κ τ × Option τ)

namespace Call

variable {κ τ : Type} [DecidableEq κ]

def timesOf (key : κ) (calls : List (Call κ τ)) : List τ :=
  (calls.filter fun c => c.key = key).map time

def Ordered [LE τ] (calls : List (Call κ τ)) : Prop :=
  calls.Pairwise fun c d => c.time ≤ d.time

end Call

theorem exists_le_of_ordered {τ : Type} [LinearOrder τ] [Zero τ] {times : List τ}
    (h : times.Pairwise (· ≤ ·)) : ∃ now, ∀ t ∈ times, now ≤ t := by
  cases times with
  | nil => exact ⟨0, by simp⟩
  | cons first rest =>
      refine ⟨first, ?_⟩
      intro t ht
      rcases List.mem_cons.1 ht with rfl | ht
      · exact le_refl _
      · exact (List.pairwise_cons.1 h).1 t ht

namespace Call

variable {κ τ : Type} [LinearOrder τ] {calls : List (Call κ τ)}

theorem Ordered.exists_le [Zero τ] (h : Ordered calls) : ∃ now, ∀ c ∈ calls, now ≤ c.time := by
  obtain ⟨now, hfrom⟩ := exists_le_of_ordered (List.pairwise_map.2 h)
  exact ⟨now, List.forall_mem_map.1 hfrom⟩

theorem Ordered.timesOf [DecidableEq κ] (h : Ordered calls) (key : κ) :
    (timesOf key calls).Pairwise (· ≤ ·) :=
  List.pairwise_map.2 (h.filter _)

end Call

namespace CallLog

variable {κ τ : Type} [DecidableEq κ]

def ofKey (key : κ) (log : CallLog κ τ) : List (τ × Option τ) :=
  (log.filter fun entry => entry.1.key = key).map fun entry => (entry.1.time, entry.2)

theorem ofKey_times (key : κ) (log : CallLog κ τ) :
    (log.ofKey key).map Prod.fst = Call.timesOf key (log.map Prod.fst) := by
  simp [ofKey, Call.timesOf, List.filter_map, Function.comp_def]

theorem mem_ofKey {key : κ} {log : CallLog κ τ} {entry : Call κ τ × Option τ} (h : entry ∈ log)
    (hkey : entry.1.key = key) : (entry.1.time, entry.2) ∈ log.ofKey key :=
  List.mem_map.2 ⟨entry, List.mem_filter.2 ⟨h, decide_eq_true hkey⟩, rfl⟩

theorem ofKey_append (before after : CallLog κ τ) (key : κ) :
    ofKey key (before ++ after) = ofKey key before ++ ofKey key after := by
  simp [ofKey]

theorem ofKey_append_cons (before after : CallLog κ τ) (c : Call κ τ) (answer : Option τ) :
    ofKey c.key (before ++ (c, answer) :: after) =
      ofKey c.key before ++ (c.time, answer) :: ofKey c.key after := by
  simp [ofKey]

/-- Logs of the same calls are equal if every key gets the same answers in both. -/
theorem eq_of_ofKey {first second : CallLog κ τ}
    (hcalls : first.map Prod.fst = second.map Prod.fst)
    (h : ∀ key, first.ofKey key = second.ofKey key) : first = second := by
  induction first generalizing second with
  | nil => exact (List.map_eq_nil_iff.1 hcalls.symm).symm
  | cons entry first ih =>
      cases second with
      | nil => cases hcalls
      | cons other second =>
          obtain ⟨hcall, hrest⟩ := List.cons.inj hcalls
          obtain ⟨c, answer⟩ := entry
          obtain ⟨d, other⟩ := other
          obtain rfl : c = d := hcall
          have hown := h c.key
          simp only [ofKey, List.filter_cons, decide_true, if_true, List.map_cons] at hown
          obtain ⟨hanswer, -⟩ := List.cons.inj hown
          obtain rfl : answer = other := (Prod.mk.inj hanswer).2
          rw [ih hrest]
          intro key
          have hkey := h key
          simp only [ofKey, List.filter_cons] at hkey ⊢
          split at hkey
          · exact (List.cons.inj hkey).2
          · exact hkey

end CallLog

variable {κ τ : Type} [DecidableEq κ] [Ring τ] [LinearOrder τ]

namespace RateLimiter

def log (l : RateLimiter κ τ) : List (Call κ τ) → CallLog κ τ
  | [] => []
  | c :: rest => (c, (l.consume c.time c.key).1) :: log (l.consume c.time c.key).2 rest

theorem log_calls (l : RateLimiter κ τ) (calls : List (Call κ τ)) :
    (l.log calls).map Prod.fst = calls := by
  induction calls generalizing l with
  | nil => rfl
  | cons c rest ih => rw [log, List.map_cons, ih]

end RateLimiter

/-! ## A key on its own -/

namespace Window

/-- The window in which a call falls: a new one if none is held or the one that is held is over. -/
def current (duration : τ) (held : Option (Window τ)) (now : τ) : Window τ :=
  match held with
  | none => ⟨now, 0⟩
  | some w => if duration ≤ now - w.start then ⟨now, 0⟩ else w

/-- A call of a key on its own. One that is denied leaves what is held as it was. -/
def call (points duration : τ) (held : Option (Window τ)) (now : τ) :
    Option τ × Option (Window τ) :=
  let w := current duration held now
  if points ≤ (w.count : τ) then (some (duration - (now - w.start)), held)
  else (none, some ⟨w.start, w.count + 1⟩)

def log (points duration : τ) (held : Option (Window τ)) : List τ → List (τ × Option τ)
  | [] => []
  | t :: rest => (t, (call points duration held t).1) ::
      log points duration (call points duration held t).2 rest

theorem log_times (points duration : τ) (held : Option (Window τ)) (times : List τ) :
    (log points duration held times).map Prod.fst = times := by
  induction times generalizing held with
  | nil => rfl
  | cons t rest ih => rw [log, List.map_cons, ih]

end Window

/-! ## What a limiter keeps of a key -/

namespace RateLimiter

/-- A limiter serves a key as the key would be served on its own: its table has the window that the
key holds, or has lost it after it was over. -/
structure Serves (points duration : τ) (key : κ) (held : Option (Window τ)) (now : τ)
    (l : RateLimiter κ τ) : Prop where
  points_eq : l.points = points
  duration_eq : l.duration = duration
  keys_nodup : (Assoc.keys l.windows).Nodup
  held_or_lost : Assoc.get? l.windows key = held ∨
    Assoc.get? l.windows key = none ∧ ∃ w, held = some w ∧ duration ≤ now - w.start

variable {points duration now t : τ} {key : κ} {held : Option (Window τ)} {l : RateLimiter κ τ}

theorem start_serves (points duration opened now : τ) (key : κ) :
    Serves points duration key none now (start points duration opened) :=
  ⟨rfl, rfl, List.nodup_nil, Or.inl rfl⟩

theorem Serves.windowAt_eq (h : Serves points duration key held now l) :
    l.windowAt key now = Window.current duration held now := by
  unfold windowAt Window.current elapsed
  rw [h.duration_eq]
  rcases h.held_or_lost with heq | ⟨hnone, w, rfl, hover⟩
  · rw [heq]
    cases held <;> simp only [decide_eq_true_eq]
  · rw [hnone]
    simp only [hover, if_true]

theorem Serves.sweep (h : Serves points duration key held now l) :
    Serves points duration key held now (l.sweep now) := by
  unfold RateLimiter.sweep
  split
  · refine ⟨h.points_eq, h.duration_eq, ?_, ?_⟩
    · exact h.keys_nodup.sublist (List.filter_sublist.map Prod.fst)
    · simp only [Assoc.get?_filter h.keys_nodup fun w => !l.elapsed w.start now]
      rcases h.held_or_lost with heq | ⟨hnone, hlost⟩
      · rw [heq]
        cases held with
        | none => exact Or.inl rfl
        | some w =>
            by_cases hover : duration ≤ now - w.start
            · refine Or.inr ⟨?_, w, rfl, hover⟩
              simp [Option.filter, elapsed, h.duration_eq, hover]
            · refine Or.inl ?_
              simp [Option.filter, elapsed, h.duration_eq, hover]
      · rw [hnone]
        exact Or.inr ⟨rfl, hlost⟩
  · exact h

theorem Serves.put_self (h : Serves points duration key held now l) (w : Window τ) :
    Serves points duration key (some w) now { l with windows := Assoc.put l.windows key w } := by
  refine ⟨h.points_eq, h.duration_eq, Assoc.nodup_keys_put h.keys_nodup key w, Or.inl ?_⟩
  rw [Assoc.get?_put, if_pos rfl]

theorem Serves.put_other (h : Serves points duration key held now l) {other : κ}
    (hne : other ≠ key) (w : Window τ) :
    Serves points duration key held now { l with windows := Assoc.put l.windows other w } := by
  refine ⟨h.points_eq, h.duration_eq, Assoc.nodup_keys_put h.keys_nodup other w, ?_⟩
  simp only [Assoc.get?_put, if_neg hne]
  exact h.held_or_lost

/-- A call is answered as if the key were on its own, and goes on being served so. -/
theorem Serves.consume_self (h : Serves points duration key held now l) :
    (l.consume now key).1 = (Window.call points duration held now).1 ∧
      Serves points duration key (Window.call points duration held now).2 now
        (l.consume now key).2 := by
  have hsweep := h.sweep
  simp only [consume, Window.call, h.windowAt_eq]
  by_cases hfull : points ≤ ((Window.current duration held now).count : τ)
  · rw [if_pos hfull, if_pos (hsweep.points_eq.trans_le hfull), hsweep.duration_eq]
    exact ⟨rfl, hsweep⟩
  · rw [if_neg hfull, if_neg fun hle => hfull (hsweep.points_eq.symm.trans_le hle)]
    exact ⟨rfl, hsweep.put_self _⟩

/-- Calls of other keys, and the sweeps that come with them, change nothing for a key. -/
theorem Serves.consume_other (h : Serves points duration key held now l) {other : κ}
    (hne : other ≠ key) : Serves points duration key held now (l.consume now other).2 := by
  simp only [consume]
  split
  · exact h.sweep
  · exact h.sweep.put_other hne _

variable [IsStrictOrderedRing τ]

theorem Serves.mono (h : Serves points duration key held now l) (hle : now ≤ t) :
    Serves points duration key held t l := by
  refine ⟨h.points_eq, h.duration_eq, h.keys_nodup, ?_⟩
  rcases h.held_or_lost with heq | ⟨hnone, w, hw, hover⟩
  · exact Or.inl heq
  · refine Or.inr ⟨hnone, w, hw, ?_⟩
    calc
      duration ≤ now - w.start := hover
      _ ≤ t - w.start := sub_le_sub_right hle w.start

/-- In a run, the calls of a key are answered as if the key were on its own. -/
theorem Serves.log_ofKey (h : Serves points duration key held now l) {calls : List (Call κ τ)}
    (hfrom : ∀ c ∈ calls, now ≤ c.time) (hordered : Call.Ordered calls) :
    CallLog.ofKey key (l.log calls) =
      Window.log points duration held (Call.timesOf key calls) := by
  induction calls generalizing l held now with
  | nil => rfl
  | cons c rest ih =>
      obtain ⟨hnext, hrest⟩ := List.pairwise_cons.1 hordered
      have hserves := h.mono (hfrom c List.mem_cons_self)
      by_cases hkey : c.key = key
      · subst hkey
        obtain ⟨hanswer, hafter⟩ := hserves.consume_self
        have hlog := ih hafter hnext hrest
        simp only [CallLog.ofKey, Call.timesOf, log, Window.log, List.filter_cons, decide_true,
          if_true, List.map_cons, hanswer] at hlog ⊢
        rw [hlog]
      · have hlog := ih (hserves.consume_other hkey) hnext hrest
        simp only [CallLog.ofKey, Call.timesOf, log, List.filter_cons, hkey, decide_false,
          Bool.false_eq_true, if_false] at hlog ⊢
        rw [hlog]

theorem start_log_ofKey (points duration opened : τ) {calls : List (Call κ τ)}
    (h : Call.Ordered calls) (key : κ) :
    CallLog.ofKey key ((start points duration opened).log calls) =
      Window.log points duration none (Call.timesOf key calls) := by
  obtain ⟨now, hfrom⟩ := h.exists_le
  exact (start_serves points duration opened now key).log_ofKey hfrom h

/-- Sweeping and other keys are invisible. A key gets the answers that it would get on its own, so
they are the same in all runs in which it calls at the same times. -/
theorem key_served_alone (points duration opened : τ) {calls : List (Call κ τ)}
    (h : Call.Ordered calls) (key : κ) :
    CallLog.ofKey key ((start points duration opened).log calls) =
        Window.log points duration none (Call.timesOf key calls) ∧
      ∀ others : List (Call κ τ), Call.Ordered others →
        Call.timesOf key others = Call.timesOf key calls →
        CallLog.ofKey key ((start points duration opened).log others) =
          CallLog.ofKey key ((start points duration opened).log calls) := by
  have halone := start_log_ofKey points duration opened h key
  refine ⟨halone, ?_⟩
  intro others hothers htimes
  rw [halone, start_log_ofKey points duration opened hothers key, htimes]

/-- The call of key 1 sweeps away the window of key 0 between two calls of key 0. -/
def sweptCalls : List (Call ℕ ℤ) :=
  [⟨0, 0⟩, ⟨3, 0⟩, ⟨10, 1⟩, ⟨12, 0⟩]

theorem swept_key_served_alone :
    Call.Ordered sweptCalls ∧
      CallLog.ofKey 0 ((start 1 10 0).log sweptCalls) = [(0, none), (3, some 7), (12, none)] ∧
      ∀ others : List (Call ℕ ℤ), Call.Ordered others → Call.timesOf 0 others = [0, 3, 12] →
        CallLog.ofKey 0 ((start 1 10 0).log others) =
          [(0, none), (3, some 7), (12, none)] := by
  have hordered : Call.Ordered sweptCalls := by
    unfold Call.Ordered
    decide
  obtain ⟨halone, hothers⟩ := key_served_alone 1 10 0 hordered 0
  have hlog : Window.log 1 10 none (Call.timesOf 0 sweptCalls) =
      [(0, none), (3, some 7), (12, none)] := by decide
  rw [hlog] at halone
  refine ⟨hordered, halone, ?_⟩
  intro others hordered' htimes
  rw [← halone]
  exact hothers others hordered' htimes

end RateLimiter

end FormIntake
