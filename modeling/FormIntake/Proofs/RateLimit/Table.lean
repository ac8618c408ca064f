import FormIntake.Proofs.RateLimit.Run
import Mathlib.Algebra.Order.Ring.Cast
import Mathlib.Data.Finset.Card
/-!
# The table of windows

Windows that are over leave the table only when some call sweeps it. Still, the
table holds no more than recent traffic has brought in: the last sweep is less
than a duration ago, and what it has kept or what has come since started less
than a duration before it.
-/

namespace FormIntake

variable {κ τ : Type} [CommRing τ] [LinearOrder τ]

namespace RateLimiter

/-- A window that is stored for a key: it was opened by an allowed call of the key, less than the
duration before the last sweep or after it, and counts no more calls than there are points. -/
structure Stored (points : ℤ) (duration now lastSweep : τ) (log : CallLog κ τ) (key : κ)
    (w : Window τ) : Prop where
  start_le : w.start ≤ now
  since_sweep : lastSweep - w.start < duration
  count_pos : 1 ≤ w.count
  count_le : (w.count : ℤ) ≤ points
  opened : (⟨w.start, key⟩, none) ∈ log

/-- The invariant of a run: what a limiter holds at a time, after the calls in the log. -/
structure Holds (points : ℤ) (duration now : τ) (log : CallLog κ τ) (l : RateLimiter κ τ) :
    Prop where
  points_eq : l.points = points
  duration_eq : l.duration = duration
  lastSweep_le : l.lastSweep ≤ now
  keys_nodup : (Assoc.keys l.windows).Nodup
  stored : ∀ entry ∈ l.windows, Stored points duration now l.lastSweep log entry.1 entry.2

variable {points : ℤ} {duration now t : τ} {log : CallLog κ τ} {l : RateLimiter κ τ}

theorem start_holds (points : ℤ) (duration opened : τ) :
    Holds points duration opened [] (start (κ := κ) (points : τ) duration opened) :=
  ⟨rfl, rfl, le_refl _, List.nodup_nil, fun _ h => absurd h List.not_mem_nil⟩

theorem Holds.mono (h : Holds points duration now log l) (hle : now ≤ t) :
    Holds points duration t log l := by
  refine ⟨h.points_eq, h.duration_eq, h.lastSweep_le.trans hle, h.keys_nodup, ?_⟩
  intro entry hentry
  have hstored := h.stored entry hentry
  exact ⟨hstored.start_le.trans hle, hstored.since_sweep, hstored.count_pos, hstored.count_le,
    hstored.opened⟩

theorem Holds.append (h : Holds points duration now log l) (more : CallLog κ τ) :
    Holds points duration now (log ++ more) l := by
  refine ⟨h.points_eq, h.duration_eq, h.lastSweep_le, h.keys_nodup, ?_⟩
  intro entry hentry
  have hstored := h.stored entry hentry
  exact ⟨hstored.start_le, hstored.since_sweep, hstored.count_pos, hstored.count_le,
    List.mem_append_left _ hstored.opened⟩

/-- Whether a sweep was due or not, after it the last one is less than the duration ago. -/
theorem Holds.sweep (h : Holds points duration now log l) (hduration : 0 < duration) :
    Holds points duration now log (l.sweep now) ∧ now - (l.sweep now).lastSweep < duration := by
  unfold RateLimiter.sweep
  split
  · refine ⟨⟨h.points_eq, h.duration_eq, le_refl now, ?_, ?_⟩, ?_⟩
    · exact h.keys_nodup.sublist (List.filter_sublist.map Prod.fst)
    · intro entry hentry
      obtain ⟨hmem, hkept⟩ := List.mem_filter.1 hentry
      have hstored := h.stored entry hmem
      have hopen : now - entry.2.start < duration := by
        simpa [elapsed, h.duration_eq] using hkept
      exact ⟨hstored.start_le, hopen, hstored.count_pos, hstored.count_le, hstored.opened⟩
    · rwa [sub_self]
  · rename_i hdue
    refine ⟨h, ?_⟩
    simpa [elapsed, h.duration_eq] using hdue

variable [DecidableEq κ]

/-- The window in which a call falls is new, or it is stored for the key and still open. -/
theorem windowAt_cases (l : RateLimiter κ τ) (key : κ) (now : τ) :
    l.windowAt key now = ⟨now, 0⟩ ∨
      (key, l.windowAt key now) ∈ l.windows ∧ now - (l.windowAt key now).start < l.duration := by
  unfold windowAt
  cases hget : Assoc.get? l.windows key with
  | none => exact Or.inl rfl
  | some w =>
      by_cases hover : l.elapsed w.start now = true
      · exact Or.inl (if_pos hover)
      · simp only [if_neg hover]
        refine Or.inr ⟨Assoc.mem_of_get? hget, ?_⟩
        simpa [elapsed] using hover

variable [IsStrictOrderedRing τ]

theorem Holds.counted (h : Holds points duration now log l) (hduration : 0 < duration) {key : κ}
    (hroom : ¬ points ≤ ((l.windowAt key now).count : ℤ)) :
    Stored points duration now (l.sweep now).lastSweep (log ++ [(⟨now, key⟩, none)]) key
      ⟨(l.windowAt key now).start, (l.windowAt key now).count + 1⟩ := by
  have hsweep := (h.sweep hduration).1.lastSweep_le
  have hcount : (((l.windowAt key now).count + 1 : ℕ) : ℤ) ≤ points := by
    push_cast
    omega
  rcases l.windowAt_cases key now with hnew | ⟨hmem, hopen⟩
  · rw [hnew] at hcount ⊢
    refine ⟨le_refl now, ?_, Nat.le_add_left 1 _, hcount, ?_⟩
    · exact (sub_nonpos.2 hsweep).trans_lt hduration
    · exact List.mem_append_right _ List.mem_cons_self
  · have hstored := h.stored _ hmem
    refine ⟨hstored.start_le, ?_, Nat.le_add_left 1 _, hcount, ?_⟩
    · rw [h.duration_eq] at hopen
      exact (sub_le_sub_right hsweep _).trans_lt hopen
    · exact List.mem_append_left _ hstored.opened

/-- A call keeps the invariant. Whether it is allowed or denied, the last sweep is then less than
the duration ago. -/
theorem Holds.consume (h : Holds points duration now log l) (hduration : 0 < duration)
    (key : κ) :
    Holds points duration now (log ++ [(⟨now, key⟩, (l.consume now key).1)])
        (l.consume now key).2 ∧
      now - (l.consume now key).2.lastSweep < duration := by
  obtain ⟨hsweep, hlast⟩ := h.sweep hduration
  simp only [RateLimiter.consume, hsweep.points_eq]
  have hcast : (points : τ) ≤ ((l.windowAt key now).count : τ) ↔
      points ≤ ((l.windowAt key now).count : ℤ) := by
    rw [← Int.cast_natCast, Int.cast_le]
  by_cases hfull : points ≤ ((l.windowAt key now).count : ℤ)
  · rw [if_pos (hcast.2 hfull)]
    exact ⟨hsweep.append _, hlast⟩
  · rw [if_neg (mt hcast.1 hfull)]
    have hafter := hsweep.append [(⟨now, key⟩, none)]
    refine ⟨⟨rfl, hafter.duration_eq, hafter.lastSweep_le, ?_, ?_⟩, hlast⟩
    · exact Assoc.nodup_keys_put hafter.keys_nodup key _
    · intro entry hentry
      rcases Assoc.eq_or_mem_of_mem_put hentry with rfl | hmem
      · exact h.counted hduration hfull
      · exact hafter.stored entry hmem

def after (l : RateLimiter κ τ) : List (Call κ τ) → RateLimiter κ τ
  | [] => l
  | c :: rest => after (l.consume c.time c.key).2 rest

theorem Holds.run (h : Holds points duration now log l) (hduration : 0 < duration)
    {calls : List (Call κ τ)} {last : Call κ τ} (hfrom : ∀ c ∈ calls ++ [last], now ≤ c.time)
    (hordered : Call.Ordered (calls ++ [last])) :
    Holds points duration last.time (log ++ l.log (calls ++ [last]))
        (l.after (calls ++ [last])) ∧
      last.time - (l.after (calls ++ [last])).lastSweep < duration := by
  induction calls generalizing l log now with
  | nil => exact (h.mono (hfrom last List.mem_cons_self)).consume hduration last.key
  | cons c rest ih =>
      obtain ⟨hnext, hrest⟩ := List.pairwise_cons.1 hordered
      have hstep := ((h.mono (hfrom c List.mem_cons_self)).consume hduration c.key).1
      have hrun := ih hstep hnext hrest
      rw [List.append_assoc] at hrun
      exact hrun

end RateLimiter

/-! ## What the table says about traffic -/

namespace CallLog

variable [DecidableEq κ]

/-- The keys that had a call allowed less than twice the duration ago. -/
def recentKeys (duration now : τ) (log : CallLog κ τ) : Finset κ :=
  ((log.filter fun entry => entry.2 = none ∧ now - entry.1.time < 2 * duration).map
    fun entry => entry.1.key).toFinset

theorem mem_recentKeys {duration now : τ} {log : CallLog κ τ} {c : Call κ τ}
    (hallowed : (c, none) ∈ log) (hrecent : now - c.time < 2 * duration) :
    c.key ∈ recentKeys duration now log := by
  rw [recentKeys, List.mem_toFinset]
  apply List.mem_map.2
  exact ⟨(c, none), List.mem_filter.2 ⟨hallowed, decide_eq_true ⟨rfl, hrecent⟩⟩, rfl⟩

end CallLog

namespace RateLimiter

variable [DecidableEq κ]

/-- The table of a limiter is bounded by recent traffic. -/
structure IsRecent (points : ℤ) (duration now : τ) (log : CallLog κ τ) (l : RateLimiter κ τ) :
    Prop where
  swept : now - l.lastSweep < duration
  keys_nodup : (Assoc.keys l.windows).Nodup
  start_le : ∀ entry ∈ l.windows, entry.2.start ≤ now
  start_recent : ∀ entry ∈ l.windows, now - entry.2.start < 2 * duration
  count_pos : ∀ entry ∈ l.windows, 1 ≤ entry.2.count
  count_le : ∀ entry ∈ l.windows, (entry.2.count : ℤ) ≤ points
  /-- A window starts with an allowed call of its key. -/
  opened : ∀ entry ∈ l.windows, (⟨entry.2.start, entry.1⟩, none) ∈ log
  length_le : l.windows.length ≤ (log.recentKeys duration now).card

variable {points : ℤ} {duration now : τ} {log : CallLog κ τ} {l : RateLimiter κ τ}

variable [IsStrictOrderedRing τ]

theorem Holds.isRecent (h : Holds points duration now log l)
    (hswept : now - l.lastSweep < duration) : IsRecent points duration now log l := by
  have hrecent : ∀ entry ∈ l.windows, now - entry.2.start < 2 * duration := by
    intro entry hentry
    have hkept := (h.stored entry hentry).since_sweep
    calc
      now - entry.2.start = (now - l.lastSweep) + (l.lastSweep - entry.2.start) :=
        (sub_add_sub_cancel _ _ _).symm
      _ < duration + duration := add_lt_add hswept hkept
      _ = 2 * duration := (two_mul duration).symm
  refine ⟨hswept, h.keys_nodup, fun entry hentry => (h.stored entry hentry).start_le, hrecent,
    fun entry hentry => (h.stored entry hentry).count_pos,
    fun entry hentry => (h.stored entry hentry).count_le,
    fun entry hentry => (h.stored entry hentry).opened, ?_⟩
  have hkeys : (Assoc.keys l.windows).toFinset ⊆ log.recentKeys duration now := by
    intro key hkey
    obtain ⟨entry, hentry, rfl⟩ := List.mem_map.1 (List.mem_toFinset.1 hkey)
    exact CallLog.mem_recentKeys (h.stored entry hentry).opened (hrecent entry hentry)
  calc
    l.windows.length = (Assoc.keys l.windows).length := (List.length_map _).symm
    _ = (Assoc.keys l.windows).toFinset.card := (List.toFinset_card_of_nodup h.keys_nodup).symm
    _ ≤ (log.recentKeys duration now).card := Finset.card_le_card hkeys

/-- After every call of a run, the table has windows of recent traffic only, none of them counted
past the points. -/
theorem table_is_recent (points : ℤ) {duration : τ} (hduration : 0 < duration) {opened : τ}
    {calls : List (Call κ τ)} {last : Call κ τ} (hfrom : ∀ c ∈ calls ++ [last], opened ≤ c.time)
    (hordered : Call.Ordered (calls ++ [last])) :
    IsRecent points duration last.time
      ((start (points : τ) duration opened).log (calls ++ [last]))
      ((start (points : τ) duration opened).after (calls ++ [last])) := by
  obtain ⟨hholds, hswept⟩ := (start_holds points duration opened).run hduration hfrom hordered
  exact hholds.isRecent hswept

/-- A sweep at 12 keeps the window of key 0. It is over at 14, but no sweep is due until 22. -/
def staleCalls : List (Call ℕ ℤ) :=
  [⟨4, 0⟩, ⟨5, 0⟩, ⟨12, 1⟩]

theorem stale_window_is_recent :
    (0 : ℤ) < 10 ∧ (∀ c ∈ staleCalls ++ [⟨20, 2⟩], 0 ≤ c.time) ∧
      Call.Ordered (staleCalls ++ [⟨20, 2⟩]) ∧
      ((start 1 10 0).after (staleCalls ++ [⟨20, 2⟩])).windows =
        [(0, ⟨4, 1⟩), (1, ⟨12, 1⟩), (2, ⟨20, 1⟩)] ∧
      IsRecent 1 10 20
        [(⟨4, 0⟩, none), (⟨5, 0⟩, some 9), (⟨12, 1⟩, none), (⟨20, 2⟩, none)]
        ((start 1 10 0).after (staleCalls ++ [⟨20, 2⟩])) := by
  have hfrom : ∀ c ∈ staleCalls ++ [⟨20, 2⟩], 0 ≤ c.time := by decide
  have hordered : Call.Ordered (staleCalls ++ [⟨20, 2⟩]) := by
    unfold Call.Ordered
    decide
  exact ⟨by decide, hfrom, hordered, by decide, table_is_recent 1 (by decide) hfrom hordered⟩

end RateLimiter

end FormIntake
