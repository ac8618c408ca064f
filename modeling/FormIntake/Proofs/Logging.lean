import FormIntake.Logging
import Mathlib.Data.List.Induction
/-!
# Configuring the logger

However often the logger is configured, with names of levels or with other
texts, the service has one handler on it from the first time that succeeds, and
the level is that of the last time. A time that fails changes nothing, as the
level is set before the handler is installed.
-/

namespace FormIntake

namespace LogLevel

/-- The eight names: each level has its own, and two of them have a second one. -/
inductive IsName : Text → LogLevel → Prop
  | critical : IsName "CRITICAL" .critical
  | fatal : IsName "FATAL" .critical
  | error : IsName "ERROR" .error
  | warning : IsName "WARNING" .warning
  | warn : IsName "WARN" .warning
  | info : IsName "INFO" .info
  | debug : IsName "DEBUG" .debug
  | notSet : IsName "NOTSET" .notSet

/-- A text names a level: in capitals it is one of the level's names. -/
def Names (t : Text) (level : LogLevel) : Prop :=
  IsName t.upper level

def IsUnknown (t : Text) : Prop :=
  ∀ level, ¬ Names t level

theorem isName_of_mem {entry : Text × LogLevel} (h : entry ∈ names) : IsName entry.1 entry.2 := by
  simp only [names, List.mem_cons, List.not_mem_nil, or_false] at h
  rcases h with rfl | rfl | rfl | rfl | rfl | rfl | rfl | rfl
  · exact .critical
  · exact .fatal
  · exact .error
  · exact .warn
  · exact .warning
  · exact .info
  · exact .debug
  · exact .notSet

theorem ofName?_eq_some_iff {name : Text} {level : LogLevel} :
    ofName? name = some level ↔ IsName name level := by
  refine ⟨fun h => isName_of_mem (Assoc.mem_of_get? h), fun h => ?_⟩
  cases h <;> decide

theorem Names.unique {t : Text} {level level' : LogLevel} (h : Names t level)
    (h' : Names t level') : level = level' :=
  Option.some.inj ((ofName?_eq_some_iff.2 h).symm.trans (ofName?_eq_some_iff.2 h'))

theorem ofName?_eq_none_iff {t : Text} : ofName? t.upper = none ↔ IsUnknown t := by
  rw [Option.eq_none_iff_forall_ne_some]
  exact forall_congr' fun level => not_congr ofName?_eq_some_iff

end LogLevel

namespace Logger

variable {t : Text} {level : LogLevel}

def withHandler (l : Logger) : Logger :=
  if l.ownHandler then l else { l with handlers := l.handlers + 1, ownHandler := true }

/-- The logger after a call, whether it succeeds or breaks off. -/
def after (l : Logger) (t : Text) : Logger :=
  match (configuring t).run l with
  | .ok _ next => next
  | .error _ next => next

def afterAll (l : Logger) (calls : List Text) : Logger :=
  calls.foldl after l

/-! ## One call -/

theorem run_installHandler (l : Logger) : installHandler.run l = .ok () l.withHandler := by
  obtain ⟨level, handlers, own⟩ := l
  cases own with
  | false => rfl
  | true => rfl

theorem run_configuring_of_names (h : LogLevel.Names t level) (l : Logger) :
    (configuring t).run l = .ok () { l with level }.withHandler := by
  have hset : (setLevel t.upper).run l = .ok () { l with level } := by
    rw [setLevel, LogLevel.ofName?_eq_some_iff.2 h]
    rfl
  rw [configuring, EStateM.run_bind, hset]
  exact run_installHandler _

theorem run_configuring_of_unknown (h : LogLevel.IsUnknown t) (l : Logger) :
    (configuring t).run l = .error ⟨t.upper⟩ l := by
  have hset : (setLevel t.upper).run l = .error ⟨t.upper⟩ l := by
    rw [setLevel, LogLevel.ofName?_eq_none_iff.2 h]
    rfl
  rw [configuring, EStateM.run_bind, hset]

theorem names_or_unknown (t : Text) : (∃ level, LogLevel.Names t level) ∨ LogLevel.IsUnknown t := by
  rw [or_iff_not_imp_left, not_exists]
  exact id

theorem after_of_names (h : LogLevel.Names t level) (l : Logger) :
    l.after t = { l with level }.withHandler := by
  rw [after, run_configuring_of_names h]

theorem after_of_unknown (h : LogLevel.IsUnknown t) (l : Logger) : l.after t = l := by
  rw [after, run_configuring_of_unknown h]

/-! ## Rows of calls -/

/-- What a row of calls makes of a logger that the service has not touched before: nothing if all
of them break off, else the level of the last one that succeeds, and one more handler. -/
inductive Settled (start : LogLevel) (others : Nat) (calls : List Text) : Logger → Prop
  | untouched (h : ∀ t ∈ calls, LogLevel.IsUnknown t) :
      Settled start others calls ⟨start, others, false⟩
  | configured {before later : List Text} {t : Text} {level : LogLevel}
      (hcalls : calls = before ++ t :: later) (hnames : LogLevel.Names t level)
      (hlater : ∀ u ∈ later, LogLevel.IsUnknown u) :
      Settled start others calls ⟨level, others + 1, true⟩

variable {start : LogLevel} {others : Nat} {calls : List Text} {l : Logger}

theorem Settled.after (h : Settled start others calls l) (t : Text) :
    Settled start others (calls ++ [t]) (l.after t) := by
  rcases names_or_unknown t with ⟨level, hnames⟩ | hunknown
  · have hafter : l.after t = ⟨level, others + 1, true⟩ := by
      rw [after_of_names hnames]
      cases h with
      | untouched _ => rfl
      | configured _ _ _ => rfl
    rw [hafter]
    exact .configured rfl hnames (List.forall_mem_nil _)
  · rw [after_of_unknown hunknown]
    cases h with
    | untouched hall =>
        exact .untouched (List.forall_mem_append.2 ⟨hall, by simpa using hunknown⟩)
    | @configured before later u level hcalls hnames hlater =>
        have hmore : calls ++ [t] = before ++ u :: (later ++ [t]) := by
          rw [hcalls, List.append_assoc, List.cons_append]
        exact .configured hmore hnames
          (List.forall_mem_append.2 ⟨hlater, by simpa using hunknown⟩)

theorem settled_afterAll (start : LogLevel) (others : Nat) (calls : List Text) :
    Settled start others calls (afterAll ⟨start, others, false⟩ calls) := by
  induction calls using List.reverseRecOn with
  | nil => exact .untouched (List.forall_mem_nil _)
  | append_singleton calls t ih =>
      rw [afterAll, List.foldl_append]
      exact ih.after t

theorem after_after (l : Logger) (t : Text) : (l.after t).after t = l.after t := by
  rcases names_or_unknown t with ⟨level, hnames⟩ | hunknown
  · obtain ⟨previous, handlers, own⟩ := l
    rw [after_of_names hnames, after_of_names hnames]
    cases own with
    | false => rfl
    | true => rfl
  · rw [after_of_unknown hunknown]

/-- A row of calls settles the logger, call by call: each one either names a level, which is set
and has its handler, or breaks off and leaves the logger as it was. To repeat a call changes
nothing. -/
theorem calls_settle_logger (start : LogLevel) (others : Nat) (calls : List Text) :
    Settled start others calls (afterAll ⟨start, others, false⟩ calls) ∧
    (∀ (l : Logger) (t : Text),
      (∃ level, LogLevel.Names t level ∧
        (configuring t).run l = .ok () { l with level }.withHandler) ∨
      (LogLevel.IsUnknown t ∧ (configuring t).run l = .error ⟨t.upper⟩ l)) ∧
    ∀ (l : Logger) (t : Text), (l.after t).after t = l.after t := by
  refine ⟨settled_afterAll start others calls, ?_, after_after⟩
  intro l t
  rcases names_or_unknown t with ⟨level, hnames⟩ | hunknown
  · exact Or.inl ⟨level, hnames, run_configuring_of_names hnames l⟩
  · exact Or.inr ⟨hunknown, run_configuring_of_unknown hunknown l⟩

def dotlessInfo : Text :=
  CodePoint.ofNat 0x131 :: Text.ofString "nfo"

theorem dotless_name_is_configured :
    LogLevel.Names dotlessInfo .info ∧
      Settled .notSet 0 ["loud", dotlessInfo, " debug"]
        (afterAll fresh ["loud", dotlessInfo, " debug"]) ∧
      (configuring dotlessInfo).run fresh = .ok () ⟨.info, 1, true⟩ := by
  have hnames : LogLevel.Names dotlessInfo .info := LogLevel.ofName?_eq_some_iff.1 (by decide)
  obtain ⟨hsettled, hcalls, -⟩ := calls_settle_logger .notSet 0 ["loud", dotlessInfo, " debug"]
  refine ⟨hnames, hsettled, ?_⟩
  rcases hcalls fresh dotlessInfo with ⟨level, hlevel, hrun⟩ | ⟨hunknown, -⟩
  · rw [hlevel.unique hnames] at hrun
    exact hrun
  · exact absurd hnames (hunknown .info)

example : afterAll fresh ["loud", dotlessInfo, " debug"] = ⟨.info, 1, true⟩ := by
  decide

end Logger

end FormIntake
