import FormIntake.Proofs.Calendar.Spellings
import FormIntake.Proofs.Validation.Fields
/-!
# Earliest days

The day that is named when a value is too early is where a date field begins to
take days: it is taken itself, in the spelling of the message, all later days
are taken too, and all earlier ones get the same message, whatever their
spelling is.
-/

namespace FormIntake

theorem Date.not_before_self (d : Date) : ¬ d.Before d :=
  fun h => Nat.lt_irrefl _ (ordinal_lt_of_before h)

namespace Validation

def tooEarlyFor (label name : Text) : Text :=
  label ++ " cannot be earlier than " ++ name ++ "."

structure Threshold (zone : Int) (today : Date) (f : Field) (first : Date) : Prop where
  /-- The message that a value is too early names this day, and the value is an earlier one. -/
  of_message : ∀ v name, validateField zone today f v = .ok (some (tooEarlyFor f.label name)) →
    name = first.text ∧
      ∃ t day, v = .str t ∧ Calendar.readDay? zone t = some day ∧ day.Before first
  takes_name : validateField zone today f (.str first.text) = .ok none
  takes : ∀ t day, Calendar.readDay? zone t = some day → ¬ day.Before first →
    validateField zone today f (.str t) = .ok none
  refuses : ∀ t day, Calendar.readDay? zone t = some day → day.Before first →
    validateField zone today f (.str t) = .ok (some (tooEarlyFor f.label first.text))

variable {zone : Int} {today : Date} {f : Field} {rules : Option DateRules} {first : Date}

/-! ## The rules of a date field -/

theorem fieldRules_date (hkind : f.kind = .date rules)
    (hfirst : earliest? zone today rules = some first) :
    fieldRules zone today f = .present f.required ::
      [Rule.isText .notADateText, .isDay zone, .notBefore zone first].map Rule.unlessVacant := by
  have hswitch : ¬ (f.required = true ∧ f.kind = .switch) := by
    rintro ⟨-, hswitch⟩
    rw [hkind] at hswitch
    cases hswitch
  rw [fieldRules, if_neg hswitch, hkind, kindRules, dateRules, hfirst]
  rfl

/-- A text that names a day is judged by the day alone. -/
theorem judges_day (hkind : f.kind = .date rules)
    (hfirst : earliest? zone today rules = some first) {t : Text} {day : Date}
    (hread : Calendar.readDay? zone t = some day) :
    Judges (.str t) (fieldRules zone today f) (breaks (.tooEarly first) (day.lt first)) := by
  have hfull := not_vacant_of_readDay? hread
  have hday : ¬ (Rule.isDay zone).Broken (.str t) := by
    rw [Rule.isDay, ofText_broken_iff, hread]
    exact Option.some_ne_none day
  have hbound : Judges (.str t) [Rule.notBefore zone first]
      (breaks (.tooEarly first) (day.lt first)) := by
    apply judges_one (r := Rule.notBefore zone first)
    rw [Rule.notBefore, ofText_broken_iff, Date.lt_iff_before]
    simp [hread]
  rw [fieldRules_date hkind hfirst]
  apply Judges.kept
  · exact fun hbroken => hfull hbroken.1
  · exact (Judges.kept (isText_kept _ t) (Judges.kept hday hbound)).unlessVacant hfull

theorem validateField_day (hcheck : f.kind.Checkable zone) (hkind : f.kind = .date rules)
    (hfirst : earliest? zone today rules = some first) {t : Text} {day : Date}
    (hread : Calendar.readDay? zone t = some day) :
    validateField zone today f (.str t) =
      if day.lt first then .ok (some (tooEarlyFor f.label first.text)) else .ok none := by
  rw [validateField_of_judges hcheck (judges_day hkind hfirst hread)]
  cases day.lt first with
  | false => rfl
  | true => rfl

/-! ## Messages -/

/-- Messages that differ in their first words are different. -/
theorem message_ne {label words other rest : Text} (hlength : 2 ≤ other.length)
    (h : words.take 2 ≠ other.take 2) : label ++ words ≠ label ++ other ++ rest := by
  rw [List.append_assoc]
  intro hsame
  have hwords := congrArg (List.take 2) (List.append_cancel_left hsame)
  rw [List.take_append_of_le_length hlength] at hwords
  exact h hwords

theorem tooEarlyFor_inj {label name name' : Text}
    (h : tooEarlyFor label name = tooEarlyFor label name') : name = name' :=
  List.append_cancel_left (List.append_cancel_right h)

/-- Only the rule about the earliest day has such a message. -/
theorem broken_of_message (hcheck : f.kind.Checkable zone) (hkind : f.kind = .date rules)
    (hfirst : earliest? zone today rules = some first) {v : Json} {name : Text}
    (h : validateField zone today f v = .ok (some (tooEarlyFor f.label name))) :
    name = first.text ∧ (Rule.notBefore zone first).Broken v := by
  obtain ⟨o, -, hjudges⟩ := violation_judges hcheck today v
  rw [validateField_of_judges hcheck hjudges] at h
  cases o with
  | none => cases h
  | some w =>
      have hmessage : w.message f.label = tooEarlyFor f.label name := by
        rw [report] at h
        split at h
        · exact Option.some.inj (Except.ok.inj h)
        · cases h
      obtain ⟨r, hr, rfl, hbroken⟩ := FirstBroken.exists_rule hjudges
      rw [fieldRules_date hkind hfirst] at hr
      simp only [List.map_cons, List.map_nil, List.mem_cons, List.not_mem_nil, or_false] at hr
      rw [tooEarlyFor, List.append_assoc] at hmessage
      -- a missing value, no text and no day are reported in other words
      rcases hr with rfl | rfl | rfl | rfl
      · exact absurd hmessage (message_ne (by decide) (by decide))
      · exact absurd hmessage (message_ne (by decide) (by decide))
      · exact absurd hmessage (message_ne (by decide) (by decide))
      · rw [← List.append_assoc] at hmessage
        exact ⟨(tooEarlyFor_inj hmessage).symm, hbroken.2⟩

theorem takes_day (hcheck : f.kind.Checkable zone) (hkind : f.kind = .date rules)
    (hfirst : earliest? zone today rules = some first) {t : Text} {day : Date}
    (hread : Calendar.readDay? zone t = some day) (hnot : ¬ day.Before first) :
    validateField zone today f (.str t) = .ok none := by
  rw [validateField_day hcheck hkind hfirst hread, if_neg]
  rwa [Date.lt_iff_before]

/-- A day is read back from the name that messages give it. -/
theorem readDay?_name (zone : Int) (day : Date) : Calendar.readDay? zone day.text = some day := by
  have hread : Calendar.readDay? zone ([] ++ day.text ++ []) = some day :=
    Calendar.readDay?_text zone rfl rfl day
  rwa [List.nil_append, List.append_nil] at hread

theorem threshold_of_earliest? (hcheck : f.kind.Checkable zone) (hkind : f.kind = .date rules)
    (hfirst : earliest? zone today rules = some first) : Threshold zone today f first where
  of_message := by
    intro v name h
    obtain ⟨hname, t, rfl, day, hread, hbefore⟩ := broken_of_message hcheck hkind hfirst h
    exact ⟨hname, t, day, rfl, hread, hbefore⟩
  takes_name := takes_day hcheck hkind hfirst (readDay?_name zone first) first.not_before_self
  takes := fun _ _ hread hnot => takes_day hcheck hkind hfirst hread hnot
  refuses := by
    intro t day hread hbefore
    rw [validateField_day hcheck hkind hfirst hread, if_pos ((Date.lt_iff_before _ _).2 hbefore)]

/-- An accepted date field with an earliest day names the first day that it takes. -/
theorem earliest_day_is_threshold {zone : Int} {item : Json} {f : Field}
    (hread : Form.readField zone item = .accepted f) {rules : DateRules} {bound : MinDate}
    (hkind : f.kind = .date (some rules)) (hbound : rules.minDate = some bound) (today : Date) :
    ∃ first, bound.resolve? zone today = some first ∧ Threshold zone today f first := by
  have hcheck := (Form.wellFormed_of_readField hread).kind.checkable
  obtain ⟨first, hfirst⟩ : ∃ first, bound.resolve? zone today = some first := by
    rw [hkind] at hcheck
    exact hcheck bound hbound today
  refine ⟨first, hfirst, threshold_of_earliest? hcheck hkind ?_⟩
  rw [earliest?, Option.bind_some, hbound, Option.bind_some, hfirst]

def startDocument : Json :=
  .object
    [("type", .ofString "date"), ("name", .ofString "start"), ("label", .ofString "Start"),
      ("validations", .object [("minDate", .ofString "2025-06-30T23:30:00-05:00")])]

def startField : Field where
  name := "start"
  label := "Start"
  required := false
  kind := .date (some ⟨some (.text "2025-06-30T23:30:00-05:00")⟩)

def startDay : Date :=
  ⟨2025, 7, 1, by decide⟩

/-- Seen from an offset of 5:30, the moment falls on the next day. -/
theorem startField_takes_days_from_startDay :
    Form.readField 330 startDocument = .accepted startField ∧
      Threshold 330 startDay startField startDay ∧
      validateField 330 startDay startField (.str "2025-07-01") = .ok none ∧
      validateField 330 startDay startField (.str " 2025-W27-1") =
        .ok (some "Start cannot be earlier than 2025-07-01.") := by
  have hread : Form.readField 330 startDocument = .accepted startField := rfl
  obtain ⟨first, hfirst, hthreshold⟩ := earliest_day_is_threshold hread rfl rfl startDay
  have hresolve : (MinDate.text "2025-06-30T23:30:00-05:00").resolve? 330 startDay =
      some startDay := by decide +kernel
  rw [← Option.some.inj (hresolve.symm.trans hfirst)] at hthreshold
  have hweek : Calendar.readDay? 330 " 2025-W27-1" = some ⟨2025, 6, 30, by decide⟩ := by
    decide +kernel
  exact ⟨hread, hthreshold, hthreshold.takes_name,
    hthreshold.refuses _ _ hweek (Or.inr ⟨rfl, Or.inl (by decide)⟩)⟩

end Validation

end FormIntake
