import FormIntake.Proofs.Form.Accepted
import FormIntake.Proofs.Number.Reading
import FormIntake.Proofs.Text.Blank
import FormIntake.Proofs.Validation.Judging
/-!
# The checks follow the rules

Every check reports the first broken rule of its row. One lemma for each check,
in the order in which the checks are built from each other.
-/

namespace FormIntake.Validation

open Rule

theorem isEmpty_iff_vacant (v : Json) : isEmpty v = true ↔ Vacant v := by
  cases v <;> simp [isEmpty, Vacant, Text.strip_eq_nil_iff]

theorem not_vacant_str {t : Text} : ¬ Vacant (.str t) ↔ t.strip ≠ [] := by
  simp [Vacant]

/-! ## Texts -/

theorem ofText_broken_iff {violation : Violation} {Bad : Text → Prop} (t : Text) :
    (ofText violation Bad).Broken (.str t) ↔ Bad t := by
  simp [ofText]

theorem isText_kept (violation : Violation) (t : Text) :
    ¬ (isText violation).Broken (.str t) :=
  fun h => h t rfl

theorem checkLength_judges (least greatest : Option Nat) (t : Text) :
    Judges (.str t) (lengthRules least greatest) (checkLength least greatest t) := by
  rw [checkLength, firstOf_pair]
  apply Judges.append
  · apply judges_bound
    intro n
    rw [decide_eq_true_eq, minLength, ofText_broken_iff]
  · apply judges_bound
    intro n
    rw [decide_eq_true_eq, maxLength, ofText_broken_iff]

theorem checkPattern_judges {source? : Option Text}
    (h : ∀ source, source? = some source → ∃ p, Pattern.read source = .ok p) (t : Text) :
    ∃ o, checkPattern source? t = .ok o ∧
      Judges (.str t) (source?.toList.map matching) o := by
  cases source? with
  | none => exact ⟨none, rfl, judges_nil⟩
  | some source =>
      obtain ⟨p, hp⟩ := h source rfl
      refine ⟨breaks .noMatch !(p.accepts t), ?_, ?_⟩
      · simp only [checkPattern, hp]
      · apply judges_one (r := matching source)
        rw [matching, ofText_broken_iff]
        simp [hp]

theorem checkText_judges {zone : Int} {rules : Option TextRules}
    (h : (FieldKind.text rules).Checkable zone) (v : Json) :
    ∃ o, checkText rules v = .ok o ∧ Judges v (textRules rules) o := by
  cases v with
  | str t =>
      cases rules with
      | none => exact ⟨none, rfl, Judges.kept (isText_kept _ t) judges_nil⟩
      | some r =>
          obtain ⟨p, hp, hpattern⟩ := checkPattern_judges h t
          refine ⟨(checkLength r.minLength r.maxLength t).or p, ?_, ?_⟩
          · cases hlength : checkLength r.minLength r.maxLength t with
            | none => simp only [checkText, hlength, hp, Option.none_or]
            | some w => simp only [checkText, hlength, Option.some_or]
          · exact Judges.kept (isText_kept _ t) ((checkLength_judges _ _ t).append hpattern)
  | null | bool | number | arr | obj =>
      refine ⟨some .notText, rfl, ?_⟩
      cases rules <;> exact Judges.broken fun t => by simp

theorem checkTextarea_judges (rules : Option TextareaRules) (v : Json) :
    Judges v (textareaRules rules) (checkTextarea rules v) := by
  cases v with
  | str t =>
      cases rules with
      | none => exact Judges.kept (isText_kept _ t) judges_nil
      | some r => exact Judges.kept (isText_kept _ t) (checkLength_judges _ _ t)
  | null | bool | number | arr | obj =>
      cases rules <;> exact Judges.broken fun t => by simp

/-! ## Numbers -/

theorem ofNumber_broken_iff {violation : Violation} {Bad : Number → Prop} {v : Json} {x : Number}
    (h : Number.ofJson? v = some x) : (ofNumber violation Bad).Broken v ↔ Bad x := by
  simp [ofNumber, h]

/-- A value that stands for a number is not vacant. -/
theorem not_vacant_of_ofJson? {v : Json} {x : Number} (h : Number.ofJson? v = some x) :
    ¬ Vacant v := by
  rintro (rfl | ⟨t, rfl, hstrip⟩)
  · simp [Number.ofJson?] at h
  · have hnil : Number.ofText? t = none := by
      unfold Number.ofText?
      rw [hstrip]
      decide +kernel
    rw [Number.ofJson?, hnil] at h
    cases h

theorem checkNumber_judges (rules : Option NumberRules) (v : Json) :
    Judges v (numberRules rules) (checkNumber rules v) := by
  cases hx : Number.ofJson? v with
  | none =>
      have hbroken : isNumber.Broken v := by
        simp [isNumber, hx]
      simp only [checkNumber, hx]
      cases rules <;> exact Judges.broken hbroken
  | some x =>
      have hnumber : ¬ isNumber.Broken v :=
        fun h => h ⟨x, hx, Number.isNan_of_ofJson? hx⟩
      simp only [checkNumber, hx]
      cases rules with
      | none => exact Judges.kept hnumber judges_nil
      | some r =>
          apply Judges.kept hnumber
          rw [Option.bind_some, firstOf_pair]
          apply Judges.append
          · apply judges_bound
            intro bound
            rw [Number.lt_iff_below, least, ofNumber_broken_iff hx]
          · apply judges_bound
            intro bound
            rw [Number.lt_iff_below, greatest, ofNumber_broken_iff hx]

/-! ## Selections -/

theorem checkSelect_judges (options : List Text) (v : Json) :
    Judges v (selectRules options) (checkSelect options v) := by
  cases v with
  | str t =>
      apply Judges.kept (isText_kept _ t)
      apply judges_one (r := isOption options)
      rw [isOption, ofText_broken_iff]
      simp
  | null | bool | number | arr | obj => exact Judges.broken fun t => by simp

theorem ofItems_broken_iff {violation : Violation} {Bad : List Json → Prop} (items : List Json) :
    (ofItems violation Bad).Broken (.arr items) ↔ Bad items := by
  simp [ofItems]

theorem textsOf?_cons_str (t : Text) (rest : List Json) :
    textsOf? (.str t :: rest) = (textsOf? rest).map (t :: ·) := by
  cases h : textsOf? rest with
  | none =>
      unfold textsOf? at h ⊢
      simp [List.mapM_cons, h]
  | some others =>
      unfold textsOf? at h ⊢
      simp [List.mapM_cons, h]

theorem textsOf?_eq_some {items : List Json} {texts : List Text}
    (h : textsOf? items = some texts) : items = texts.map Json.str := by
  induction items generalizing texts with
  | nil =>
      have heq : [] = texts := Option.some.inj h
      rw [← heq]
      rfl
  | cons item rest ih =>
      cases item with
      | str t =>
          rw [textsOf?_cons_str, Option.map_eq_some_iff] at h
          obtain ⟨others, hothers, rfl⟩ := h
          rw [ih hothers]
          rfl
      | null | bool | number | arr | obj => simp [textsOf?, List.mapM_cons] at h

theorem textsOf?_eq_none {items : List Json} (h : textsOf? items = none) :
    ∃ item ∈ items, ∀ t, item ≠ .str t := by
  induction items with
  | nil => simp [textsOf?] at h
  | cons item rest ih =>
      cases item with
      | str t =>
          rw [textsOf?_cons_str, Option.map_eq_none_iff] at h
          obtain ⟨item, hmem, hitem⟩ := ih h
          exact ⟨item, List.mem_cons_of_mem _ hmem, hitem⟩
      | null | bool | number | arr | obj =>
          exact ⟨_, List.mem_cons_self, fun t => by simp⟩

theorem onlyTexts_kept (texts : List Text) : ¬ onlyTexts.Broken (.arr (texts.map Json.str)) := by
  rw [onlyTexts, ofItems_broken_iff]
  rintro ⟨item, hmem, hitem⟩
  obtain ⟨t, -, rfl⟩ := List.mem_map.1 hmem
  exact hitem t rfl

theorem onlyOptions_broken_iff (options texts : List Text) :
    (onlyOptions options).Broken (.arr (texts.map Json.str)) ↔
      texts.all options.contains = false := by
  rw [onlyOptions, ofItems_broken_iff]
  simp

theorem selectionRules_judges (rules : Option SelectionRules) {items : List Json}
    (hne : items ≠ []) :
    Judges (.arr items) (selectionRules rules)
      (rules.bind fun r =>
        firstOf
          [r.minSelected.bind fun n => breaks (.tooFew n) (items.length < n),
            r.maxSelected.bind fun n => breaks (.tooMany n) (n < items.length)]) := by
  cases rules with
  | none => exact judges_nil
  | some r =>
      rw [Option.bind_some, firstOf_pair]
      apply Judges.append
      · apply judges_bound
        intro n
        rw [decide_eq_true_eq, minSelected, ofItems_broken_iff]
        exact ⟨fun hlt => ⟨hne, hlt⟩, fun h => h.2⟩
      · apply judges_bound
        intro n
        rw [decide_eq_true_eq, maxSelected, ofItems_broken_iff]

theorem checkSelected_judges (options : List Text) (rules : Option SelectionRules)
    {items : List Json} (hne : items ≠ []) :
    Judges (.arr items) (onlyTexts :: onlyOptions options :: selectionRules rules)
      (checkSelected options rules items) := by
  cases htexts : textsOf? items with
  | none =>
      simp only [checkSelected, htexts]
      apply Judges.broken (r := onlyTexts)
      rw [onlyTexts, ofItems_broken_iff]
      exact textsOf?_eq_none htexts
  | some texts =>
      have heq := textsOf?_eq_some htexts
      have hlength : texts.length = items.length := by
        rw [heq, List.length_map]
      simp only [checkSelected, htexts, hlength]
      apply Judges.kept (heq ▸ onlyTexts_kept texts)
      cases hall : texts.all options.contains with
      | false =>
          apply Judges.broken (r := onlyOptions options)
          rw [heq, onlyOptions_broken_iff, hall]
      | true =>
          apply Judges.kept
          · rw [heq, onlyOptions_broken_iff, hall]
            decide
          · exact selectionRules_judges rules hne

/-- Of an empty list no rule counts but that there has to be a selection. -/
theorem empty_selection_judges (options : List Text) (rules : Option SelectionRules) :
    Judges (.arr []) (onlyTexts :: onlyOptions options :: selectionRules rules) none := by
  apply Judges.kept (onlyTexts_kept [])
  apply Judges.kept
  · intro h
    have hall := (onlyOptions_broken_iff options []).1 h
    cases hall
  · cases rules with
    | none => exact judges_nil
    | some r =>
        intro q hq
        rcases List.mem_append.1 hq with hq | hq
        · obtain ⟨n, -, rfl⟩ := List.mem_map.1 hq
          rw [minSelected, ofItems_broken_iff]
          exact fun h => h.1 rfl
        · obtain ⟨n, -, rfl⟩ := List.mem_map.1 hq
          rw [maxSelected, ofItems_broken_iff]
          exact Nat.not_lt_zero n

theorem checkMultiSelect_judges (required : Bool) (options : List Text)
    (rules : Option SelectionRules) (v : Json) :
    Judges v (multiSelectRules required options rules)
      (checkMultiSelect required options rules v) := by
  have hlist : ∀ items, ¬ isList.Broken (.arr items) := fun items h => h items rfl
  match v with
  | .arr [] =>
      apply Judges.kept (hlist [])
      cases required with
      | false =>
          apply Judges.kept
          · simp [selected, ofItems]
          · exact empty_selection_judges options rules
      | true =>
          apply Judges.broken (r := selected true)
          simp [selected, ofItems]
  | .arr (item :: rest) =>
      apply Judges.kept (hlist _)
      apply Judges.kept
      · simp [selected, ofItems]
      · exact checkSelected_judges options rules (List.cons_ne_nil item rest)
  | .null | .bool _ | .number _ | .str _ | .obj _ =>
      exact Judges.broken (r := isList) fun items => by simp

/-! ## Days and switches -/

/-- A text that names a day is not blank. -/
theorem not_vacant_of_readDay? {zone : Int} {t : Text} {day : Date}
    (h : Calendar.readDay? zone t = some day) : ¬ Vacant (.str t) := by
  rw [not_vacant_str]
  intro hstrip
  rw [Calendar.readDay?, hstrip] at h
  cases h

theorem checkDay_judges {zone : Int} {rules : Option DateRules}
    (h : (FieldKind.date rules).Checkable zone) (today : Date) {t : Text} {day : Date}
    (hday : Calendar.readDay? zone t = some day) :
    ∃ o, checkDay zone today rules day = .ok o ∧
      Judges (.str t) ((earliest? zone today rules).toList.map (notBefore zone)) o := by
  cases hbound : rules.bind DateRules.minDate with
  | none =>
      refine ⟨none, ?_, ?_⟩
      · simp only [checkDay, hbound]
      · simp only [earliest?, hbound]
        exact judges_nil
  | some bound =>
      obtain ⟨r, rfl, hr⟩ := Option.bind_eq_some_iff.1 hbound
      obtain ⟨earliest, hearliest⟩ := h bound hr today
      refine ⟨breaks (.tooEarly earliest) (day.lt earliest), ?_, ?_⟩
      · simp only [checkDay, hbound, hearliest]
      · simp only [earliest?, hbound, Option.bind_some, hearliest]
        apply judges_one (r := notBefore zone earliest)
        rw [notBefore, ofText_broken_iff, Date.lt_iff_before]
        simp [hday]

theorem checkDate_judges {zone : Int} {rules : Option DateRules}
    (h : (FieldKind.date rules).Checkable zone) (today : Date) (v : Json) :
    ∃ o, checkDate zone today rules v = .ok o ∧ Judges v (dateRules zone today rules) o := by
  cases v with
  | str t =>
      cases hday : Calendar.readDay? zone t with
      | none =>
          refine ⟨some .notADate, ?_, Judges.kept (isText_kept _ t) ?_⟩
          · simp only [checkDate, hday]
          · apply Judges.broken (r := isDay zone)
            rw [isDay, ofText_broken_iff]
            exact hday
      | some day =>
          obtain ⟨o, ho, hjudges⟩ := checkDay_judges h today hday
          refine ⟨o, ?_, Judges.kept (isText_kept _ t) (Judges.kept ?_ hjudges)⟩
          · simp only [checkDate, hday, ho]
          · rw [isDay, ofText_broken_iff, hday]
            simp
  | null | bool | number | arr | obj =>
      exact ⟨some .notADateText, rfl, Judges.broken fun t => by simp⟩

theorem checkSwitch_judges (v : Json) : Judges v [isBool] (checkSwitch v) := by
  cases v with
  | bool b => exact Judges.kept (fun h => h b rfl) judges_nil
  | null | number | str | arr | obj => exact Judges.broken fun b => by simp

theorem checkAccepted_judges (v : Json) : Judges v [accepted] (checkAccepted v) := by
  match v with
  | .bool true => exact Judges.kept (fun h => h rfl) judges_nil
  | .bool false | .null | .number _ | .str _ | .arr _ | .obj _ =>
      exact Judges.broken (r := accepted) fun h => by simp at h

/-! ## Fields -/

theorem checkKind_judges {zone : Int} {f : Field} (h : f.kind.Checkable zone) (today : Date)
    (v : Json) :
    ∃ o, checkKind zone today f v = .ok o ∧
      Judges v (kindRules zone today f.required f.kind) o := by
  unfold checkKind
  cases hkind : f.kind with
  | text rules => exact checkText_judges (hkind ▸ h) v
  | number rules => exact ⟨_, rfl, checkNumber_judges rules v⟩
  | select options => exact ⟨_, rfl, checkSelect_judges options v⟩
  | multiSelect options rules => exact ⟨_, rfl, checkMultiSelect_judges _ options rules v⟩
  | date rules => exact checkDate_judges (hkind ▸ h) today v
  | textarea rules => exact ⟨_, rfl, checkTextarea_judges rules v⟩
  | switch => exact ⟨_, rfl, checkSwitch_judges v⟩

/-- What is found to be wrong with a value is the first broken rule of the field. -/
theorem violation_judges {zone : Int} {f : Field} (h : f.kind.Checkable zone) (today : Date)
    (v : Json) :
    ∃ o, violation zone today f v = .ok o ∧ Judges v (fieldRules zone today f) o := by
  unfold violation fieldRules
  by_cases hswitch : f.required = true ∧ f.kind = .switch
  · rw [if_pos hswitch, if_pos (by simpa using hswitch)]
    exact ⟨_, rfl, checkAccepted_judges v⟩
  · rw [if_neg hswitch, if_neg (by simpa using hswitch)]
    by_cases hvacant : Vacant v
    · rw [if_pos ((isEmpty_iff_vacant v).2 hvacant)]
      refine ⟨_, rfl, ?_⟩
      cases hrequired : f.required with
      | false =>
          apply Judges.kept
          · simp [present]
          · exact judges_vacant hvacant
      | true => exact Judges.broken (r := present true) ⟨hvacant, rfl⟩
    · rw [if_neg fun hempty => hvacant ((isEmpty_iff_vacant v).1 hempty)]
      obtain ⟨o, ho, hjudges⟩ := checkKind_judges h today v
      refine ⟨o, ho, Judges.kept (fun hbroken => hvacant hbroken.1) ?_⟩
      exact hjudges.unlessVacant hvacant

end FormIntake.Validation
