import FormIntake.Form.Onboarding
import FormIntake.Proofs.Pattern.Run
import FormIntake.Proofs.Validation.Records
/-!
# Onboarding records

Which records the onboarding form takes, in plain terms: one condition for each
field. They come out of the rules of the fields one by one.
-/

namespace FormIntake

open Validation

namespace Onboarding

/-- The member of a record; a missing one is the same as null. -/
def member (record : Json) (name : String) : Json :=
  (record.get? name).getD .null

def departments : List Text :=
  [Text.ofString "HR", Text.ofString "Engineering", Text.ofString "Marketing"]

def skillNames : List Text :=
  [Text.ofString "React", Text.ofString "Node", Text.ofString "Python", Text.ofString "Java"]

/-- The records that the form takes on a local day. -/
structure Accepts (zone : Int) (today : Date) (record : Json) : Prop where
  fullName : ∃ t, member record "fullName" = .str t ∧ t.strip ≠ [] ∧ 2 ≤ t.utf16Length ∧
    ∀ c ∈ t, c.isAsciiLetter = true ∨ c.isBlank = true
  age : ∃ x a, Number.ofJson? (member record "age") = some x ∧ x.value? = some a ∧
    ((18 : ℚ) : WithTop ℚ) ≤ a ∧ a ≤ ((65 : ℚ) : WithTop ℚ)
  department : ∃ t ∈ departments, member record "department" = .str t
  skills : Vacant (member record "skills") ∨
    ∃ chosen : List Text, member record "skills" = .arr (chosen.map .str) ∧ chosen.length ≤ 3 ∧
      ∀ t ∈ chosen, t ∈ skillNames
  dateOfJoining : ∃ t day, member record "dateOfJoining" = .str t ∧
    Calendar.readDay? zone t = some day ∧ ¬ day.Before today
  bio : Vacant (member record "bio") ∨
    ∃ t, member record "bio" = .str t ∧ t.utf16Length ≤ 200
  termsAccepted : member record "termsAccepted" = .bool true

/-! ## The pattern of names -/

/-- The class of letters and blanks as it stands in the pattern. -/
def letters : Pattern.CharTest where
  items :=
    [.range (CodePoint.ofNat 0x61) (CodePoint.ofNat 0x7A),
      .range (CodePoint.ofNat 0x41) (CodePoint.ofNat 0x5A), .kind .space false false]
  negated := false
  mode := .exact

theorem read_pattern :
    Pattern.read (Text.ofString "^[a-zA-Z\\s]*$") = .ok (Pattern.allOf letters) := by
  decide +kernel

theorem letters_holds_iff (c : CodePoint) :
    letters.holds c = true ↔ c.isAsciiLetter = true ∨ c.isBlank = true := by
  simp only [Pattern.CharTest.holds, letters, Pattern.CaseMode.variants, Pattern.SetItem.holds,
    Pattern.ClassKind.holds, CodePoint.isAsciiLetter]
  simp
  tauto

/-! ## The fields -/

variable {zone : Int} {today : Date} {record : Json}

theorem keeps_required_iff {f : Field} (hrequired : f.required = true) (hkind : f.kind ≠ .switch) :
    Keeps zone today record f ↔ ¬ Vacant (valueFor record f) ∧
      ∀ r ∈ kindRules zone today true f.kind, ¬ r.Broken (valueFor record f) := by
  rw [Keeps, fieldRules, if_neg fun h => hkind h.2, hrequired, List.forall_mem_cons,
    List.forall_mem_map]
  simp only [Rule.present, Rule.unlessVacant, and_true]
  constructor
  · rintro ⟨hvacant, hkept⟩
    exact ⟨hvacant, fun r hr hbroken => hkept r hr ⟨hvacant, hbroken⟩⟩
  · rintro ⟨hvacant, hkept⟩
    exact ⟨hvacant, fun r hr hbroken => hkept r hr hbroken.2⟩

theorem keeps_optional_iff {f : Field} (hrequired : f.required = false) :
    Keeps zone today record f ↔ Vacant (valueFor record f) ∨
      ∀ r ∈ kindRules zone today false f.kind, ¬ r.Broken (valueFor record f) := by
  have hswitch : ¬ (f.required = true ∧ f.kind = .switch) := by
    rw [hrequired]
    simp
  rw [Keeps, fieldRules, if_neg hswitch, hrequired, List.forall_mem_cons, List.forall_mem_map]
  simp only [Rule.present, Rule.unlessVacant, and_false, not_false_eq_true, true_and,
    Bool.false_eq_true]
  constructor
  · intro hkept
    by_cases hvacant : Vacant (valueFor record f)
    · exact Or.inl hvacant
    · exact Or.inr fun r hr hbroken => hkept r hr ⟨hvacant, hbroken⟩
  · intro h r hr hbroken
    rcases h with hvacant | hkept
    · exact hbroken.1 hvacant
    · exact hkept r hr hbroken.2

theorem isText_kept_iff {w : Violation} {v : Json} :
    ¬ (Rule.isText w).Broken v ↔ ∃ t, v = .str t := by
  simp [Rule.isText]

theorem matching_kept_iff {source t : Text} {p : Pattern} (h : Pattern.read source = .ok p) :
    ¬ (Rule.matching source).Broken (.str t) ↔ p.accepts t = true := by
  rw [Rule.matching, ofText_broken_iff]
  simp [h]

theorem keeps_fullName_iff : Keeps zone today record fullName ↔
    ∃ t, member record "fullName" = .str t ∧ t.strip ≠ [] ∧ 2 ≤ t.utf16Length ∧
      ∀ c ∈ t, c.isAsciiLetter = true ∨ c.isBlank = true := by
  have hvalue : valueFor record fullName = member record "fullName" := rfl
  have hrules : kindRules zone today true fullName.kind =
      [.isText .notText, .minLength 2, .matching (Text.ofString "^[a-zA-Z\\s]*$")] := rfl
  rw [keeps_required_iff rfl (by simp [fullName]), hvalue, hrules]
  simp only [List.forall_mem_cons, List.not_mem_nil, false_implies, implies_true, and_true,
    isText_kept_iff]
  have htext : ∀ t : Text,
      ¬ (Rule.minLength 2).Broken (.str t) ∧
        ¬ (Rule.matching (Text.ofString "^[a-zA-Z\\s]*$")).Broken (.str t) ↔
      2 ≤ t.utf16Length ∧ ∀ c ∈ t, c.isAsciiLetter = true ∨ c.isBlank = true := by
    intro t
    rw [Rule.minLength, ofText_broken_iff, Nat.not_lt, matching_kept_iff read_pattern,
      Pattern.allOf_accepts, List.all_eq_true]
    simp only [letters_holds_iff]
  constructor
  · rintro ⟨hvacant, ⟨t, ht⟩, hrest⟩
    rw [ht] at hvacant hrest
    exact ⟨t, ht, not_vacant_str.1 hvacant, (htext t).1 hrest⟩
  · rintro ⟨t, ht, hstrip, hrest⟩
    rw [ht]
    exact ⟨not_vacant_str.2 hstrip, ⟨t, rfl⟩, (htext t).2 hrest⟩

theorem keeps_age_iff : Keeps zone today record age ↔
    ∃ x a, Number.ofJson? (member record "age") = some x ∧ x.value? = some a ∧
      ((18 : ℚ) : WithTop ℚ) ≤ a ∧ a ≤ ((65 : ℚ) : WithTop ℚ) := by
  have hvalue : valueFor record age = member record "age" := rfl
  have hrules : kindRules zone today true age.kind =
      [.isNumber, .least (.int 18), .greatest (.int 65)] := rfl
  rw [keeps_required_iff rfl (by simp [age]), hvalue, hrules]
  simp only [List.forall_mem_cons, List.not_mem_nil, false_implies, implies_true, and_true]
  have hbounds : ∀ (x : Number) (a : Number.Line),
      Number.ofJson? (member record "age") = some x → x.value? = some a →
      (¬ (Rule.least (.int 18)).Broken (member record "age") ∧
        ¬ (Rule.greatest (.int 65)).Broken (member record "age") ↔
      ((18 : ℚ) : WithTop ℚ) ≤ a ∧ a ≤ ((65 : ℚ) : WithTop ℚ)) := by
    intro x a hx ha
    have hleast : (Number.int 18).value? = some ((18 : ℚ) : WithTop ℚ) := by
      simp [Number.value?]
    have hgreatest : (Number.int 65).value? = some ((65 : ℚ) : WithTop ℚ) := by
      simp [Number.value?]
    rw [Rule.least, Rule.greatest, ofNumber_broken_iff hx, ofNumber_broken_iff hx,
      Number.below_iff ha hleast, Number.below_iff hgreatest ha, not_lt, not_lt]
  constructor
  · rintro ⟨-, hnumber, hrest⟩
    obtain ⟨x, hx, hnan⟩ := not_not.1 hnumber
    cases ha : x.value? with
    | none =>
        rw [Number.value?_eq_none_iff, hnan] at ha
        cases ha
    | some a => exact ⟨x, a, hx, ha, (hbounds x a hx ha).1 hrest⟩
  · rintro ⟨x, a, hx, ha, hrest⟩
    refine ⟨not_vacant_of_ofJson? hx, ?_, (hbounds x a hx ha).2 hrest⟩
    exact fun hbroken => hbroken ⟨x, hx, Number.isNan_of_ofJson? hx⟩

theorem keeps_department_iff : Keeps zone today record department ↔
    ∃ t ∈ departments, member record "department" = .str t := by
  have hvalue : valueFor record department = member record "department" := rfl
  have hrules : kindRules zone today true department.kind =
      [.isText .notText, .isOption departments] := rfl
  have hstrip : ∀ t ∈ departments, t.strip ≠ [] := by decide +kernel
  rw [keeps_required_iff rfl (by simp [department]), hvalue, hrules]
  simp only [List.forall_mem_cons, List.not_mem_nil, false_implies, implies_true, and_true,
    isText_kept_iff]
  constructor
  · rintro ⟨-, ⟨t, ht⟩, hoption⟩
    rw [ht, Rule.isOption, ofText_broken_iff] at hoption
    exact ⟨t, not_not.1 hoption, ht⟩
  · rintro ⟨t, hmem, ht⟩
    rw [ht, Rule.isOption, ofText_broken_iff]
    exact ⟨not_vacant_str.2 (hstrip t hmem), ⟨t, rfl⟩, not_not.2 hmem⟩

theorem keeps_skills_iff : Keeps zone today record skills ↔
    Vacant (member record "skills") ∨
      ∃ chosen : List Text, member record "skills" = .arr (chosen.map .str) ∧
        chosen.length ≤ 3 ∧ ∀ t ∈ chosen, t ∈ skillNames := by
  have hvalue : valueFor record skills = member record "skills" := rfl
  have hrules : kindRules zone today false skills.kind =
      [.isList, .selected false, .onlyTexts, .onlyOptions skillNames, .minSelected 1,
        .maxSelected 3] := rfl
  rw [keeps_optional_iff rfl, hvalue, hrules]
  simp only [List.forall_mem_cons, List.not_mem_nil, false_implies, implies_true, and_true]
  apply or_congr_right
  constructor
  · rintro ⟨hlist, -, htexts, hoptions, -, hmost⟩
    obtain ⟨items, hitems⟩ : ∃ items, member record "skills" = .arr items := by
      simpa [Rule.isList] using hlist
    rw [hitems] at htexts hoptions hmost ⊢
    cases hread : textsOf? items with
    | none =>
        rw [Rule.onlyTexts, ofItems_broken_iff] at htexts
        exact absurd (textsOf?_eq_none hread) htexts
    | some chosen =>
        rw [textsOf?_eq_some hread] at hoptions hmost ⊢
        rw [Rule.onlyOptions, ofItems_broken_iff] at hoptions
        rw [Rule.maxSelected, ofItems_broken_iff, List.length_map] at hmost
        refine ⟨chosen, rfl, Nat.le_of_not_lt hmost, ?_⟩
        intro t ht
        by_contra hother
        exact hoptions ⟨t, List.mem_map_of_mem ht, hother⟩
  · rintro ⟨chosen, hchosen, hmost, hoptions⟩
    rw [hchosen]
    refine ⟨fun h => h _ rfl, ?_, onlyTexts_kept chosen, ?_, ?_, ?_⟩
    · rw [Rule.selected, ofItems_broken_iff]
      simp
    · rw [onlyOptions_broken_iff]
      simpa using hoptions
    · rw [Rule.minSelected, ofItems_broken_iff]
      rintro ⟨hne, hlt⟩
      exact hne (List.length_eq_zero_iff.1 (Nat.lt_one_iff.1 hlt))
    · rw [Rule.maxSelected, ofItems_broken_iff, List.length_map]
      exact Nat.not_lt.2 hmost

theorem keeps_dateOfJoining_iff : Keeps zone today record dateOfJoining ↔
    ∃ t day, member record "dateOfJoining" = .str t ∧ Calendar.readDay? zone t = some day ∧
      ¬ day.Before today := by
  have hvalue : valueFor record dateOfJoining = member record "dateOfJoining" := rfl
  have hrules : kindRules zone today true dateOfJoining.kind =
      [.isText .notADateText, .isDay zone, .notBefore zone today] := rfl
  rw [keeps_required_iff rfl (by simp [dateOfJoining]), hvalue, hrules]
  simp only [List.forall_mem_cons, List.not_mem_nil, false_implies, implies_true, and_true,
    isText_kept_iff]
  constructor
  · rintro ⟨-, ⟨t, ht⟩, hday, hbefore⟩
    rw [ht, Rule.isDay, ofText_broken_iff] at hday
    rw [ht, Rule.notBefore, ofText_broken_iff] at hbefore
    obtain ⟨day, hread⟩ := Option.ne_none_iff_exists'.1 hday
    exact ⟨t, day, ht, hread, fun h => hbefore ⟨day, hread, h⟩⟩
  · rintro ⟨t, day, ht, hread, hbefore⟩
    rw [ht, Rule.isDay, Rule.notBefore, ofText_broken_iff, ofText_broken_iff]
    refine ⟨not_vacant_of_readDay? hread, ⟨t, rfl⟩, ?_, ?_⟩
    · rw [hread]
      simp
    · rintro ⟨other, hother, h⟩
      rw [hread] at hother
      rw [← Option.some.inj hother] at h
      exact hbefore h

theorem keeps_bio_iff : Keeps zone today record bio ↔
    Vacant (member record "bio") ∨
      ∃ t, member record "bio" = .str t ∧ t.utf16Length ≤ 200 := by
  have hvalue : valueFor record bio = member record "bio" := rfl
  have hrules : kindRules zone today false bio.kind =
      [.isText .notText, .maxLength 200] := rfl
  rw [keeps_optional_iff rfl, hvalue, hrules]
  simp only [List.forall_mem_cons, List.not_mem_nil, false_implies, implies_true, and_true,
    isText_kept_iff]
  apply or_congr_right
  constructor
  · rintro ⟨⟨t, ht⟩, hmost⟩
    rw [ht, Rule.maxLength, ofText_broken_iff] at hmost
    exact ⟨t, ht, Nat.le_of_not_lt hmost⟩
  · rintro ⟨t, ht, hmost⟩
    rw [ht, Rule.maxLength, ofText_broken_iff]
    exact ⟨⟨t, rfl⟩, Nat.not_lt.2 hmost⟩

theorem keeps_termsAccepted_iff : Keeps zone today record termsAccepted ↔
    member record "termsAccepted" = .bool true := by
  have hrules : fieldRules zone today termsAccepted = [.accepted] := rfl
  rw [Keeps, hrules, List.forall_mem_singleton]
  exact not_not

/-! ## The form -/

theorem keeps_form_iff : (∀ f ∈ onboardingForm.fields, Keeps zone today record f) ↔
    Accepts zone today record := by
  have hfields : onboardingForm.fields =
      [fullName, age, department, skills, dateOfJoining, bio, termsAccepted] := rfl
  rw [hfields]
  simp only [List.forall_mem_cons, List.not_mem_nil, false_implies, implies_true, and_true,
    keeps_fullName_iff, keeps_age_iff, keeps_department_iff, keeps_skills_iff,
    keeps_dateOfJoining_iff, keeps_bio_iff, keeps_termsAccepted_iff]
  constructor
  · rintro ⟨h1, h2, h3, h4, h5, h6, h7⟩
    exact ⟨h1, h2, h3, h4, h5, h6, h7⟩
  · rintro ⟨h1, h2, h3, h4, h5, h6, h7⟩
    exact ⟨h1, h2, h3, h4, h5, h6, h7⟩

theorem fields_checkable : ∀ f ∈ onboardingForm.fields, f.kind.Checkable zone := by
  have hfullName : fullName.kind.Checkable zone := by
    intro source hsource
    rw [← Option.mem_some.1 hsource]
    exact ⟨_, read_pattern⟩
  have hdate : dateOfJoining.kind.Checkable zone := by
    intro bound hbound current
    rw [← Option.mem_some.1 hbound]
    exact ⟨current, rfl⟩
  have hfields : onboardingForm.fields =
      [fullName, age, department, skills, dateOfJoining, bio, termsAccepted] := rfl
  rw [hfields]
  simp only [List.forall_mem_cons, List.not_mem_nil, false_implies, implies_true, and_true]
  exact ⟨hfullName, trivial, trivial, trivial, hdate, trivial, trivial⟩

theorem fields_nameable : ∀ f ∈ onboardingForm.fields, f.kind.Nameable := by
  have hfit : ∀ n ≤ 200, FieldKind.Fit (some n) := by
    intro n hn m hm
    rw [← Option.mem_some.1 hm]
    exact Numeral.fits_of_lt (Nat.lt_of_le_of_lt hn (by decide : 200 < 10 ^ 3)) (by decide)
  have hopen : FieldKind.Fit none := by
    intro n hn
    cases hn
  have hwritable : ∀ n : Nat, n ≤ 200 → FieldKind.Writable (some (.int n)) := by
    intro n hn x hx
    rw [← Option.mem_some.1 hx]
    exact Numeral.fits_of_lt (Nat.lt_of_le_of_lt hn (by decide : 200 < 10 ^ 3)) (by decide)
  have hfields : onboardingForm.fields =
      [fullName, age, department, skills, dateOfJoining, bio, termsAccepted] := rfl
  rw [hfields]
  simp only [List.forall_mem_cons, List.not_mem_nil, false_implies, implies_true, and_true]
  exact ⟨⟨hfit 2 (by decide), hopen⟩, ⟨hwritable 18 (by decide), hwritable 65 (by decide)⟩,
    trivial, ⟨hfit 1 (by decide), hfit 3 (by decide)⟩, trivial, ⟨hopen, hfit 200 (by decide)⟩,
    trivial⟩

/-- Checking a record against the form always comes to an end, and finds nothing exactly in the
records that the form takes. -/
theorem validate_onboardingForm (zone : Int) (today : Date) (record : Json) :
    ∃ errors, validate zone today onboardingForm record = .ok errors ∧
      (errors = [] ↔ Accepts zone today record) := by
  obtain ⟨errors, herrors, hiff⟩ := validate_spec fields_checkable fields_nameable today record
  rw [keeps_form_iff] at hiff
  exact ⟨errors, herrors, hiff⟩

end Onboarding

end FormIntake
