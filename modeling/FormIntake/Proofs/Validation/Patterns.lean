import FormIntake.Proofs.Pattern.Reading
import FormIntake.Proofs.Pattern.Run
import FormIntake.Proofs.Validation.Checks
/-!
# Pattern rules

A text field with a regular pattern takes the texts of the language that the
pattern denotes. In which order alternatives stand and how much a repetition
takes first does not show, and neither does a part of the text that matches.
-/

namespace FormIntake

def Field.withPattern (f : Field) (rules : TextRules) (source : Text) : Field :=
  { f with kind := .text (some { rules with pattern := some source }) }

namespace Validation

open Pattern

variable {source : Text} {L : Language CodePoint} {rules : TextRules} {t : Text}

theorem checkLength_eq_none (hmin : ∀ n ∈ rules.minLength, n ≤ t.utf16Length)
    (hmax : ∀ n ∈ rules.maxLength, t.utf16Length ≤ n) :
    checkLength rules.minLength rules.maxLength t = none := by
  have hshort : (rules.minLength.bind fun n => breaks (.tooShort n) (t.utf16Length < n)) =
      none := by
    rw [Option.bind_eq_none_iff]
    intro n hn
    simp [breaks, hmin n hn]
  have hlong : (rules.maxLength.bind fun n => breaks (.tooLong n) (n < t.utf16Length)) = none := by
    rw [Option.bind_eq_none_iff]
    intro n hn
    simp [breaks, hmax n hn]
  rw [checkLength, firstOf_pair, hshort, hlong]
  rfl

/-- What is said of a text that keeps all rules but the pattern. -/
theorem validateField_withPattern {p : Pattern} (hread : Pattern.read source = .ok p)
    (hblank : t.strip ≠ []) (hmin : ∀ n ∈ rules.minLength, n ≤ t.utf16Length)
    (hmax : ∀ n ∈ rules.maxLength, t.utf16Length ≤ n) (f : Field) (zone : Int) (today : Date) :
    validateField zone today (f.withPattern rules source) (.str t) =
      .ok (if p.accepts t then none else some (Violation.noMatch.message f.label)) := by
  have hempty : isEmpty (.str t) = false := by
    rwa [isEmpty, Bool.eq_false_iff, ne_eq, ← Text.strip_eq_nil_iff]
  have hviolation : violation zone today (f.withPattern rules source) (.str t) =
      .ok (breaks .noMatch !(p.accepts t)) := by
    have hkind : ((f.withPattern rules source).required &&
        (f.withPattern rules source).kind = .switch) = false := by
      simp [Field.withPattern]
    rw [violation, hkind, hempty]
    simp only [Bool.false_eq_true, if_false, checkKind, Field.withPattern, checkText,
      checkLength_eq_none hmin hmax, checkPattern, hread]
  rw [validateField, hviolation]
  cases p.accepts t <;> rfl

/-- A pattern that accepts the texts of a language is a rule about membership. -/
theorem verdict_of_accepts {p : Pattern} (hread : Pattern.read source = .ok p)
    (haccepts : p.accepts t = true ↔ t ∈ L) (hblank : t.strip ≠ [])
    (hmin : ∀ n ∈ rules.minLength, n ≤ t.utf16Length)
    (hmax : ∀ n ∈ rules.maxLength, t.utf16Length ≤ n) (f : Field) (zone : Int) (today : Date) :
    (validateField zone today (f.withPattern rules source) (.str t) = .ok none ↔ t ∈ L) ∧
      (t ∉ L → validateField zone today (f.withPattern rules source) (.str t) =
        .ok (some (Violation.noMatch.message f.label))) := by
  rw [validateField_withPattern hread hblank hmin hmax, ← haccepts]
  cases p.accepts t <;> simp

/-- A regular pattern is a rule about the whole text: the texts that pass are those of its
language, with the pattern written as it is or between the edges of the text. -/
theorem pattern_rule_is_membership (hsource : Regular source L) (hblank : t.strip ≠ [])
    (hmin : ∀ n ∈ rules.minLength, n ≤ t.utf16Length)
    (hmax : ∀ n ∈ rules.maxLength, t.utf16Length ≤ n) (f : Field) (zone : Int) (today : Date) :
    ∀ pattern ∈ [source, anchored source],
      (validateField zone today (f.withPattern rules pattern) (.str t) = .ok none ↔ t ∈ L) ∧
      (t ∉ L → validateField zone today (f.withPattern rules pattern) (.str t) =
        .ok (some (Violation.noMatch.message f.label))) := by
  intro pattern hpattern
  rcases List.mem_pair.1 hpattern with rfl | rfl
  · obtain ⟨p, hread, hp⟩ := read_regular hsource
    exact verdict_of_accepts hread (hp.accepts_iff t) hblank hmin hmax f zone today
  · obtain ⟨p, hread, hp⟩ := read_anchored hsource
    have haccepts := accepts_between_edges p t
    rw [Bool.eq_iff_iff, hp.accepts_iff] at haccepts
    exact verdict_of_accepts hread haccepts hblank hmin hmax f zone today

def codeField : Field :=
  ⟨"code", "Code", false, .text none⟩

def codeRules : TextRules :=
  ⟨some 2, some 8, none⟩

open CodePoint (ofChar) in
open Notation in
theorem code_pattern_regular : Regular (Text.ofString "(a|ab)c+")
    (({[ofChar 'a']} + {[ofChar 'a']} * {[ofChar 'b']}) * repeated {[ofChar 'c']} 1 none) := by
  have htext : Text.ofString "(a|ab)c+" = [ofChar '(', ofChar 'a', ofChar '|', ofChar 'a',
      ofChar 'b', ofChar ')', ofChar 'c', ofChar '+'] := rfl
  have hshort : Denotes .row [ofChar 'a', ofChar '|', ofChar 'a', ofChar 'b', ofChar ')',
      ofChar 'c', ofChar '+'] ({[ofChar 'a']} * 1) [] _ :=
    .cons (.once (.char (by decide))) (.nil (next_cons (Or.inl rfl) _))
  have hlong : Denotes .row [ofChar 'a', ofChar 'b', ofChar ')', ofChar 'c', ofChar '+']
      ({[ofChar 'a']} * ({[ofChar 'b']} * 1)) [] _ :=
    .cons (.once (.char (by decide)))
      (.cons (.once (.char (by decide))) (.nil (next_cons (Or.inr rfl) _)))
  have hcs : Denotes .row [ofChar 'c', ofChar '+'] (repeated {[ofChar 'c']} 1 none * 1) [] [] :=
    .cons (.repeated (.char (by decide)) .plus) (.nil (next_nil _))
  have hall := Denotes.last
    (.cons (.once (.group (.alt hshort (.last hlong (next_cons (by decide) _))))) hcs) (next_nil _)
  rw [htext]
  simp only [mul_one] at hall
  exact ⟨_, hall, List.nodup_nil⟩

/-- Here only the second alternative leads to the end of the text. -/
theorem second_alternative_passes :
    validateField 0 ⟨2025, 3, 1, by decide⟩
        (codeField.withPattern codeRules (Text.ofString "(a|ab)c+")) (.str "abcc") = .ok none ∧
      validateField 0 ⟨2025, 3, 1, by decide⟩
        (codeField.withPattern codeRules (Text.ofString "^(?:(a|ab)c+)$")) (.str "abcc") =
          .ok none := by
  have hverdicts := pattern_rule_is_membership code_pattern_regular
    (show Text.strip "abcc" ≠ [] by decide) (show ∀ n ∈ codeRules.minLength, _ by decide)
    (show ∀ n ∈ codeRules.maxLength, _ by decide) codeField 0 ⟨2025, 3, 1, by decide⟩
  have hmember : Text.ofString "abcc" ∈
      ({[CodePoint.ofChar 'a']} + {[CodePoint.ofChar 'a']} * {[CodePoint.ofChar 'b']} :
        Language CodePoint) * repeated {[CodePoint.ofChar 'c']} 1 none := by
    have hone : ∀ u : Text, u ∈ ({u} : Language CodePoint) := fun u => rfl
    have hab : Text.ofString "ab" ∈
        ({[CodePoint.ofChar 'a']} * {[CodePoint.ofChar 'b']} : Language CodePoint) :=
      Language.append_mem_mul (hone _) (hone _)
    have hcc : Text.ofString "cc" ∈ ({[CodePoint.ofChar 'c']} : Language CodePoint) ^ 2 := by
      rw [pow_two]
      exact Language.append_mem_mul (hone _) (hone _)
    rw [Language.mem_mul]
    exact ⟨Text.ofString "ab", Or.inr hab, Text.ofString "cc", ⟨2, by decide, by simp, hcc⟩, rfl⟩
  exact ⟨((hverdicts _ List.mem_cons_self).1).2 hmember,
    ((hverdicts _ (List.mem_cons_of_mem _ List.mem_cons_self)).1).2 hmember⟩

example : validateField 0 ⟨2025, 3, 1, by decide⟩
    (codeField.withPattern codeRules (Text.ofString "^(?:(a|ab)c+)$")) (.str "abcc\n") =
      .ok (some "Code is invalid.") := by
  cbv

end Validation

end FormIntake
