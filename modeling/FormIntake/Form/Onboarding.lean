import FormIntake.Form.Schema
/-!
# The onboarding form

The form that the service serves.
-/

namespace FormIntake

namespace Onboarding

def fullName : Field :=
  ⟨"fullName", "Full Name", true,
    .text (some ⟨some 2, none, some (Text.ofString "^[a-zA-Z\\s]*$")⟩)⟩

def age : Field :=
  ⟨"age", "Age", true, .number (some ⟨some (.int 18), some (.int 65)⟩)⟩

def department : Field :=
  ⟨"department", "Department", true,
    .select [Text.ofString "HR", Text.ofString "Engineering", Text.ofString "Marketing"]⟩

def skills : Field :=
  ⟨"skills", "Skills", false,
    .multiSelect
      [Text.ofString "React", Text.ofString "Node", Text.ofString "Python", Text.ofString "Java"]
      (some ⟨some 1, some 3⟩)⟩

def dateOfJoining : Field :=
  ⟨"dateOfJoining", "Date of Joining", true, .date (some ⟨some .today⟩)⟩

def bio : Field :=
  ⟨"bio", "Bio", false, .textarea (some ⟨none, some 200⟩)⟩

def termsAccepted : Field :=
  ⟨"termsAccepted", "Terms Accepted", true, .switch⟩

end Onboarding

open Onboarding in
def onboardingForm : Schema where
  title := "Employee Onboarding"
  fields := [fullName, age, department, skills, dateOfJoining, bio, termsAccepted]

end FormIntake
