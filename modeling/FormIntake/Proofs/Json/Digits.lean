import FormIntake.Json.Basic
/-!
# The digits of whole numbers in a value

No part of a value has more digits than the value.
-/

namespace FormIntake.Json

theorem integerDigits_le_items {item : Json} {items : List Json} (h : item ∈ items) :
    item.integerDigits ≤ integerDigitsItems items := by
  induction items with
  | nil => cases h
  | cons first rest ih =>
      rw [integerDigitsItems]
      rcases List.mem_cons.1 h with rfl | hmem
      · exact Nat.le_max_left _ _
      · calc
          item.integerDigits ≤ integerDigitsItems rest := ih hmem
          _ ≤ max first.integerDigits (integerDigitsItems rest) := Nat.le_max_right _ _

theorem integerDigits_le_members {value : Json} {members : List (Text × Json)}
    (h : value ∈ members.map Prod.snd) : value.integerDigits ≤ integerDigitsMembers members := by
  induction members with
  | nil => cases h
  | cons member rest ih =>
      obtain ⟨key, first⟩ := member
      rw [integerDigitsMembers]
      rcases List.mem_cons.1 h with rfl | hmem
      · exact Nat.le_max_left _ _
      · calc
          value.integerDigits ≤ integerDigitsMembers rest := ih hmem
          _ ≤ max first.integerDigits (integerDigitsMembers rest) := Nat.le_max_right _ _

end FormIntake.Json
