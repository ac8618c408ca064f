import FormIntake.Json.Basic
/-!
# Nesting

How deep lists and objects are nested in a value, and how deep they may be for
those who walk the value by recursion.
-/

namespace FormIntake.Json

mutual

/-- The greatest number of lists and objects that stand one inside the other. -/
def nesting : Json → Nat
  | arr items => nestingItems items + 1
  | obj members => nestingMembers members + 1
  | _ => 0

def nestingItems : List Json → Nat
  | [] => 0
  | item :: rest => max (nesting item) (nestingItems rest)

def nestingMembers : List (Text × Json) → Nat
  | [] => 0
  | (_, value) :: rest => max (nesting value) (nestingMembers rest)

end

/-! ## How deep a value may be nested

The numbers are the room that the call stack of the service leaves. Results for
all values use no more of them than that what can be copied fits into a column. -/

/-- To be copied. -/
def copyDepth : Nat := 496

/-- To be written into a column of a table. -/
def columnDepth : Nat := 950

/-- To be written into an answer. -/
def answerDepth : Nat := 254

end FormIntake.Json
