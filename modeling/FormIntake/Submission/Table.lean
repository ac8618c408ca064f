import FormIntake.Json.Nesting
import FormIntake.Json.Texts
import FormIntake.Submission.Listing
/-!
# The table of submissions

A database table with the id as its primary key. The data of a row is kept as
JSON text, with whole numbers of at most `Numeral.digitLimit` digits, and a
selection is bounded by words of 64 bits.
-/

namespace FormIntake

inductive TableFault where
  | duplicateKey
  /-- Some whole number in the data is beyond the digit limit. -/
  | unwritableData
  /-- The offset or the limit of a selection is no 64-bit word. -/
  | boundTooLarge
  | noTable
  deriving DecidableEq

/-- The rows, with their data as it is read. -/
structure Table where
  rows : List Submission

namespace Table

def empty : Table := ⟨[]⟩

def row? (t : Table) (key : Uuid) : Option Submission :=
  t.rows.find? fun row => row.id = key

def count (t : Table) : Nat :=
  t.rows.length

def Writable (data : Json) : Prop :=
  data.integerDigits ≤ Numeral.digitLimit ∧ data.nesting ≤ Json.columnDepth

instance (data : Json) : Decidable (Writable data) :=
  inferInstanceAs (Decidable (_ ∧ _))

/-- A submission as its row gives it back. -/
def stored (s : Submission) : Submission :=
  { s with data := s.data.readBack }

def insert (t : Table) (row : Submission) : Except TableFault Table :=
  if ¬ Writable row.data then .error .unwritableData
  else if (t.row? row.id).isSome then .error .duplicateKey
  else .ok ⟨t.rows ++ [stored row]⟩

def boundLimit : Nat := Nat.pow 2 63

/-- The rows on a page. -/
def select (t : Table) (rowOrder : RowOrder) (r : PageRequest) :
    Except TableFault (List Submission) :=
  if boundLimit ≤ r.offset ∨ boundLimit ≤ r.limit.value then .error .boundTooLarge
  else .ok (slice r.offset r.limit.value (rowOrder.arrange r t.rows))

def erase (t : Table) (key : Uuid) : Table :=
  ⟨t.rows.filter fun row => row.id ≠ key⟩

def delete (t : Table) (key : Uuid) : Bool × Table :=
  if (t.row? key).isSome then (true, t.erase key) else (false, t)

end Table

end FormIntake
