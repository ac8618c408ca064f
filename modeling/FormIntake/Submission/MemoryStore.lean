import FormIntake.Json.Nesting
import FormIntake.Submission.Listing
/-!
# The store in memory

Submissions in the order in which they were created, each with its own copy of
the data.
-/

namespace FormIntake

structure MemoryStore where
  submissions : List Submission

namespace MemoryStore

def empty : MemoryStore := ⟨[]⟩

def append (s : MemoryStore) (submission : Submission) : MemoryStore :=
  ⟨s.submissions ++ [submission]⟩

/-- Appends a submission once its data has been copied; there is no copy of data that is nested too
deep. -/
def create (s : MemoryStore) (submission : Submission) : Option MemoryStore :=
  if submission.data.nesting ≤ Json.copyDepth then some (s.append submission) else none

def list (s : MemoryStore) (r : PageRequest) : Listing :=
  ⟨slice r.offset r.limit.value (r.order.sort s.submissions), s.submissions.length, r⟩

/-- The entries without the first one whose canonical id is the given text. -/
def withoutId? (id : Text) : List Submission → Option (List Submission)
  | [] => none
  | s :: rest => if s.id.text = id then some rest else (withoutId? id rest).map (s :: ·)

/-- Removes the submission whose canonical id is the given text; tells whether there was one. -/
def delete (s : MemoryStore) (id : Text) : Bool × MemoryStore :=
  match withoutId? id s.submissions with
  | some rest => (true, ⟨rest⟩)
  | none => (false, s)

end MemoryStore

end FormIntake
