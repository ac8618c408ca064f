import FormIntake.Submission.MemoryStore
import FormIntake.Submission.Table
/-!
# Stores

Submissions are kept in memory or in a database, whose table may be missing.
-/

namespace FormIntake

inductive Store where
  | memory (store : MemoryStore)
  | database (table : Option Table)

namespace Store

def submissions : Store → List Submission
  | memory store => store.submissions
  | database (some table) => table.rows
  | database none => []

def create (s : Store) (submission : Submission) : Except TableFault Store :=
  match s with
  | memory store =>
    match store.create submission with
    | some store => .ok (memory store)
    | none => .error .unwritableData
  | database (some table) =>
    match table.insert submission with
    | .ok table => .ok (database (some table))
    | .error fault => .error fault
  | database none => .error .noTable

/-- The page that a request asks for. A database brings its rows in order in its own way. -/
def listBy (rowOrder : RowOrder) (s : Store) (r : PageRequest) : Except TableFault Listing :=
  match s with
  | memory store => .ok (store.list r)
  | database (some table) =>
    match table.select rowOrder r with
    | .ok rows => .ok ⟨rows, table.count, r⟩
    | .error fault => .error fault
  | database none => .error .noTable

def list : Store → PageRequest → Except TableFault Listing :=
  listBy .indexed

/-- Removes the submission that a text names; tells whether there was one. The store in memory
takes canonical ids only, the database every spelling of a key. -/
def delete (s : Store) (id : Text) : Except TableFault (Bool × Store) :=
  match s with
  | memory store =>
    let (found, store) := store.delete id
    .ok (found, memory store)
  | database table? =>
    match Uuid.read? id with
    | none => .ok (false, s)
    | some key =>
      match table? with
      | none => .error .noTable
      | some table =>
        let (found, table) := table.delete key
        .ok (found, database (some table))

end Store

end FormIntake
