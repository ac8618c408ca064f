import FormIntake.Checked
/-!
# Members of a document object

An object is read key by key. A key may have several spellings; the first of
them that is present counts, and every other member of the object is one too
many.
-/

namespace FormIntake

/-- The spellings of a key, the preferred one first. -/
abbrev Key := List Text

abbrev Members := List (Text × Json)

namespace Members

variable {α : Type}

/-- The spelling of the key that counts in the object, and its value. -/
def find? (members : Members) (key : Key) : Option (Text × Json) :=
  key.findSome? fun spelling => (Assoc.get? members spelling).map (spelling, ·)

def given (members : Members) (key : Key) (default : α) (read : Json → Checked α) : Checked α :=
  match members.find? key with
  | some (spelling, value) => (read value).under (.key spelling)
  | none => .accepted default

def needed (members : Members) (key : Text) (read : Json → Checked α) : Checked α :=
  match Assoc.get? members key with
  | some value => (read value).under (.key key)
  | none => (Checked.reject .missing).under (.key key)

def others (members : Members) (keys : List Key) : List Text :=
  let known := keys.filterMap fun key => (members.find? key).map Prod.fst
  (Assoc.keys members).filter fun name => !known.contains name

def nothingElse (members : Members) (keys : List Key) : Checked Unit :=
  match members.others keys with
  | [] => .accepted ()
  | names => .rejected (names.map fun name => ⟨[.key name], .unexpectedKey⟩)

end Members

end FormIntake
