import FormIntake.Proofs.Submission.Pages
import Mathlib.Logic.Function.Basic
/-!
# Clients of one store

Several clients share a store in memory. Creating a submission takes two steps:
first it is stamped with an id and a time, with a copy of what the client
submits, then it is appended under the lock. What is nested too deep to be
copied is refused before anything is stamped. Deleting and listing are one step
each, under the lock. The steps of different clients come in any order.
-/

namespace FormIntake

inductive Event (κ : Type) where
  /-- The client changes what it would submit. -/
  | edited (client : κ) (document : Json)
  | stamped (client : κ) (s : Submission)
  /-- What the client submits cannot be copied. -/
  | refused (client : κ)
  | appended (client : κ) (s : Submission)
  | deleted (client : κ) (id : Text) (found : Bool)
  | listed (client : κ) (l : Listing)

/-- A store in memory and those who use it. -/
structure SharedStore (κ : Type) where
  memory : MemoryStore
  /-- What each client would submit. Only the client itself reads it, once for each submission. -/
  documents : κ → Json
  /-- The submission that a client has stamped and not yet appended. -/
  drafts : κ → Option Submission
  /-- The ids given out so far. -/
  taken : List Uuid

namespace SharedStore

variable {κ : Type} [DecidableEq κ]

def start (documents : κ → Json) : SharedStore κ :=
  ⟨.empty, documents, fun _ => none, []⟩

def edit (st : SharedStore κ) (client : κ) (document : Json) : SharedStore κ :=
  { st with documents := Function.update st.documents client document }

def stamp (st : SharedStore κ) (client : κ) (s : Submission) : SharedStore κ :=
  { st with drafts := Function.update st.drafts client (some s), taken := s.id :: st.taken }

def append (st : SharedStore κ) (client : κ) (s : Submission) : SharedStore κ :=
  { st with memory := st.memory.append s, drafts := Function.update st.drafts client none }

/-- A step of one client. Whoever has stamped a submission appends it before doing anything else
with the store, but its document may change at any time. -/
inductive Step (st : SharedStore κ) : Event κ → SharedStore κ → Prop where
  | edits (client : κ) (document : Json) :
      Step st (.edited client document) (st.edit client document)
  | stamps {client : κ} {s : Submission} (hidle : st.drafts client = none)
      (hfresh : s.id ∉ st.taken) (hdata : s.data = st.documents client)
      (hcopied : s.data.nesting ≤ Json.copyDepth) :
      Step st (.stamped client s) (st.stamp client s)
  | refuses {client : κ} (hidle : st.drafts client = none)
      (hdeep : Json.copyDepth < (st.documents client).nesting) : Step st (.refused client) st
  | appends {client : κ} {s : Submission} (hdraft : st.drafts client = some s) :
      Step st (.appended client s) (st.append client s)
  | deletes {client : κ} {id : Text} {found : Bool} {rest : MemoryStore}
      (hidle : st.drafts client = none) (hdelete : st.memory.delete id = (found, rest)) :
      Step st (.deleted client id found) { st with memory := rest }
  | lists {client : κ} (r : PageRequest) (hidle : st.drafts client = none) :
      Step st (.listed client (st.memory.list r)) st

/-- A run from an empty store: what has happened, in order, and what it has led to. -/
inductive Run : List (Event κ) → SharedStore κ → Prop where
  | start (documents : κ → Json) : Run [] (.start documents)
  | step {events : List (Event κ)} {st st' : SharedStore κ} {e : Event κ} (hrun : Run events st)
      (hstep : Step st e st') : Run (events ++ [e]) st'

end SharedStore

/-! ## What a run tells -/

namespace Event

variable {κ : Type}

def caller? : Event κ → Option κ
  | edited _ _ => none
  | stamped client _ => some client
  | refused client => some client
  | appended client _ => some client
  | deleted client _ _ => some client
  | listed client _ => some client

def appended? : Event κ → Option Submission
  | appended _ s => some s
  | _ => none

def removed? : Event κ → Option Text
  | deleted _ id true => some id
  | _ => none

def locked? : Event κ → Option (StoreStep × StoreAnswer)
  | appended _ s => some (.create s, .created s)
  | deleted _ id found => some (.delete id, .deleted found)
  | listed _ l => some (.list l.request, .listed l l.totalPages)
  | _ => none

/-- What an event does with the submissions held, and what it tells about them. -/
def Outcome (held held' : List Submission) : Event κ → Prop
  | edited _ _ => held' = held
  | stamped _ _ => held' = held
  | refused _ => held' = held
  | appended _ s => s.id ∉ Table.ids held ∧ held' = held ++ [s]
  | deleted _ id true => ∃ before s after, s.id.text = id ∧ held = before ++ s :: after ∧
      held' = before ++ after
  | deleted _ id false => (∀ s ∈ held, s.id.text ≠ id) ∧ held' = held
  | listed _ l => held' = held ∧ l.total = held.length ∧
      ∃ sorted, l.request.order.Sorts held sorted ∧
        l.items = slice l.request.offset l.request.limit.value sorted

end Event

namespace SharedStore

section Histories

variable {κ : Type} (events : List (Event κ))

def appended : List Submission :=
  events.filterMap Event.appended?

def removed : List Text :=
  events.filterMap Event.removed?

/-- The submissions appended and not deleted, in the order of the appending. -/
def held : List Submission :=
  (appended events).filter fun s => s.id.text ∉ removed events

def locked : List (StoreStep × StoreAnswer) :=
  events.filterMap Event.locked?

end Histories

variable {κ : Type} [DecidableEq κ]

/-- The client has stamped this submission with a new id and what it would submit at that time,
and has not used the store since. -/
def Stamped (events : List (Event κ)) (client : κ) (s : Submission) : Prop :=
  ∃ before since st st', events = before ++ .stamped client s :: since ∧ Run before st ∧
    Step st (.stamped client s) st' ∧ s.id ∉ st.taken ∧ s.data = st.documents client ∧
    ∀ e ∈ since, e.caller? ≠ some client

/-- Every step under the lock happens at once, and nothing is lost. -/
structure Linearized (events : List (Event κ)) (st : SharedStore κ) : Prop where
  holds : st.memory.submissions = held events
  /-- No two submissions ever appended share an id, let alone two that are held. -/
  ids_nodup : (Table.ids (appended events)).Nodup
  /-- What is appended is what the client has stamped. -/
  appends : ∀ before client s after, events = before ++ .appended client s :: after →
    Stamped before client s
  /-- What is stamped is appended, or still about to be. -/
  keeps : ∀ client s, .stamped client s ∈ events →
    s ∈ appended events ∨ st.drafts client = some s
  /-- Every event has its outcome on what is held just then. -/
  each : ∀ before e after, events = before ++ e :: after → ∃ mid next, Run before mid ∧
    Step mid e next ∧ mid.memory.submissions = held before ∧
    next.memory.submissions = held (before ++ [e]) ∧
    e.Outcome mid.memory.submissions next.memory.submissions
  /-- No id is deleted with success twice. -/
  removed_nodup : (removed events).Nodup
  total : ∀ r, (st.memory.list r).total + (removed events).length = (appended events).length
  /-- A single client that asks for the same is given the same answers. -/
  sequential : (Store.memory .empty).answers ((locked events).map Prod.fst) =
    (locked events).map Prod.snd

end SharedStore

end FormIntake
