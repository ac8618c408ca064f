import FormIntake.Submission.Store
/-!
# Steps of a store

The three things that are asked of a store, what it answers, and runs of them.
What a database answers is also given as a relation: its rows stand in no
order, a selection is in the order asked for, and rows that this order does
not tell apart may come in either way.

The submission that a store tells of when it has created one is the one that
it was given. A row gives back its data as it was read from the column.
-/

namespace FormIntake

/-- What is asked of a store. Ids and times of creation come from outside. -/
inductive StoreStep where
  | create (s : Submission)
  | delete (id : Text)
  | list (r : PageRequest)

inductive StoreAnswer where
  | created (s : Submission)
  | deleted (found : Bool)
  | listed (l : Listing) (pages : Except PagingFault Int)
  | refused (fault : TableFault)

namespace Store

def answer (store : Store) : StoreStep → StoreAnswer × Store
  | .create s =>
    match store.create s with
    | .ok after => (.created s, after)
    | .error fault => (.refused fault, store)
  | .delete id =>
    match store.delete id with
    | .ok (found, after) => (.deleted found, after)
    | .error fault => (.refused fault, store)
  | .list r =>
    match store.list r with
    | .ok l => (.listed l l.totalPages, store)
    | .error fault => (.refused fault, store)

def answers (store : Store) : List StoreStep → List StoreAnswer
  | [] => []
  | step :: rest => (store.answer step).1 :: answers (store.answer step).2 rest

end Store

namespace Table

def ids (rows : List Submission) : List Uuid :=
  rows.map Submission.id

/-- A database that holds these rows, in whatever order, may give this answer to a step and hold
those rows after it. -/
inductive Performs (rows : List Submission) :
    StoreStep → StoreAnswer → List Submission → Prop where
  | creates {s : Submission} {rows' : List Submission} (hnew : s.id ∉ ids rows)
      (hdata : Writable s.data) (hrows : rows'.Perm (stored s :: rows)) :
      Performs rows (.create s) (.created s) rows'
  | refusesKey {s : Submission} {rows' : List Submission} (hkey : s.id ∈ ids rows)
      (hrows : rows'.Perm rows) : Performs rows (.create s) (.refused .duplicateKey) rows'
  | refusesData {s : Submission} {rows' : List Submission} (hdata : ¬ Writable s.data)
      (hrows : rows'.Perm rows) : Performs rows (.create s) (.refused .unwritableData) rows'
  | deletes {id : Text} {key : Uuid} {rows' : List Submission} (hread : Uuid.read? id = some key)
      (hkey : key ∈ ids rows) (hrows : rows'.Perm (rows.filter fun row => row.id ≠ key)) :
      Performs rows (.delete id) (.deleted true) rows'
  | misses {id : Text} {rows' : List Submission}
      (hkey : ∀ key, Uuid.read? id = some key → key ∉ ids rows) (hrows : rows'.Perm rows) :
      Performs rows (.delete id) (.deleted false) rows'
  | selects {r : PageRequest} {ordered rows' : List Submission}
      (hordered : r.order.Arranges rows ordered)
      (hoffset : r.offset < boundLimit) (hlimit : r.limit.value < boundLimit)
      (hrows : rows'.Perm rows) :
      Performs rows (.list r)
        (.listed ⟨slice r.offset r.limit.value ordered, rows.length, r⟩
          (totalPages rows.length r.limit.value)) rows'
  | refusesBound {r : PageRequest} {rows' : List Submission}
      (hbound : boundLimit ≤ r.offset ∨ boundLimit ≤ r.limit.value) (hrows : rows'.Perm rows) :
      Performs rows (.list r) (.refused .boundTooLarge) rows'

inductive Runs : List Submission → List StoreStep → List StoreAnswer → Prop where
  | done (rows : List Submission) : Runs rows [] []
  | step {rows rows' : List Submission} {step : StoreStep} {answer : StoreAnswer}
      {steps : List StoreStep} {answers : List StoreAnswer}
      (h : Performs rows step answer rows') (hrest : Runs rows' steps answers) :
      Runs rows (step :: steps) (answer :: answers)

end Table

/-! ## Steps that both kinds of store answer alike -/

namespace StoreStep

def created? : StoreStep → Option Submission
  | create s => some s
  | _ => none

/-- What keeps a single step from telling the kinds of store apart: data that can be copied and that
a row gives back as it is, ids that are canonical or no ids at all, and bounds that are 64-bit
words. -/
def IsCommon : StoreStep → Prop
  | create s => s.data.integerDigits ≤ Numeral.digitLimit ∧ s.data.nesting ≤ Json.copyDepth ∧
      s.data.readBack = s.data
  | delete id => (∃ key : Uuid, id = key.text) ∨ Uuid.read? id = none
  | list r => r.offset < Table.boundLimit ∧ r.limit.value < Table.boundLimit

/-- The steps are common to both kinds of store, and no two submissions that they create share
their id or their time. -/
structure AreCommon (steps : List StoreStep) : Prop where
  each : ∀ step ∈ steps, step.IsCommon
  ids_nodup : ((steps.filterMap created?).map Submission.id).Nodup
  times_nodup : ((steps.filterMap created?).map Submission.createdAt).Nodup

end StoreStep

end FormIntake
