import FormIntake.Proofs.Service.Run
import FormIntake.Proofs.Submission.Agreement
/-!
# Deletions

What a text names decides what a request to delete takes out. The store in
memory goes by the canonical text of an id, the database by every spelling of
it. So the two agree on a text unless it spells the id of a submission held in
some other way than the canonical one.
-/

namespace FormIntake

/-- What a deletion does to the submissions held, and whether it finds anything: the first one of a
kind is taken out, or there is none of the kind and all stay. -/
inductive Deletion (Is : Submission → Prop) (held : List Submission) :
    Bool → List Submission → Prop where
  | found {rest : List Submission} (h : Removal Is held rest) : Deletion Is held true rest
  | missed (h : ∀ s ∈ held, ¬ Is s) : Deletion Is held false held

namespace Deletion

variable {Is Is' : Submission → Prop} {held held' rest rest' : List Submission} {found : Bool}

theorem found_iff (h : Deletion Is held found rest) : found = true ↔ ∃ s ∈ held, Is s := by
  cases h with
  | found h =>
      obtain ⟨before, s, after, rfl, -, hs, -⟩ := h.split
      exact ⟨fun _ => ⟨s, List.mem_append_right _ List.mem_cons_self, hs⟩, fun _ => rfl⟩
  | missed h =>
      constructor
      · intro hfalse
        cases hfalse
      · rintro ⟨s, hs, his⟩
        exact absurd his (h s hs)

/-- The same submission is taken out of both lists if they hold the same, with distinct ids. -/
theorem perm_of_removals (hsame : held'.Perm held) (hids : (Table.ids held).Nodup)
    (hkind : ∀ s q, Is s → Is' q → s.id = q.id) (h : Removal Is held rest)
    (h' : Removal Is' held' rest') : rest'.Perm rest := by
  obtain ⟨before, s, after, rfl, rfl, hs, -⟩ := h.split
  obtain ⟨before', q, after', rfl, rfl, hq, -⟩ := h'.split
  have hmem : q ∈ before ++ s :: after :=
    hsame.subset (List.mem_append_right _ List.mem_cons_self)
  have heq : q = s :=
    List.inj_on_of_nodup_map hids hmem (List.mem_append_right _ List.mem_cons_self)
      (hkind s q hs hq).symm
  subst heq
  have hrest : (q :: (before' ++ after')).Perm (q :: (before ++ after)) :=
    (List.perm_middle.symm.trans hsame).trans List.perm_middle
  exact hrest.cons_inv

theorem perm (hsame : held'.Perm held) (hids : (Table.ids held).Nodup)
    (hkind : ∀ s q, Is s → Is' q → s.id = q.id) (h : Deletion Is held found rest)
    (h' : Deletion Is' held' found rest') : rest'.Perm rest := by
  cases h with
  | found h =>
      cases h' with
      | found h' => exact perm_of_removals hsame hids hkind h h'
  | missed _ =>
      cases h' with
      | missed _ => exact hsame

end Deletion

namespace App

variable {app : App} {r : Request}

/-- The service is asked to delete what a text names, and the rate limiter lets the request
through. -/
structure Deletes (app : App) (r : Request) (t : Text) : Prop where
  route_eq : Route.resolve r.method (Path.decode r.path) = .endpoint (.delete t)
  served : (app.meter r).1 = none

def deletionAnswer (found : Bool) : Response :=
  if found then .empty 204
  else ⟨404, some (.object [("id", .ofString "Submission not found")]), none⟩

theorem notFound_sent :
    Response.ofJson? 404 (.object [("id", .ofString "Submission not found")]) =
      some (deletionAnswer false) :=
  rfl

theorem answer_of_deletes {t : Text} {found : Bool} {store : Store} (h : app.Deletes r t)
    (hdelete : app.store.delete t = .ok (found, store)) (hkept : found = false → store = app.store) :
    app.answer r = deletionAnswer found ∧ (app.next r).store = store := by
  obtain ⟨hanswer, hnext⟩ := answer_of_endpoint h.served h.route_eq
  have hmetered : (app.meter r).2.store.delete t = .ok (found, store) := by
    rw [meter_store, hdelete]
  rw [hanswer, hnext]
  cases found with
  | true =>
      simp only [run, delete, hmetered, deletionAnswer, if_true, Option.getD_some, and_self]
  | false =>
      simp only [run, delete, hmetered, reply, notFound_sent]
      exact ⟨rfl, (meter_store app r).trans (hkept rfl).symm⟩

end App

namespace Store

/-- A store takes out what a text names and tells whether there was anything; so does every service
with this store. -/
structure Drops (store : Store) (t : Text) (found : Bool) (after : Store) : Prop where
  delete_eq : store.delete t = .ok (found, after)
  deletion : Deletion (fun s => store.Names t s.id) store.submissions found after.submissions
  served : ∀ (app : App) (r : Request), app.store = store → app.Deletes r t →
    app.answer r = App.deletionAnswer found ∧ (app.next r).store = after

theorem drops_of_delete {store after : Store} {t : Text} {found : Bool}
    (hdelete : store.delete t = .ok (found, after)) (hkept : found = false → after = store)
    (hdeletion : Deletion (fun s => store.Names t s.id) store.submissions found
      after.submissions) : store.Drops t found after := by
  refine ⟨hdelete, hdeletion, ?_⟩
  rintro app r rfl hdeletes
  exact App.answer_of_deletes hdeletes hdelete hkept

theorem exists_drops_memory (list : List Submission) (t : Text) :
    ∃ found rest, (memory ⟨list⟩).Drops t found (memory ⟨rest⟩) := by
  cases hrest : MemoryStore.withoutId? t list with
  | none =>
      refine ⟨false, list, drops_of_delete ?_ (fun _ => rfl) (.missed ?_)⟩
      · simp only [delete, MemoryStore.delete, hrest]
      · exact (MemoryStore.withoutId?_eq_none_iff t list).1 hrest
  | some rest =>
      refine ⟨true, rest, drops_of_delete ?_ (fun h => by cases h) (.found ?_)⟩
      · simp only [delete, MemoryStore.delete, hrest]
      · exact MemoryStore.removal_of_withoutId? hrest

theorem exists_drops_database {rows : List Submission} (hids : (Table.ids rows).Nodup) (t : Text) :
    ∃ found rest, (database (some ⟨rows⟩)).Drops t found (database (some ⟨rest⟩)) := by
  cases hread : Uuid.read? t with
  | none =>
      refine ⟨false, rows, drops_of_delete ?_ (fun _ => rfl) (.missed ?_)⟩
      · simp only [delete, hread]
      · intro s _ hnames
        rw [Names, hread] at hnames
        cases hnames
  | some key =>
      have hnames : ∀ s : Submission, s.id = key ↔ (database (some ⟨rows⟩)).Names t s.id := by
        intro s
        rw [Names, hread, Option.some.injEq]
        exact eq_comm
      by_cases hrow : (Table.row? ⟨rows⟩ key).isSome = true
      · refine ⟨true, (Table.erase ⟨rows⟩ key).rows, drops_of_delete ?_ (fun h => by cases h)
          (.found ?_)⟩
        · simp only [delete, hread, Table.delete, if_pos hrow]
        · exact (Table.removal_of_erase hids hrow).congr hnames
      · refine ⟨false, rows, drops_of_delete ?_ (fun _ => rfl) (.missed ?_)⟩
        · simp only [delete, hread, Table.delete, if_neg hrow]
        · intro s hs hname
          apply hrow
          rw [Table.row?_isSome_iff, ← (hnames s).2 hname]
          exact List.mem_map_of_mem hs

end Store

/-- A store in memory and a database that hold the same submissions agree on every text that is
canonical or names no submission held, and on no other text: a spelling of an id that is not the
canonical one deletes its submission from the database only. -/
theorem deletion_depends_on_spelling {list rows : List Submission} (hsame : rows.Perm list)
    (hids : (Table.ids list).Nodup) (t : Text) :
    ∃ found found' rest rest',
      (Store.memory ⟨list⟩).Drops t found (.memory ⟨rest⟩) ∧
      (Store.database (some ⟨rows⟩)).Drops t found' (.database (some ⟨rest'⟩)) ∧
      (found = true → found' = true) ∧
      (found = found' → rest'.Perm rest) ∧
      (found = found' ↔ ∀ s ∈ list, Uuid.read? t = some s.id → s.id.text = t) ∧
      ∀ s ∈ list, Uuid.Spelling s.id t → found' = true ∧ (found = true ↔ s.id.text = t) := by
  have hrows : (Table.ids rows).Nodup := ((hsame.map Submission.id).nodup_iff).2 hids
  obtain ⟨found, rest, hmemory⟩ := Store.exists_drops_memory list t
  obtain ⟨found', rest', hdatabase⟩ := Store.exists_drops_database hrows t
  have hfound : found = true ↔ ∃ s ∈ list, s.id.text = t := hmemory.deletion.found_iff
  have hfound' : found' = true ↔ ∃ s ∈ list, Uuid.read? t = some s.id := by
    rw [hdatabase.deletion.found_iff]
    exact exists_congr fun s => and_congr_left' hsame.mem_iff
  -- a canonical text is read as its id, so both names can only be of one submission
  have hone : ∀ s q : Submission, s.id.text = t → Uuid.read? t = some q.id → s.id = q.id := by
    rintro s q rfl hread
    rwa [Uuid.read?_text, Option.some.injEq] at hread
  have hcanonical : ∀ s ∈ list, Uuid.read? t = some s.id → (found = true ↔ s.id.text = t) := by
    intro s hs hread
    rw [hfound]
    constructor
    · rintro ⟨q, -, hq⟩
      rw [← hone q s hq hread, hq]
    · exact fun htext => ⟨s, hs, htext⟩
  have himplies : found = true → found' = true := by
    rw [hfound, hfound']
    rintro ⟨s, hs, rfl⟩
    exact ⟨s, hs, Uuid.read?_text s.id⟩
  refine ⟨found, found', rest, rest', hmemory, hdatabase, himplies, ?_, ?_, ?_⟩
  · rintro rfl
    exact hmemory.deletion.perm hsame hids hone hdatabase.deletion
  · constructor
    · intro heq s hs hread
      exact (hcanonical s hs hread).1 (heq.trans (hfound'.2 ⟨s, hs, hread⟩))
    · intro hall
      rw [Bool.eq_iff_iff]
      refine ⟨himplies, fun htrue => ?_⟩
      obtain ⟨s, hs, hread⟩ := hfound'.1 htrue
      exact (hcanonical s hs hread).2 (hall s hs hread)
  · intro s hs hspelling
    have hread := Uuid.read?_of_spelling hspelling
    exact ⟨hfound'.2 ⟨s, hs, hread⟩, hcanonical s hs hread⟩

def lettered : Submission :=
  ⟨⟨0xab00000001, by decide⟩, 20, .obj []⟩

def plainer : Submission :=
  ⟨⟨7, by decide⟩, 10, .obj []⟩

theorem bare_digits_drop_apart :
    [plainer, lettered].Perm [lettered, plainer] ∧ (Table.ids [lettered, plainer]).Nodup ∧
      ∃ rest rest',
        (Store.memory ⟨[lettered, plainer]⟩).Drops (Text.hex 32 lettered.id.val) false
          (.memory ⟨rest⟩) ∧
        (Store.database (some ⟨[plainer, lettered]⟩)).Drops (Text.hex 32 lettered.id.val) true
          (.database (some ⟨rest'⟩)) := by
  have hsame : [plainer, lettered].Perm [lettered, plainer] := .swap _ _ _
  have hids : (Table.ids [lettered, plainer]).Nodup := by decide
  obtain ⟨found, found', rest, rest', hmemory, hdatabase, -, -, -, hspelled⟩ :=
    deletion_depends_on_spelling hsame hids (Text.hex 32 lettered.id.val)
  obtain ⟨hfound', hfound⟩ :=
    hspelled lettered List.mem_cons_self (Uuid.spelling_text lettered.id).2
  have hother : lettered.id.text ≠ Text.hex 32 lettered.id.val := by decide +kernel
  have hmissed : found = false := Bool.eq_false_iff.2 (mt hfound.1 hother)
  subst hfound' hmissed
  exact ⟨hsame, hids, rest, rest', hmemory, hdatabase⟩

namespace App

def holding (store : List Submission → Store) : App :=
  { start { Settings.default with rateLimitEnabled := false } 0 fun _ => lettered.id with
    store := store [lettered] }

def capitalDelete : Request :=
  { missingDelete with path := "/api/submissions/00000000-0000-0000-0000-00AB00000001" }

/-- Capital letters in an id are taken for others in memory and for the same in the database. -/
theorem capital_id_deletes_from_database_only :
    Uuid.Spelling lettered.id "00000000-0000-0000-0000-00AB00000001" ∧
      ((holding fun list => .memory ⟨list⟩).answer capitalDelete).status = 404 ∧
      ((holding fun list => .database (some ⟨list⟩)).answer capitalDelete).status = 204 := by
  refine ⟨?_, by decide +kernel, by decide +kernel⟩
  have hrow : HexRow (List.filter (· ≠ Uuid.hyphen) "00000000-0000-0000-0000-00AB00000001")
      (List.replicate 22 0 ++ [10, 11, 0, 0, 0, 0, 0, 0, 0, 1]) := by
    unfold HexRow
    decide +kernel
  exact .plain hrow (by decide) (by decide +kernel)

end App

end FormIntake
