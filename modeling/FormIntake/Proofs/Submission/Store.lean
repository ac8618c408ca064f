import FormIntake.Submission.Store
/-!
# What the stores do

A store grows at its end and loses one submission at a time. In the database
that is so because its keys are distinct, which every insertion preserves.
-/

namespace FormIntake

/-- The second list is the first one without the first submission of a kind. -/
inductive Removal (Is : Submission → Prop) : List Submission → List Submission → Prop where
  | here {s : Submission} {rest : List Submission} (h : Is s) : Removal Is (s :: rest) rest
  | later {s : Submission} {all rest : List Submission} (h : ¬ Is s)
      (hrest : Removal Is all rest) : Removal Is (s :: all) (s :: rest)

namespace Removal

variable {Is : Submission → Prop} {all rest : List Submission}

theorem split (h : Removal Is all rest) :
    ∃ before s after, all = before ++ s :: after ∧ rest = before ++ after ∧ Is s ∧
      ∀ q ∈ before, ¬ Is q := by
  induction h with
  | @here s rest h => exact ⟨[], s, rest, rfl, rfl, h, fun _ hq => absurd hq List.not_mem_nil⟩
  | @later s _ _ h _ ih =>
      obtain ⟨before, removed, after, rfl, rfl, hremoved, hbefore⟩ := ih
      refine ⟨s :: before, removed, after, rfl, rfl, hremoved, ?_⟩
      intro q hq
      rcases List.mem_cons.1 hq with rfl | hq
      · exact h
      · exact hbefore q hq

theorem sublist (h : Removal Is all rest) : rest.Sublist all := by
  induction h with
  | here _ => exact List.sublist_cons_self _ _
  | later _ _ ih => exact ih.cons_cons _

theorem congr {Is' : Submission → Prop} (his : ∀ s, Is s ↔ Is' s) (h : Removal Is all rest) :
    Removal Is' all rest := by
  induction h with
  | here h => exact .here ((his _).1 h)
  | later h _ ih => exact .later (fun hs => h ((his _).2 hs)) ih

end Removal

theorem MemoryStore.removal_of_withoutId? {id : Text} {all rest : List Submission}
    (h : withoutId? id all = some rest) : Removal (·.id.text = id) all rest := by
  induction all generalizing rest with
  | nil => cases h
  | cons s others ih =>
      rw [withoutId?] at h
      by_cases hid : s.id.text = id
      · rw [if_pos hid] at h
        rw [← Option.some.inj h]
        exact .here hid
      · rw [if_neg hid] at h
        obtain ⟨fewer, hfewer, rfl⟩ := Option.map_eq_some_iff.1 h
        exact .later hid (ih hfewer)

namespace Table

def Keyed (t : Table) : Prop :=
  (t.rows.map Submission.id).Nodup

theorem row?_isSome_iff (t : Table) (key : Uuid) :
    (t.row? key).isSome = true ↔ key ∈ t.rows.map Submission.id := by
  simp [row?, List.find?_isSome]

theorem insert_spec {t t' : Table} {row : Submission} (h : t.insert row = .ok t') :
    t'.rows = t.rows ++ [stored row] ∧ Writable row.data ∧ (t.Keyed → t'.Keyed) := by
  unfold insert at h
  split at h
  · cases h
  · rename_i hwritable
    split at h
    · cases h
    · rename_i hnew
      rw [row?_isSome_iff] at hnew
      have heq := Except.ok.inj h
      subst heq
      refine ⟨rfl, Decidable.not_not.1 hwritable, fun hkeyed => ?_⟩
      unfold Keyed at hkeyed ⊢
      rw [List.map_append, List.nodup_append]
      refine ⟨hkeyed, by simp, ?_⟩
      intro a ha b hb hab
      rw [List.map_singleton, List.mem_singleton] at hb
      exact hnew (hb ▸ hab ▸ ha)

/-- Erasing a key takes one row out and leaves the others in their places. -/
theorem removal_of_erase {t : Table} {key : Uuid} (hkeyed : t.Keyed)
    (h : (t.row? key).isSome = true) : Removal (·.id = key) t.rows (t.erase key).rows := by
  obtain ⟨rows⟩ := t
  simp only [Keyed, erase, row?_isSome_iff] at hkeyed h ⊢
  induction rows with
  | nil => cases h
  | cons row others ih =>
      rw [List.map_cons, List.nodup_cons] at hkeyed
      by_cases hid : row.id = key
      · have hothers : others.filter (fun row => row.id ≠ key) = others := by
          rw [List.filter_eq_self]
          intro other hother
          have hne : other.id ≠ key := by
            intro heq
            exact hkeyed.1 (hid ▸ heq ▸ List.mem_map_of_mem hother)
          exact decide_eq_true hne
        rw [List.filter_cons_of_neg (by simpa using hid), hothers]
        exact .here hid
      · have hmem : key ∈ others.map Submission.id := by
          rw [List.map_cons, List.mem_cons] at h
          exact h.resolve_left fun heq => hid heq.symm
        rw [List.filter_cons_of_pos (by simpa using hid)]
        exact .later hid (ih hkeyed.2 hmem)

end Table

namespace Store

def Keyed : Store → Prop
  | database (some table) => table.Keyed
  | _ => True

/-- A text names the submission with this id: canonically for the store in memory, in any
spelling for the database. -/
def Names (store : Store) (t : Text) (id : Uuid) : Prop :=
  match store with
  | memory _ => id.text = t
  | database _ => Uuid.read? t = some id

def kept : Store → Json → Json
  | memory _, data => data
  | database _, data => data.readBack

/-- How deep data may be nested for a store to take it. -/
def depth : Store → Nat
  | memory _ => Json.copyDepth
  | database _ => Json.columnDepth

structure Takes (store : Store) (s : Submission) (after : Store) : Prop where
  submissions_eq : after.submissions =
    store.submissions ++ [{ s with data := store.kept s.data }]
  nesting_le : s.data.nesting ≤ store.depth
  keyed : store.Keyed → after.Keyed

theorem takes_of_create {store store' : Store} {s : Submission} (h : store.create s = .ok store') :
    store.Takes s store' := by
  match store with
  | memory m =>
      by_cases hnesting : s.data.nesting ≤ Json.copyDepth
      · simp only [create, MemoryStore.create, if_pos hnesting, Except.ok.injEq] at h
        rw [← h]
        exact ⟨rfl, hnesting, fun _ => trivial⟩
      · simp [create, MemoryStore.create, if_neg hnesting] at h
  | database none => cases h
  | database (some table) =>
      unfold create at h
      cases hinsert : table.insert s with
      | error fault => simp [hinsert] at h
      | ok table' =>
          simp only [hinsert] at h
          obtain ⟨hrows, hwritable, hkeyed⟩ := Table.insert_spec hinsert
          rw [← Except.ok.inj h]
          exact ⟨hrows, hwritable.2, hkeyed⟩

theorem delete_spec {store store' : Store} {t : Text} (hkeyed : store.Keyed)
    (h : store.delete t = .ok (true, store')) :
    Removal (fun s => store.Names t s.id) store.submissions store'.submissions ∧
      store'.Keyed := by
  match store with
  | memory m =>
      cases hrest : MemoryStore.withoutId? t m.submissions with
      | none => simp [delete, MemoryStore.delete, hrest] at h
      | some rest =>
          simp only [delete, MemoryStore.delete, hrest, Except.ok.injEq, Prod.mk.injEq,
            true_and] at h
          subst h
          exact ⟨MemoryStore.removal_of_withoutId? hrest, trivial⟩
  | database table? =>
      cases hread : Uuid.read? t with
      | none => simp [delete, hread] at h
      | some key =>
          match table? with
          | none => simp [delete, hread] at h
          | some table =>
              by_cases hrow : (table.row? key).isSome = true
              · simp only [delete, hread, Table.delete, if_pos hrow, Except.ok.injEq,
                  Prod.mk.injEq, true_and] at h
                subst h
                refine ⟨(Table.removal_of_erase hkeyed hrow).congr fun s => ?_, ?_⟩
                · simp only [Names, hread, Option.some.injEq]
                  exact eq_comm
                · exact List.Nodup.sublist (List.Sublist.map _ List.filter_sublist) hkeyed
              · simp [delete, hread, Table.delete, hrow] at h

end Store

end FormIntake
