import FormIntake.Proofs.Submission.Steps
import FormIntake.Proofs.Submission.Store
import FormIntake.Proofs.Uuid
import Mathlib.Data.List.Nodup
/-!
# The stores agree

A database and a store in memory answer alike, whatever order the rows stand
in: they hold the same submissions, a sorted listing of distinct times is
unique, and a canonical text names the id that the database reads from it.
-/

namespace FormIntake

/-! ## Sorting by distinct times -/

namespace SortOrder

theorem precedes_antisymm {order : SortOrder} {a b : Submission}
    (hab : order.precedes a b = true) (hba : order.precedes b a = true) :
    a.createdAt = b.createdAt := by
  cases order <;> simp only [precedes, decide_eq_true_eq] at * <;> omega

/-- With distinct times there is one sorted list only. -/
theorem Arranges.eq_sort {order : SortOrder} {ordered list : List Submission}
    (h : order.Arranges list ordered) (htimes : (list.map Submission.createdAt).Nodup) :
    ordered = order.sort list := by
  have hsort := order.arranges_sort list
  refine List.Perm.eq_of_pairwise ?_ h.sorted hsort.sorted (h.perm.trans hsort.perm.symm)
  intro a b ha hb hab hba
  exact List.inj_on_of_nodup_map htimes (h.perm.subset ha) (hsort.perm.subset hb)
    (precedes_antisymm hab hba)

theorem Arranges.of_perm {order : SortOrder} {ordered rows list : List Submission}
    (h : order.Arranges rows ordered) (hperm : rows.Perm list) : order.Arranges list ordered :=
  ⟨h.perm.trans hperm, h.sorted⟩

end SortOrder

/-! ## Deleting by a canonical text -/

theorem Removal.unique {Is : Submission → Prop} {all rest rest' : List Submission}
    (h : Removal Is all rest) (h' : Removal Is all rest') : rest = rest' := by
  induction h generalizing rest' with
  | here h =>
      cases h' with
      | here _ => rfl
      | later hnot _ => exact absurd h hnot
  | later hnot _ ih =>
      cases h' with
      | here h => exact absurd h hnot
      | later _ hrest => rw [ih hrest]

namespace MemoryStore

theorem withoutId?_eq_none_iff (id : Text) (list : List Submission) :
    withoutId? id list = none ↔ ∀ s ∈ list, s.id.text ≠ id := by
  induction list with
  | nil => simp [withoutId?]
  | cons s rest ih =>
      rw [withoutId?, List.forall_mem_cons]
      by_cases h : s.id.text = id
      · simp [h]
      · simp [h, ih]

theorem withoutId?_text_of_mem {key : Uuid} {list : List Submission}
    (hids : (Table.ids list).Nodup) (hkey : key ∈ Table.ids list) :
    withoutId? key.text list = some (list.filter fun s => s.id ≠ key) := by
  cases hrest : withoutId? key.text list with
  | none =>
      obtain ⟨s, hs, heq⟩ := List.mem_map.1 hkey
      exact absurd (congrArg Uuid.text heq) ((withoutId?_eq_none_iff _ _).1 hrest s hs)
  | some rest =>
      have hremoval : Removal (·.id = key) list rest :=
        (removal_of_withoutId? hrest).congr fun s =>
          ⟨fun h => Uuid.text_injective h, fun h => congrArg Uuid.text h⟩
      have herase := Table.removal_of_erase (t := ⟨list⟩) hids
        ((Table.row?_isSome_iff ⟨list⟩ key).2 hkey)
      rw [hremoval.unique herase]
      rfl

theorem withoutId?_of_not_mem {id : Text} {list : List Submission}
    (h : ∀ key, Uuid.read? id = some key → key ∉ Table.ids list) : withoutId? id list = none := by
  rw [withoutId?_eq_none_iff]
  intro s hs hid
  apply h s.id
  · rw [← hid, Uuid.read?_text]
  · exact List.mem_map_of_mem hs

def after (list : List Submission) : StoreStep → List Submission
  | .create s => if s.data.nesting ≤ Json.copyDepth then list ++ [s] else list
  | .delete id => (withoutId? id list).getD list
  | .list _ => list

theorem answer_create {s : Submission} (h : s.data.nesting ≤ Json.copyDepth)
    (list : List Submission) :
    (Store.memory ⟨list⟩).answer (.create s) = (.created s, .memory ⟨list ++ [s]⟩) := by
  simp only [Store.answer, Store.create, create, if_pos h]
  rfl

theorem answer_create_of_deep {s : Submission} (h : Json.copyDepth < s.data.nesting)
    (list : List Submission) :
    (Store.memory ⟨list⟩).answer (.create s) = (.refused .unwritableData, .memory ⟨list⟩) := by
  simp only [Store.answer, Store.create, create, if_neg (Nat.not_le.2 h)]

theorem answer_memory (list : List Submission) (step : StoreStep) :
    ((Store.memory ⟨list⟩).answer step).2 = .memory ⟨after list step⟩ := by
  cases step with
  | create s =>
      rw [after]
      split
      · rename_i hnesting
        rw [answer_create hnesting]
      · rename_i hnesting
        rw [answer_create_of_deep (Nat.lt_of_not_le hnesting)]
  | delete id =>
      simp only [Store.answer, Store.delete, delete, after]
      cases withoutId? id list <;> rfl
  | list r => rfl

theorem after_sublist (list : List Submission) (step : StoreStep) :
    (after list step).Sublist (list ++ step.created?.toList) := by
  cases step with
  | create s =>
      rw [after]
      split
      · exact List.Sublist.refl _
      · exact List.sublist_append_left _ _
  | delete id =>
      simp only [after, StoreStep.created?, Option.toList_none, List.append_nil]
      cases hrest : withoutId? id list with
      | none => exact List.Sublist.refl _
      | some rest => exact (removal_of_withoutId? hrest).sublist
  | list r => exact List.sublist_append_left _ _

end MemoryStore

/-! ## One step -/

namespace Table

theorem answer_create {s : Submission} {rows : List Submission} (hdata : Writable s.data)
    (hkey : s.id ∉ ids rows) : (Store.database (some ⟨rows⟩)).answer (.create s) =
      (.created s, .database (some ⟨rows ++ [stored s]⟩)) := by
  have hrow := mt (row?_isSome_iff ⟨rows⟩ s.id).1 hkey
  simp only [Store.answer, Store.create, insert, if_neg (not_not.2 hdata), if_neg hrow]

theorem mem_ids_of_perm {rows list : List Submission} (h : rows.Perm list) (key : Uuid) :
    key ∈ ids rows ↔ key ∈ ids list :=
  (h.map Submission.id).mem_iff

/-- Whatever a database may answer to a step, the store in memory answers, and both hold the same
submissions afterwards. -/
theorem performs_agree {rows rows' list : List Submission} {step : StoreStep}
    {answer : StoreAnswer} (hperm : rows.Perm list) (hids : (ids list).Nodup)
    (htimes : (list.map Submission.createdAt).Nodup) (hcommon : step.IsCommon)
    (hnew : ∀ s ∈ step.created?, s.id ∉ ids list) (h : Performs rows step answer rows') :
    ((Store.memory ⟨list⟩).answer step).1 = answer ∧
      rows'.Perm (MemoryStore.after list step) := by
  cases h with
  | @creates s _ _ _ hrows =>
      obtain ⟨-, hcopied, hback⟩ := hcommon
      have hstored : stored s = s := congrArg (fun data => { s with data }) hback
      rw [MemoryStore.answer_create hcopied]
      refine ⟨rfl, ?_⟩
      rw [MemoryStore.after, if_pos hcopied]
      calc
        rows'.Perm (s :: rows) := hstored ▸ hrows
        List.Perm _ (s :: list) := hperm.cons s
        List.Perm _ (list ++ [s]) := (List.perm_append_singleton s list).symm
  | @refusesKey s _ hkey _ => exact absurd ((mem_ids_of_perm hperm _).1 hkey) (hnew s rfl)
  | refusesData hdata _ =>
      have hdepth : Json.copyDepth ≤ Json.columnDepth := by decide
      exact absurd ⟨hcommon.1, hcommon.2.1.trans hdepth⟩ hdata
  | @deletes id key _ hread hkey hrows =>
      obtain ⟨own, rfl⟩ | hnone := hcommon
      · rw [Uuid.read?_text, Option.some.injEq] at hread
        subst hread
        have hrest := MemoryStore.withoutId?_text_of_mem hids ((mem_ids_of_perm hperm _).1 hkey)
        refine ⟨?_, ?_⟩
        · simp only [Store.answer, Store.delete, MemoryStore.delete, hrest]
        · rw [MemoryStore.after, hrest]
          exact hrows.trans (hperm.filter _)
      · rw [hnone] at hread
        cases hread
  | misses hkey hrows =>
      have hrest := MemoryStore.withoutId?_of_not_mem fun key hread hmem =>
        hkey key hread ((mem_ids_of_perm hperm key).2 hmem)
      refine ⟨?_, ?_⟩
      · simp only [Store.answer, Store.delete, MemoryStore.delete, hrest]
      · rw [MemoryStore.after, hrest]
        exact hrows.trans hperm
  | selects hordered _ _ hrows =>
      refine ⟨?_, hrows.trans hperm⟩
      rw [(hordered.of_perm hperm).eq_sort htimes, hperm.length_eq]
      rfl
  | refusesBound hbound _ =>
      rcases hbound with hbound | hbound
      · exact absurd hcommon.1 (Nat.not_lt.2 hbound)
      · exact absurd hcommon.2 (Nat.not_lt.2 hbound)

/-- What the table does is one of the things that a database may do. -/
theorem answer_performs (rows : List Submission) (step : StoreStep) :
    ∃ rows', ((Store.database (some ⟨rows⟩)).answer step).2 = .database (some ⟨rows'⟩) ∧
      Performs rows step ((Store.database (some ⟨rows⟩)).answer step).1 rows' := by
  cases step with
  | create s =>
      by_cases hdata : Writable s.data
      · by_cases hkey : s.id ∈ ids rows
        · have hrow := (row?_isSome_iff ⟨rows⟩ s.id).2 hkey
          simp only [Store.answer, Store.create, insert, if_neg (not_not.2 hdata), if_pos hrow]
          exact ⟨rows, rfl, .refusesKey hkey (List.Perm.refl _)⟩
        · rw [answer_create hdata hkey]
          exact ⟨rows ++ [stored s], rfl, .creates hkey hdata
            (List.perm_append_singleton (stored s) rows)⟩
      · simp only [Store.answer, Store.create, insert, if_pos hdata]
        exact ⟨rows, rfl, .refusesData hdata (List.Perm.refl _)⟩
  | delete id =>
      cases hread : Uuid.read? id with
      | none =>
          simp only [Store.answer, Store.delete, hread]
          refine ⟨rows, rfl, .misses (fun key h => ?_) (List.Perm.refl _)⟩
          rw [hread] at h
          cases h
      | some key =>
          by_cases hkey : key ∈ ids rows
          · have hrow := (row?_isSome_iff ⟨rows⟩ key).2 hkey
            simp only [Store.answer, Store.delete, hread, delete, if_pos hrow]
            exact ⟨_, rfl, .deletes hread hkey (List.Perm.refl _)⟩
          · have hrow := mt (row?_isSome_iff ⟨rows⟩ key).1 hkey
            simp only [Store.answer, Store.delete, hread, delete, if_neg hrow]
            refine ⟨rows, rfl, .misses (fun other h => ?_) (List.Perm.refl _)⟩
            rw [hread] at h
            exact Option.some.inj h ▸ hkey
  | list r =>
      by_cases hbound : boundLimit ≤ r.offset ∨ boundLimit ≤ r.limit.value
      · simp only [Store.answer, Store.list, Store.listBy, select, if_pos hbound]
        exact ⟨rows, rfl, .refusesBound hbound (List.Perm.refl _)⟩
      · simp only [Store.answer, Store.list, Store.listBy, select, if_neg hbound]
        have hwords := not_or.1 hbound
        exact ⟨rows, rfl, .selects (RowOrder.indexed.arranged r rows)
          (Nat.lt_of_not_le hwords.1) (Nat.lt_of_not_le hwords.2) (List.Perm.refl _)⟩

/-! ## Runs -/

theorem answers_run (rows : List Submission) (steps : List StoreStep) :
    Runs rows steps ((Store.database (some ⟨rows⟩)).answers steps) := by
  induction steps generalizing rows with
  | nil => exact .done rows
  | cons step rest ih =>
      obtain ⟨rows', hnext, hperforms⟩ := answer_performs rows step
      rw [Store.answers, hnext]
      exact .step hperforms (ih rows')

/-- The invariant of a run: the submissions held and those still to be created have distinct ids
and distinct times. -/
structure Distinct (list : List Submission) (steps : List StoreStep) : Prop where
  ids_nodup : ((list ++ steps.filterMap StoreStep.created?).map Submission.id).Nodup
  times_nodup : ((list ++ steps.filterMap StoreStep.created?).map Submission.createdAt).Nodup

theorem filterMap_cons_created? (step : StoreStep) (rest : List StoreStep) :
    (step :: rest).filterMap StoreStep.created? =
      step.created?.toList ++ rest.filterMap StoreStep.created? := by
  rw [List.filterMap_cons]
  cases step.created? <;> rfl

theorem Distinct.after {list : List Submission} {step : StoreStep} {rest : List StoreStep}
    (h : Distinct list (step :: rest)) : Distinct (MemoryStore.after list step) rest := by
  have hsublist : (MemoryStore.after list step ++ rest.filterMap StoreStep.created?).Sublist
      (list ++ (step :: rest).filterMap StoreStep.created?) := by
    rw [filterMap_cons_created?, ← List.append_assoc]
    exact (MemoryStore.after_sublist list step).append (List.Sublist.refl _)
  exact ⟨h.ids_nodup.sublist (hsublist.map _), h.times_nodup.sublist (hsublist.map _)⟩

theorem Distinct.held {list : List Submission} {steps : List StoreStep}
    (h : Distinct list steps) :
    (ids list).Nodup ∧ (list.map Submission.createdAt).Nodup := by
  have hsublist : list.Sublist (list ++ steps.filterMap StoreStep.created?) :=
    List.sublist_append_left _ _
  exact ⟨h.ids_nodup.sublist (hsublist.map _), h.times_nodup.sublist (hsublist.map _)⟩

theorem Distinct.new {list : List Submission} {step : StoreStep} {rest : List StoreStep}
    (h : Distinct list (step :: rest)) : ∀ s ∈ step.created?, s.id ∉ ids list := by
  intro s hs hmem
  have hids := h.ids_nodup
  rw [filterMap_cons_created?, Option.mem_def.1 hs, List.map_append, List.nodup_append] at hids
  exact hids.2.2 _ hmem s.id (by simp) rfl

/-- Every run of a database gives the answers of the store in memory. -/
theorem runs_agree {rows list : List Submission} {steps : List StoreStep}
    {answers : List StoreAnswer} (h : Runs rows steps answers) (hperm : rows.Perm list)
    (hcommon : ∀ step ∈ steps, step.IsCommon) (hdistinct : Distinct list steps) :
    answers = (Store.memory ⟨list⟩).answers steps := by
  -- the rows stay a permutation of the list in memory, whose ids and times stay distinct
  induction h generalizing list with
  | done => rfl
  | @step rows rows' step answer rest answers hperforms hrest ih =>
      obtain ⟨hids, htimes⟩ := hdistinct.held
      obtain ⟨hanswer, hperm'⟩ := performs_agree hperm hids htimes
        (hcommon step List.mem_cons_self) hdistinct.new hperforms
      rw [Store.answers, hanswer, MemoryStore.answer_memory,
        ih hperm' (fun other hother => hcommon other (List.mem_cons_of_mem _ hother))
          hdistinct.after]

end Table

/-- Two submissions against the clock, a listing, and deletions by a canonical text and by a text
that names no id. -/
def mixedSteps : List StoreStep :=
  [.create ⟨1, 20, .obj []⟩, .create ⟨2, 10, .obj []⟩,
    .list ⟨.number 1, .number 10, .descending⟩, .delete (Uuid.text 1), .delete "none",
    .list ⟨.number 2, .number 1, .ascending⟩]

def nestedList : Nat → Json
  | 0 => .null
  | n + 1 => .arr [nestedList n]

theorem nesting_nestedList (n : Nat) : (nestedList n).nesting = n := by
  induction n with
  | zero => rfl
  | succ n ih =>
      rw [nestedList, Json.nesting, Json.nestingItems, ih, Json.nestingItems, Nat.max_zero]

theorem integerDigits_nestedList (n : Nat) : (nestedList n).integerDigits = 0 := by
  induction n with
  | zero => rfl
  | succ n ih =>
      rw [nestedList, Json.integerDigits, Json.integerDigitsItems, ih, Json.integerDigitsItems,
        Nat.max_self]

def nestedNote (n : Nat) : Json :=
  .obj [("note", nestedList n)]

end FormIntake
