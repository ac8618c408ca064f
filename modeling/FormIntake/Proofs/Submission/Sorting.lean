import FormIntake.Proofs.Submission.Interleaving
/-!
# Whole listings

A page with room for everything shows all that is held, sorted. The sort is
stable, and there is only one stably sorted list: so the two orders can be
compared time by time, and a deletion takes one submission out of each listing.
-/

namespace FormIntake

/-! ## Stable sorting -/

namespace SortOrder

variable {order : SortOrder}

theorem mem_iff_of_filter_eq {first second : List Submission}
    (h : ∀ time, first.filter (·.createdAt = time) = second.filter (·.createdAt = time))
    (s : Submission) : s ∈ first ↔ s ∈ second := by
  have hs := congrArg (s ∈ ·) (h s.createdAt)
  simpa using hs

/-- Lists in order are equal if they have the same submissions of every time, one after the other
in the same way. The induction takes off both heads, which are the first ones of the same time. -/
theorem eq_of_filter_eq {first second : List Submission}
    (hfirst : first.Pairwise fun a b => order.precedes a b = true)
    (hsecond : second.Pairwise fun a b => order.precedes a b = true)
    (h : ∀ time, first.filter (·.createdAt = time) = second.filter (·.createdAt = time)) :
    first = second := by
  have hmem := mem_iff_of_filter_eq h
  induction first generalizing second with
  | nil =>
      cases second with
      | nil => rfl
      | cons b second => exact absurd ((hmem b).2 List.mem_cons_self) List.not_mem_nil
  | cons a first ih =>
      cases second with
      | nil => exact absurd ((hmem a).1 List.mem_cons_self) List.not_mem_nil
      | cons b second =>
          obtain ⟨hafter, hfirstTail⟩ := List.pairwise_cons.1 hfirst
          obtain ⟨hbefore, hsecondTail⟩ := List.pairwise_cons.1 hsecond
          have htime : a.createdAt = b.createdAt := by
            rcases List.mem_cons.1 ((hmem a).1 List.mem_cons_self) with rfl | ha
            · rfl
            · rcases List.mem_cons.1 ((hmem b).2 List.mem_cons_self) with rfl | hb
              · rfl
              · exact precedes_antisymm (hafter b hb) (hbefore a ha)
          have hheads := h b.createdAt
          rw [List.filter_cons_of_pos (by simpa using htime),
            List.filter_cons_of_pos (by simp)] at hheads
          obtain ⟨rfl, -⟩ := List.cons.inj hheads
          have htails : ∀ time, first.filter (·.createdAt = time) =
              second.filter (·.createdAt = time) := by
            intro time
            have htime := h time
            rw [List.filter_cons, List.filter_cons] at htime
            split at htime
            · exact (List.cons.inj htime).2
            · exact htime
          rw [ih hfirstTail hsecondTail htails (mem_iff_of_filter_eq htails)]

/-- There is only one way to sort a list stably. -/
theorem Sorts.unique {list first second : List Submission} (hfirst : order.Sorts list first)
    (hsecond : order.Sorts list second) : first = second :=
  eq_of_filter_eq hfirst.pairwise hsecond.pairwise fun time =>
    (hfirst.stable time).trans (hsecond.stable time).symm

/-- Without one submission, the list is sorted as with it, that one left out. -/
theorem exists_sort_without (order : SortOrder) (before after : List Submission)
    (s : Submission) :
    ∃ sooner later, order.sort (before ++ s :: after) = sooner ++ s :: later ∧
      order.sort (before ++ after) = sooner ++ later := by
  have hsorts := order.sorts_sort (before ++ s :: after)
  -- Of the places where `s` may stand, it is the one among the submissions of its time.
  have hties := hsorts.stable s.createdAt
  rw [List.filter_append, List.filter_cons_of_pos (by simp), List.filter_eq_append_iff] at hties
  obtain ⟨sooner, others, hsplit, hsooner, hothers⟩ := hties
  obtain ⟨between, later, rfl, hbetween, -, hlater⟩ := List.filter_eq_cons_iff.1 hothers
  have hwhole : order.sort (before ++ s :: after) = (sooner ++ between) ++ s :: later := by
    rw [hsplit, List.append_assoc]
  refine ⟨sooner ++ between, later, hwhole, ?_⟩
  have hless : ((sooner ++ between) ++ later).Sublist (order.sort (before ++ s :: after)) := by
    rw [hwhole]
    exact (List.Sublist.refl _).append (List.sublist_cons_self _ _)
  refine eq_of_filter_eq (order.sort_pairwise _) (hsorts.pairwise.sublist hless) ?_
  intro time
  rw [order.filter_sort]
  by_cases htime : s.createdAt = time
  · subst htime
    have hnone : between.filter (·.createdAt = s.createdAt) = [] :=
      List.filter_eq_nil_iff.2 hbetween
    rw [List.filter_append, List.filter_append, List.filter_append, hsooner, hnone, hlater,
      List.append_nil]
  · have hdrop : ∀ front rest : List Submission, (front ++ s :: rest).filter (·.createdAt = time) =
        (front ++ rest).filter (·.createdAt = time) := by
      intro front rest
      rw [List.filter_append, List.filter_cons_of_neg (by simpa using htime), List.filter_append]
    calc
      (before ++ after).filter (·.createdAt = time) =
          (before ++ s :: after).filter (·.createdAt = time) := (hdrop before after).symm
      _ = ((sooner ++ between) ++ s :: later).filter (·.createdAt = time) := by
        rw [← hwhole, hsorts.stable time]
      _ = ((sooner ++ between) ++ later).filter (·.createdAt = time) := hdrop _ _

/-- If no two times are equal, one order is the other one backwards. -/
theorem sort_descending_eq_reverse {list : List Submission}
    (h : (list.map Submission.createdAt).Nodup) :
    descending.sort list = (ascending.sort list).reverse := by
  have hbackwards : (ascending.sort list).reverse.Pairwise
      fun a b => descending.precedes a b = true :=
    List.pairwise_reverse.2 (ascending.sort_pairwise list)
  exact (Arranges.eq_sort ⟨(List.reverse_perm _).trans (ascending.sort_perm list), hbackwards⟩
    h).symm

end SortOrder

/-! ## Listings of a store -/

namespace MemoryStore

def listing (m : MemoryStore) (order : SortOrder) : List Submission :=
  (m.list ⟨.number 1, .number (max m.submissions.length 1), order⟩).items

/-- Both listings of a store are its submissions, stably sorted. -/
structure ListsSorted (m : MemoryStore) : Prop where
  /-- More room makes no difference. -/
  whole : ∀ order (limit : Count), m.submissions.length ≤ limit.value →
    (m.list ⟨.number 1, limit, order⟩).items = m.listing order
  sorts : ∀ order : SortOrder, order.Sorts m.submissions (m.listing order)
  reversed : (m.submissions.map Submission.createdAt).Nodup →
    m.listing .descending = (m.listing .ascending).reverse
  /-- The deletion of an id that is held takes its submission out of both listings, and leaves the
  others in their places. -/
  without : ∀ id, (∃ s ∈ m.submissions, s.id.text = id) → ∃ s rest, m.delete id = (true, rest) ∧
    s.id.text = id ∧ s ∈ m.submissions ∧ ∀ order, ∃ sooner later,
      m.listing order = sooner ++ s :: later ∧ rest.listing order = sooner ++ later
  unheld : ∀ id, (∀ s ∈ m.submissions, s.id.text ≠ id) → m.delete id = (false, m)

theorem list_items_of_le (m : MemoryStore) (order : SortOrder) {limit : Count}
    (h : m.submissions.length ≤ limit.value) :
    (m.list ⟨.number 1, limit, order⟩).items = order.sort m.submissions := by
  have hoffset : (⟨.number 1, limit, order⟩ : PageRequest).offset = 0 := Nat.zero_mul _
  simp only [list, hoffset, slice, List.drop_zero]
  rw [List.take_of_length_le]
  rwa [(order.sort_perm m.submissions).length_eq]

theorem listing_eq_sort (m : MemoryStore) (order : SortOrder) :
    m.listing order = order.sort m.submissions :=
  m.list_items_of_le order (Nat.le_max_left _ _)

/-- An id that is held is found. The first submission with it goes, out of both listings. -/
theorem delete_of_held (m : MemoryStore) (id : Text) (h : ∃ s ∈ m.submissions, s.id.text = id) :
    ∃ s rest, m.delete id = (true, rest) ∧ s.id.text = id ∧ s ∈ m.submissions ∧
      ∀ order, ∃ sooner later,
        m.listing order = sooner ++ s :: later ∧ rest.listing order = sooner ++ later := by
  obtain ⟨held, hheld, hid⟩ := h
  obtain ⟨found, rest, hdelete⟩ : ∃ found rest, m.delete id = (found, rest) := ⟨_, _, rfl⟩
  cases found with
  | false => exact absurd hid ((forall_ne_of_delete hdelete).1 held hheld)
  | true =>
      obtain ⟨before, s, after, hs, hall, hrest⟩ := split_of_delete hdelete
      refine ⟨s, rest, hdelete, hs, ?_, fun order => ?_⟩
      · rw [hall]
        exact List.mem_append_right _ List.mem_cons_self
      · simp only [listing_eq_sort, hall, hrest]
        exact order.exists_sort_without before after s

/-- The submissions held are among those there were and those created since, in that order. -/
theorem afterAll_sublist {list left : List Submission} {steps : List StoreStep}
    (h : (Store.memory ⟨list⟩).afterAll steps = .memory ⟨left⟩) :
    left.Sublist (list ++ steps.filterMap StoreStep.created?) := by
  induction steps generalizing list with
  | nil =>
      injection h with h
      injection h with h
      rw [← h]
      exact List.sublist_append_left _ _
  | cons step rest ih =>
      have hrest : (Store.memory ⟨after list step⟩).afterAll rest = .memory ⟨left⟩ := by
        rw [← answer_memory]
        exact h
      calc
        left.Sublist (after list step ++ rest.filterMap StoreStep.created?) := ih hrest
        List.Sublist _ ((list ++ step.created?.toList) ++ rest.filterMap StoreStep.created?) :=
          (after_sublist list step).append (List.Sublist.refl _)
        _ = list ++ (step :: rest).filterMap StoreStep.created? := by
          rw [Table.filterMap_cons_created?, List.append_assoc]

/-- Listings are stably sorted in both orders, whatever the clock has done and whatever has been
deleted in between. Of a run from an empty store, what is held stands in the order of creation. -/
theorem listing_is_stably_sorted (m : MemoryStore) :
    m.ListsSorted ∧ ∀ steps, (Store.memory .empty).afterAll steps = .memory m →
      m.submissions.Sublist (steps.filterMap StoreStep.created?) := by
  refine ⟨⟨?_, ?_, ?_, m.delete_of_held, ?_⟩, ?_⟩
  · intro order limit hlimit
    rw [m.list_items_of_le order hlimit, listing_eq_sort]
  · intro order
    rw [listing_eq_sort]
    exact order.sorts_sort m.submissions
  · intro htimes
    rw [listing_eq_sort, listing_eq_sort]
    exact SortOrder.sort_descending_eq_reverse htimes
  · intro id hnone
    rw [delete, (withoutId?_eq_none_iff id m.submissions).2 hnone]
  · intro steps hsteps
    exact afterAll_sublist hsteps

def tiedSteps (first second third : Uuid) : List StoreStep :=
  (tied first second third).submissions.map .create

/-- One of two submissions of one time is deleted, and an id that is not held is not. -/
theorem tied_submission_is_deleted :
    ((Store.memory .empty).afterAll (tiedSteps 1 2 3) = .memory (tied 1 2 3) ∧
        (tied 1 2 3).submissions.Sublist ((tiedSteps 1 2 3).filterMap StoreStep.created?)) ∧
      (∃ rest, (tied 1 2 3).delete (Uuid.text 1) = (true, rest) ∧ ∀ order, ∃ sooner later,
        (tied 1 2 3).listing order = sooner ++ ⟨1, 20, .obj []⟩ :: later ∧
          rest.listing order = sooner ++ later) ∧
      (tied 1 2 3).delete (Uuid.text 4) = (false, tied 1 2 3) := by
  obtain ⟨hsorted, hrun⟩ := listing_is_stably_sorted (tied 1 2 3)
  refine ⟨⟨rfl, hrun (tiedSteps 1 2 3) rfl⟩, ?_, hsorted.unheld _ ?_⟩
  · obtain ⟨s, rest, hdelete, hid, hs, hlistings⟩ :=
      hsorted.without (Uuid.text 1) ⟨_, List.mem_cons_self, rfl⟩
    have heq : s = ⟨1, 20, .obj []⟩ := by
      rcases List.mem_cons.1 hs with rfl | hs
      · rfl
      · have hmem : s.id ∈ ([2, 3] : List Uuid) := List.mem_map_of_mem hs
        rw [Uuid.text_injective hid] at hmem
        exact absurd hmem (by decide)
    rw [heq] at hlistings
    exact ⟨rest, hdelete, hlistings⟩
  · intro s hs hid
    have hmem : s.id ∈ ([1, 2, 3] : List Uuid) := List.mem_map_of_mem hs
    rw [Uuid.text_injective hid] at hmem
    exact absurd hmem (by decide)

/-- Of two submissions of one time, the one created first comes first in both orders. -/
example : ((tied 1 2 3).listing .ascending).map Submission.id = [2, 1, 3] ∧
    ((tied 1 2 3).listing .descending).map Submission.id = [1, 3, 2] := by cbv

end MemoryStore

end FormIntake
