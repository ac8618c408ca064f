import FormIntake.Proofs.Submission.Agreement
import FormIntake.Proofs.Submission.PageCount
/-!
# The pages of a listing

The pages of one limit, put together, are the sorted listing: they are slices
that begin where the one before ends, and the number of pages that each of them
reports is the least one with room for everything.
-/

namespace FormIntake

/-! ## Slices in a row -/

section Slices

variable {α : Type} (limit : Nat) (entries : List α)

/-- The first `pages` slices, together, are the entries as far as these slices reach. -/
theorem flatMap_slice (pages : Nat) :
    (List.range' 1 pages).flatMap (fun p => slice ((p - 1) * limit) limit entries) =
      entries.take (pages * limit) := by
  induction pages with
  | zero => rw [Nat.zero_mul, List.take_zero, List.range'_zero, List.flatMap_nil]
  | succ pages ih =>
      rw [List.range'_concat, List.flatMap_append, ih, List.flatMap_singleton, Nat.one_mul,
        Nat.add_sub_cancel_left, slice, Nat.succ_mul, List.take_add]

variable {limit entries}

theorem length_slice_of_le {offset : Nat} (h : offset + limit ≤ entries.length) :
    (slice offset limit entries).length = limit := by
  rw [slice, List.length_take, List.length_drop]
  omega

theorem length_slice_le (offset : Nat) : (slice offset limit entries).length ≤ limit :=
  List.length_take_le _ _

theorem length_slice_pos {offset : Nat} (hlimit : 1 ≤ limit) (h : offset < entries.length) :
    1 ≤ (slice offset limit entries).length := by
  rw [slice, List.length_take, List.length_drop]
  omega

end Slices

/-! ## Sorted listings -/

namespace SortOrder

/-- The second list is the first one sorted: each submission once, in order, and those of one time
in the order that they had. -/
structure Sorts (order : SortOrder) (list sorted : List Submission) : Prop where
  perm : sorted.Perm list
  pairwise : sorted.Pairwise fun a b => order.precedes a b = true
  stable : ∀ time, sorted.filter (·.createdAt = time) = list.filter (·.createdAt = time)

theorem precedes_of_eq (order : SortOrder) {a b : Submission} (h : a.createdAt = b.createdAt) :
    order.precedes a b = true := by
  cases order <;> exact decide_eq_true (by omega)

theorem filter_sort (order : SortOrder) (list : List Submission) (time : Int) :
    (order.sort list).filter (·.createdAt = time) = list.filter (·.createdAt = time) := by
  have hsame : ∀ s ∈ list.filter (·.createdAt = time), s.createdAt = time :=
    fun s hs => of_decide_eq_true (List.mem_filter.1 hs).2
  have hties : (list.filter (·.createdAt = time)).Pairwise
      fun a b => order.precedes a b = true :=
    List.pairwise_of_forall_mem_list fun a ha b hb =>
      order.precedes_of_eq ((hsame a ha).trans (hsame b hb).symm)
  have hkept : (list.filter (·.createdAt = time)).Sublist (order.sort list) :=
    List.sublist_mergeSort order.precedes_trans order.precedes_total hties List.filter_sublist
  have hinside := hkept.filter (·.createdAt = time)
  simp only [List.filter_filter, Bool.and_self] at hinside
  exact (hinside.eq_of_length ((order.sort_perm list).filter _).length_eq.symm).symm

theorem sorts_sort (order : SortOrder) (list : List Submission) :
    order.Sorts list (order.sort list) :=
  ⟨order.sort_perm list, order.sort_pairwise list, order.filter_sort list⟩

end SortOrder

/-! ## Pages -/

namespace MemoryStore

def page (m : MemoryStore) (limit : Count) (order : SortOrder) (p : Nat) : Listing :=
  m.list ⟨.number p, limit, order⟩

def pagesTo (m : MemoryStore) (limit : Count) (order : SortOrder) (pages : Nat) :
    List Submission :=
  (List.range' 1 pages).flatMap fun p => (m.page limit order p).items

/-- The listing comes in this many pages: all but the last one are full, and together they are
the submissions, sorted and each of them once. -/
structure ComesIn (m : MemoryStore) (limit : Count) (order : SortOrder) (pages : Nat) : Prop where
  pos : 1 ≤ pages
  reported : ∀ p, (m.page limit order p).total = m.submissions.length ∧
    (m.page limit order p).totalPages = .ok pages
  whole : m.pagesTo limit order pages = order.sort m.submissions
  sorts : order.Sorts m.submissions (m.pagesTo limit order pages)
  full : ∀ p, 1 ≤ p → p < pages → (m.page limit order p).items.length = limit.value
  last : m.submissions ≠ [] → 1 ≤ (m.page limit order pages).items.length ∧
    (m.page limit order pages).items.length ≤ limit.value
  beyond : ∀ p, pages < p → (m.page limit order p).items = []

theorem page_items (m : MemoryStore) (limit : Count) (order : SortOrder) (p : Nat) :
    (m.page limit order p).items =
      slice ((p - 1) * limit.value) limit.value (order.sort m.submissions) :=
  rfl

/-- Pages are neither lost nor counted too often: for every limit, and in both orders, the listing
comes in the number of pages that each page reports. -/
theorem listing_comes_in_pages (m : MemoryStore) (limit : Count) (order : SortOrder)
    (hlength : m.submissions.length < Double.exactBound) (hlimit : 1 ≤ limit.value)
    (hbound : limit.value ≤ Double.divisorBound) :
    ∃ pages, m.ComesIn limit order pages := by
  obtain ⟨before, htotal, hroom, hneeded⟩ := exists_totalPages_exact hlength hlimit hbound
  have hsort := order.sort_perm m.submissions
  have hwhole : m.pagesTo limit order (before + 1) = order.sort m.submissions := by
    simp only [pagesTo, page_items]
    rw [flatMap_slice, List.take_of_length_le]
    rwa [hsort.length_eq]
  refine ⟨before + 1, Nat.le_add_left 1 before, fun p => ⟨rfl, htotal⟩, hwhole, ?_, ?_, ?_, ?_⟩
  · rw [hwhole]
    exact order.sorts_sort m.submissions
  · intro p hp hlast
    have hfull : (p - 1) * limit.value + limit.value ≤ before * limit.value := by
      rw [← Nat.succ_mul]
      exact Nat.mul_le_mul_right _ (by omega)
    rw [page_items]
    apply length_slice_of_le
    rw [hsort.length_eq]
    rcases hneeded with rfl | hneeded <;> omega
  · intro hne
    have hpos := List.length_pos_of_ne_nil hne
    rw [page_items, Nat.add_sub_cancel]
    refine ⟨length_slice_pos hlimit ?_, length_slice_le _⟩
    rw [hsort.length_eq]
    rcases hneeded with rfl | hneeded <;> omega
  · intro p hp
    have hpast : (before + 1) * limit.value ≤ (p - 1) * limit.value :=
      Nat.mul_le_mul_right _ (by omega)
    rw [page_items]
    apply slice_eq_nil
    rw [hsort.length_eq]
    omega

def tied (first second third : Uuid) : MemoryStore :=
  ⟨[⟨first, 20, .obj []⟩, ⟨second, 10, .obj []⟩, ⟨third, 20, .obj []⟩]⟩

theorem tied_listing_comes_in_two :
    (tied 1 2 3).submissions.length < Double.exactBound ∧ 2 ≤ Double.divisorBound ∧
      (tied 1 2 3).ComesIn (.number 2) .descending 2 := by
  have hlength : (tied 1 2 3).submissions.length < Double.exactBound := by decide
  have hbound : 2 ≤ Double.divisorBound := by decide +kernel
  obtain ⟨pages, hpages⟩ :=
    listing_comes_in_pages (tied 1 2 3) (.number 2) .descending hlength (by decide) hbound
  have htotal : ((tied 1 2 3).page (.number 2) .descending 1).totalPages = .ok (2 : Nat) := by
    decide +kernel
  rw [(hpages.reported 1).2, Except.ok.injEq, Int.natCast_inj] at htotal
  subst htotal
  exact ⟨hlength, hbound, hpages⟩

end MemoryStore

end FormIntake
