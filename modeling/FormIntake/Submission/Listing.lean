import FormIntake.Submission.Paging
import FormIntake.Uuid
/-!
# Listings

An accepted submission, and the page of submissions that answers a request.
-/

namespace FormIntake

structure Submission where
  id : Uuid
  /-- Microseconds since 1970-01-01 in UTC. -/
  createdAt : Int
  data : Json

namespace SortOrder

def precedes (order : SortOrder) (a b : Submission) : Bool :=
  match order with
  | ascending => a.createdAt ≤ b.createdAt
  | descending => b.createdAt ≤ a.createdAt

/-- Sorts by time of creation; those of one time keep their places. -/
def sort (order : SortOrder) (submissions : List Submission) : List Submission :=
  submissions.mergeSort order.precedes

theorem precedes_trans (order : SortOrder) (a b c : Submission)
    (hab : order.precedes a b = true) (hbc : order.precedes b c = true) :
    order.precedes a c = true := by
  cases order <;> simp only [precedes, decide_eq_true_eq] at * <;> omega

theorem precedes_total (order : SortOrder) (a b : Submission) :
    (order.precedes a b || order.precedes b a) = true := by
  cases order <;> simp only [precedes, Bool.or_eq_true, decide_eq_true_eq] <;> omega

theorem sort_perm (order : SortOrder) (list : List Submission) : (order.sort list).Perm list :=
  List.mergeSort_perm _ _

theorem sort_pairwise (order : SortOrder) (list : List Submission) :
    (order.sort list).Pairwise fun a b => order.precedes a b = true :=
  List.pairwise_mergeSort order.precedes_trans order.precedes_total list

structure Arranges (order : SortOrder) (list ordered : List Submission) : Prop where
  perm : ordered.Perm list
  sorted : ordered.Pairwise fun a b => order.precedes a b = true

theorem arranges_sort (order : SortOrder) (list : List Submission) :
    order.Arranges list (order.sort list) :=
  ⟨order.sort_perm list, order.sort_pairwise list⟩

end SortOrder

/-- How a database brings rows in the order that a request asks for. Rows of one time may come in
any way, and in another one for the next request. -/
structure RowOrder where
  arrange : PageRequest → List Submission → List Submission
  arranged : ∀ (r : PageRequest) (rows : List Submission), r.order.Arranges rows (arrange r rows)

/-- The rows as they stand in an index on the time of creation, read forwards or backwards. -/
def RowOrder.indexed : RowOrder where
  arrange r rows :=
    match r.order with
    | .ascending => SortOrder.ascending.sort rows
    | .descending => (SortOrder.ascending.sort rows).reverse
  arranged r rows := by
    cases r.order with
    | ascending => exact SortOrder.ascending.arranges_sort rows
    | descending =>
        obtain ⟨hperm, hsorted⟩ := SortOrder.ascending.arranges_sort rows
        exact ⟨(List.reverse_perm _).trans hperm, List.pairwise_reverse.2 hsorted⟩

structure Listing where
  items : List Submission
  total : Nat
  request : PageRequest

namespace Listing

def totalPages (l : Listing) : Except PagingFault Int :=
  FormIntake.totalPages l.total l.request.limit.value

end Listing

def slice {α : Type} (offset limit : Nat) (entries : List α) : List α :=
  (entries.drop offset).take limit

end FormIntake
