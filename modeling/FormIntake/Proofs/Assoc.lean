import FormIntake.Assoc
import Mathlib.Data.List.Induction
/-!
# Maps made of pairs

What a map holds that pairs make one after the other: for each key the last
value, and nothing that is not among the pairs. Pairs with distinct keys are
the map.
-/

namespace FormIntake.Assoc

variable {κ κ' α β : Type} [DecidableEq κ] [DecidableEq κ']

theorem get?_append (m m' : Assoc κ α) (key : κ) :
    get? (m ++ m') key = (get? m key).or (get? m' key) := by
  induction m with
  | nil => rfl
  | cons entry rest ih =>
      obtain ⟨k, v⟩ := entry
      by_cases hk : k = key
      · simp [get?, hk]
      · simp [get?, hk, ih]

theorem put_of_not_mem {m : Assoc κ α} {key : κ} (h : key ∉ keys m) (value : α) :
    put m key value = m ++ [(key, value)] := by
  induction m with
  | nil => rfl
  | cons entry rest ih =>
      obtain ⟨k, v⟩ := entry
      obtain ⟨hk, hrest⟩ := not_or.1 (mt List.mem_cons.2 h)
      rw [put, if_neg (Ne.symm hk), ih hrest, List.cons_append]

omit [DecidableEq κ] in
theorem keys_append (m m' : Assoc κ α) : keys (m ++ m') = keys m ++ keys m' :=
  List.map_append

theorem ofPairs_append_singleton (pairs : List (κ × α)) (pair : κ × α) :
    ofPairs (pairs ++ [pair]) = put (ofPairs pairs) pair.1 pair.2 := by
  rw [ofPairs, List.foldl_append]
  rfl

theorem nodup_keys_ofPairs (pairs : List (κ × α)) : (keys (ofPairs pairs)).Nodup := by
  induction pairs using List.reverseRecOn with
  | nil => exact List.nodup_nil
  | append_singleton pairs pair ih =>
      rw [ofPairs_append_singleton]
      exact nodup_keys_put ih pair.1 pair.2

theorem mem_of_mem_ofPairs {pairs : List (κ × α)} {entry : κ × α} (h : entry ∈ ofPairs pairs) :
    entry ∈ pairs := by
  induction pairs using List.reverseRecOn with
  | nil => cases h
  | append_singleton pairs pair ih =>
      rw [ofPairs_append_singleton] at h
      rcases eq_or_mem_of_mem_put h with rfl | hmem
      · exact List.mem_append_right _ (List.mem_singleton_self _)
      · exact List.mem_append_left _ (ih hmem)

theorem ofPairs_eq_self {pairs : List (κ × α)} (h : (keys pairs).Nodup) : ofPairs pairs = pairs := by
  induction pairs using List.reverseRecOn with
  | nil => rfl
  | append_singleton pairs pair ih =>
      rw [keys_append, List.nodup_append] at h
      have hnew : pair.1 ∉ keys pairs := fun hmem => h.2.2 _ hmem _ (List.mem_singleton_self _) rfl
      rw [ofPairs_append_singleton, ih h.1, put_of_not_mem hnew]

/-- Renaming the keys of a map leaves the value of a key in place, if no other key gets its new
name. -/
theorem get?_ofPairs_map {f : κ → κ'} {g : α → β} {m : Assoc κ α} {key : κ}
    (hkeys : (keys m).Nodup) (hf : ∀ k ∈ keys m, f k = f key → k = key) :
    get? (ofPairs (m.map fun entry => (f entry.1, g entry.2))) (f key) = (get? m key).map g := by
  induction m using List.reverseRecOn with
  | nil => rfl
  | append_singleton m entry ih =>
      obtain ⟨k, v⟩ := entry
      rw [keys_append] at hkeys hf
      have hk := hf k (List.mem_append_right _ (List.mem_singleton_self k))
      have hnew : k ∉ keys m :=
        fun hmem => (List.nodup_append.1 hkeys).2.2 k hmem k (List.mem_singleton_self k) rfl
      have hmap := ih (List.nodup_append.1 hkeys).1
        fun j hj => hf j (List.mem_append_left _ hj)
      rw [List.map_append, List.map_singleton, ofPairs_append_singleton, get?_put, hmap,
        get?_append]
      by_cases heq : k = key
      · subst heq
        rw [if_pos rfl, (get?_eq_none_iff m k).2 hnew]
        simp [get?]
      · rw [if_neg (mt hk heq)]
        simp [get?, heq]

end FormIntake.Assoc
