/-!
# Insertion-ordered maps

A finite map as a list of pairs in the order in which its keys came in.
Replacing the value of a key keeps the key's place.
-/

namespace FormIntake

abbrev Assoc (κ α : Type) := List (κ × α)

namespace Assoc

variable {κ α : Type} [DecidableEq κ]

def get? (m : Assoc κ α) (key : κ) : Option α :=
  match m with
  | [] => none
  | (k, v) :: rest => if k = key then some v else get? rest key

def contains (m : Assoc κ α) (key : κ) : Bool :=
  (get? m key).isSome

def put (m : Assoc κ α) (key : κ) (value : α) : Assoc κ α :=
  match m with
  | [] => [(key, value)]
  | (k, v) :: rest => if k = key then (key, value) :: rest else (k, v) :: put rest key value

def keys (m : Assoc κ α) : List κ :=
  m.map Prod.fst

/-- The map that pairs make one after the other. Of several values of a key the last one counts. -/
def ofPairs (pairs : List (κ × α)) : Assoc κ α :=
  pairs.foldl (fun m (key, value) => put m key value) []

@[simp] theorem get?_nil (key : κ) : get? ([] : Assoc κ α) key = none := rfl

theorem get?_put (m : Assoc κ α) (key : κ) (value : α) (k : κ) :
    get? (put m key value) k = if key = k then some value else get? m k := by
  induction m with
  | nil => simp [put, get?]
  | cons entry rest ih =>
    obtain ⟨j, v⟩ := entry
    by_cases h : j = key
    · subst h
      by_cases hk : j = k <;> simp [put, get?, hk]
    · by_cases hk : j = k
      · subst hk
        simp [put, get?, h, Ne.symm h]
      · simp [put, get?, h, hk, ih]

theorem get?_eq_none_iff (m : Assoc κ α) (key : κ) : get? m key = none ↔ key ∉ keys m := by
  induction m with
  | nil => simp [keys]
  | cons entry rest ih =>
    obtain ⟨j, v⟩ := entry
    by_cases h : j = key
    · simp [get?, keys, h]
    · have ih : get? rest key = none ↔ key ∉ rest.map Prod.fst := ih
      simp [get?, keys, h, ih, Ne.symm h]

theorem mem_of_get? {m : Assoc κ α} {key : κ} {value : α} (h : get? m key = some value) :
    (key, value) ∈ m := by
  induction m with
  | nil => cases h
  | cons entry rest ih =>
    obtain ⟨k, v⟩ := entry
    unfold get? at h
    split at h
    · rename_i hk
      rw [← Option.some.inj h, hk]
      exact List.mem_cons_self
    · exact List.mem_cons_of_mem _ (ih h)

theorem eq_or_mem_of_mem_put {m : Assoc κ α} {key : κ} {value : α} {entry : κ × α}
    (h : entry ∈ put m key value) : entry = (key, value) ∨ entry ∈ m := by
  induction m with
  | nil => exact Or.inl (List.mem_singleton.1 h)
  | cons first rest ih =>
    obtain ⟨k, v⟩ := first
    unfold put at h
    split at h
    · exact (List.mem_cons.1 h).imp_right (List.mem_cons_of_mem _)
    · rcases List.mem_cons.1 h with rfl | hmem
      · exact Or.inr List.mem_cons_self
      · exact (ih hmem).imp_right (List.mem_cons_of_mem _)

/-- A new key goes to the end; a known one keeps its place. -/
theorem keys_put (m : Assoc κ α) (key : κ) (value : α) :
    keys (put m key value) = if key ∈ keys m then keys m else keys m ++ [key] := by
  induction m with
  | nil => simp [put, keys]
  | cons entry rest ih =>
    obtain ⟨j, v⟩ := entry
    by_cases h : j = key
    · simp [put, keys, h]
    · have ih : (put rest key value).map Prod.fst =
          if key ∈ rest.map Prod.fst then rest.map Prod.fst else rest.map Prod.fst ++ [key] := ih
      by_cases hm : key ∈ rest.map Prod.fst
      · rw [if_pos hm] at ih
        simp only [put, keys, h, if_false, List.map_cons, ih]
        rw [if_pos (List.mem_cons_of_mem j hm)]
      · rw [if_neg hm] at ih
        simp only [put, keys, h, if_false, List.map_cons, ih]
        rw [if_neg (by simp only [List.mem_cons, not_or]; exact ⟨Ne.symm h, hm⟩)]
        rfl

theorem nodup_keys_put {m : Assoc κ α} (h : (keys m).Nodup) (key : κ) (value : α) :
    (keys (put m key value)).Nodup := by
  rw [keys_put]
  split
  · exact h
  · rename_i hnew
    rw [List.nodup_append]
    refine ⟨h, List.nodup_cons.2 ⟨List.not_mem_nil, List.nodup_nil⟩, ?_⟩
    rintro a ha b hb rfl
    rw [List.mem_singleton] at hb
    exact hnew (hb ▸ ha)

theorem get?_filter {m : Assoc κ α} (h : (keys m).Nodup) (p : α → Bool) (key : κ) :
    get? (m.filter fun entry => p entry.2) key = (get? m key).filter p := by
  induction m with
  | nil => rfl
  | cons entry rest ih =>
    obtain ⟨k, v⟩ := entry
    have hrest : k ∉ keys rest ∧ (keys rest).Nodup := List.nodup_cons.1 h
    have ih := ih hrest.2
    by_cases hk : k = key
    · subst hk
      have hnone : get? rest k = none := (get?_eq_none_iff rest k).2 hrest.1
      by_cases hp : p v = true
      · simp [get?, hp, Option.filter]
      · simp [get?, hp, ih, hnone, Option.filter]
    · by_cases hp : p v = true
      · simp [get?, hp, hk, ih]
      · simp [get?, hp, hk, ih]

end Assoc

end FormIntake
