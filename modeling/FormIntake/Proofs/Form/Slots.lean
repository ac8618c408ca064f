import FormIntake.Proofs.Form.Grammar
import FormIntake.Proofs.Form.Reader
import Mathlib.Data.List.Nodup
import Mathlib.Data.List.Pairwise
/-!
# Slots of an object

An object fills a row of slots exactly if the reader finds a value that is taken
in every slot and nothing else. So an object is decided slot by slot.
-/

namespace FormIntake

namespace Members

variable {α : Type}

section

variable {members : Members}

theorem find?_eq_none_iff {key : Key} :
    members.find? key = none ↔ ∀ name ∈ key, name ∉ Assoc.keys members := by
  simp only [find?, List.findSome?_eq_none_iff, Option.map_eq_none_iff, Assoc.get?_eq_none_iff]

@[simp] theorem find?_nil : members.find? [] = none := rfl

@[simp] theorem find?_cons (spelling : Text) (key : Key) :
    members.find? (spelling :: key) =
      ((Assoc.get? members spelling).map (spelling, ·)).or (members.find? key) := by
  unfold find?
  cases h : Assoc.get? members spelling <;> simp [h]

theorem find?_singleton (name : Text) :
    members.find? [name] = (Assoc.get? members name).map (name, ·) := by
  rw [find?_cons]
  exact Option.or_none

theorem exists_find?_singleton {name : Text} {P : Json → Prop} :
    (∃ spelling v, members.find? [name] = some (spelling, v) ∧ P v) ↔
      ∃ v, Assoc.get? members name = some v ∧ P v := by
  rw [find?_singleton]
  cases Assoc.get? members name <;> simp

theorem mem_keys_iff {name : Text} :
    name ∈ Assoc.keys members ↔ ∃ value, Assoc.get? members name = some value := by
  rw [← Option.ne_none_iff_exists', ne_eq, Assoc.get?_eq_none_iff, not_not]

theorem mem_others_iff {keys : List Key} {name : Text} :
    name ∈ members.others keys ↔ name ∈ Assoc.keys members ∧
      ∀ key ∈ keys, ∀ v, members.find? key ≠ some (name, v) := by
  simp only [Members.others, List.mem_filter, Bool.not_eq_true', List.contains_eq_mem,
    decide_eq_false_iff_not, List.mem_filterMap, Option.map_eq_some_iff, not_exists, not_and,
    Prod.exists, exists_and_right, exists_eq_right]

theorem find?_of_one_spelling {key : Key} {name : Text} {v : Json} (hname : name ∈ key)
    (hget : Assoc.get? members name = some v)
    (hone : ∀ a ∈ key, a ∈ Assoc.keys members → a = name) :
    members.find? key = some (name, v) := by
  cases hfind : members.find? key with
  | none =>
      have habsent := find?_eq_none_iff.1 hfind name hname
      exact absurd (mem_keys_iff.2 ⟨v, hget⟩) habsent
  | some found =>
      obtain ⟨a, w⟩ := found
      obtain ⟨ha, hgeta⟩ := find?_eq_some hfind
      obtain rfl := hone a ha (mem_keys_iff.2 ⟨w, hgeta⟩)
      rw [hget] at hgeta
      rw [Option.some.inj hgeta]

end

variable (members : Members)

theorem decides_given {key : Key} {default : α} {read : Json → Checked α} {Good Big : Json → Prop}
    (h : ∀ v, Checked.Decides (Good v) (Big v) (read v)) :
    Checked.Decides (∀ name v, members.find? key = some (name, v) → Good v)
      (∃ name v, members.find? key = some (name, v) ∧ Big v)
      (members.given key default read) := by
  unfold given
  cases hfind : members.find? key with
  | none =>
      exact Checked.decides_accepted default (by simp) (by simp)
  | some found =>
      obtain ⟨name, v⟩ := found
      apply ((h v).under (.key name)).congr
      · simp
      · simp

theorem decides_needed (name : Text) {read : Json → Checked α} {Good Big : Json → Prop}
    (h : ∀ v, Checked.Decides (Good v) (Big v) (read v)) :
    Checked.Decides (∃ v, Assoc.get? members name = some v ∧ Good v)
      (∃ v, Assoc.get? members name = some v ∧ Big v) (members.needed name read) := by
  unfold needed
  cases hget : Assoc.get? members name with
  | none =>
      exact (Checked.decides_reject .missing (by simp) (by simp)).under (.key name)
  | some v =>
      apply ((h v).under (.key name)).congr
      · simp
      · simp

theorem decides_nothingElse (keys : List Key) :
    Checked.Decides (members.others keys = []) False (members.nothingElse keys) := by
  unfold nothingElse
  cases hothers : members.others keys with
  | nil => exact Checked.decides_accepted () rfl not_false
  | cons name rest => exact ⟨by simp, by simp, by simp⟩

end Members

namespace Form

/-- A slot is used as it should be, as far as the reader looks: under the spelling that counts. -/
def Slot.Holds (members : Members) (slot : Slot) : Prop :=
  (∀ name v, members.find? slot.key = some (name, v) → slot.Takes v) ∧
    (slot.needed = true → members.find? slot.key ≠ none)

variable {members : Members} {slots : List Slot}

theorem slot_eq_of_mem (h : (slots.flatMap Slot.key).Nodup) {s u : Slot} (hs : s ∈ slots)
    (hu : u ∈ slots) {name : Text} (hsname : name ∈ s.key) (huname : name ∈ u.key) : s = u := by
  by_contra hne
  have hsymm : Std.Symm (Function.onFun List.Disjoint Slot.key) :=
    ⟨fun _ _ hdisjoint _ hu hs => hdisjoint hs hu⟩
  exact (List.nodup_flatMap.1 h).2.forall hs hu hne hsname huname

/-- An object fills its slots if every slot holds and nothing else is there. -/
theorem fills_iff (h : (slots.flatMap Slot.key).Nodup) :
    Fills members slots ↔
      (∀ slot ∈ slots, slot.Holds members) ∧ members.others (slots.map Slot.key) = [] := by
  constructor
  · intro hfills
    refine ⟨?_, ?_⟩
    · intro slot hslot
      refine ⟨?_, ?_⟩
      · intro name v hfind
        obtain ⟨hname, hget⟩ := Members.find?_eq_some hfind
        exact hfills.taken slot hslot name hname v hget
      · intro hneeded hnone
        obtain ⟨name, hname, hthere⟩ := hfills.there slot hslot hneeded
        exact Members.find?_eq_none_iff.1 hnone name hname hthere
    · rw [List.eq_nil_iff_forall_not_mem]
      intro name hother
      obtain ⟨hthere, hnot⟩ := Members.mem_others_iff.1 hother
      obtain ⟨slot, hslot, hname⟩ := hfills.known name hthere
      obtain ⟨v, hget⟩ := Members.mem_keys_iff.1 hthere
      have hfind := Members.find?_of_one_spelling hname hget
        fun a ha hathere => hfills.one_spelling slot hslot a ha name hname hathere hthere
      exact hnot slot.key (List.mem_map_of_mem hslot) v hfind
  · rintro ⟨hholds, hothers⟩
    -- Whatever is there was found, and under its own slot.
    have hfound : ∀ slot ∈ slots, ∀ name ∈ slot.key, name ∈ Assoc.keys members →
        ∃ v, members.find? slot.key = some (name, v) := by
      intro slot hslot name hname hthere
      by_contra hnot
      have hother : name ∈ members.others (slots.map Slot.key) := by
        refine Members.mem_others_iff.2 ⟨hthere, ?_⟩
        intro key hkey v hfind
        obtain ⟨u, hu, rfl⟩ := List.mem_map.1 hkey
        obtain rfl := slot_eq_of_mem h hslot hu hname (Members.find?_eq_some hfind).1
        exact hnot ⟨v, hfind⟩
      rw [hothers] at hother
      cases hother
    refine ⟨?_, ?_, ?_, ?_⟩
    · intro name hthere
      by_contra hunknown
      have hother : name ∈ members.others (slots.map Slot.key) := by
        refine Members.mem_others_iff.2 ⟨hthere, ?_⟩
        intro key hkey v hfind
        obtain ⟨u, hu, rfl⟩ := List.mem_map.1 hkey
        exact hunknown ⟨u, hu, (Members.find?_eq_some hfind).1⟩
      rw [hothers] at hother
      cases hother
    · intro slot hslot a ha b hb hathere hbthere
      obtain ⟨v, hfinda⟩ := hfound slot hslot a ha hathere
      obtain ⟨w, hfindb⟩ := hfound slot hslot b hb hbthere
      rw [hfinda] at hfindb
      exact (Prod.mk.inj (Option.some.inj hfindb)).1
    · intro slot hslot name hname v hget
      obtain ⟨w, hfind⟩ := hfound slot hslot name hname (Members.mem_keys_iff.2 ⟨v, hget⟩)
      have hgetw := (Members.find?_eq_some hfind).2
      rw [hget] at hgetw
      rw [Option.some.inj hgetw]
      exact (hholds slot hslot).1 name w hfind
    · intro slot hslot hneeded
      obtain ⟨⟨name, v⟩, hfind⟩ := Option.ne_none_iff_exists'.1 ((hholds slot hslot).2 hneeded)
      obtain ⟨hname, hget⟩ := Members.find?_eq_some hfind
      exact ⟨name, hname, Members.mem_keys_iff.2 ⟨v, hget⟩⟩

theorem holds_needed_iff {name : Text} {Takes : Json → Prop} :
    (⟨[name], true, Takes⟩ : Slot).Holds members ↔
      ∃ v, Assoc.get? members name = some v ∧ Takes v := by
  simp only [Slot.Holds, Members.find?_singleton]
  cases Assoc.get? members name <;> simp

/-- An object is decided by its slots if it is read slot by slot and nothing else may be there. -/
theorem Fills.decided {α : Type} {read : Checked α} {Good Big : Prop}
    (h : Checked.Decides Good Big read) (hnodup : (slots.flatMap Slot.key).Nodup)
    (hgood : Good ↔ ∀ slot ∈ slots, slot.Holds members) :
    Checked.Decides (Fills members slots) Big
      (read <* members.nothingElse (slots.map Slot.key)) := by
  apply (h.seqLeft (Members.decides_nothingElse members _)).congr
  · rw [fills_iff hnodup, hgood]
  · exact or_iff_left not_false

end Form

end FormIntake
