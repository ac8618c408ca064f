import FormIntake.Json.Reader
import FormIntake.Proofs.Json.Parts
import FormIntake.Proofs.Numeral
/-!
# Values that were read

What passes from the parts of a value to the value holds of everything that is
read. So a value read under the limits for text from outside has no whole number
beyond the digit limit, and no object that is read has a key twice.
-/

namespace FormIntake

theorem Numeral.takeDigits_of_mem {digit? : CodePoint → Option Nat} {t : Text} {d : Nat}
    (h : d ∈ (takeDigits digit? t).1) : ∃ c, digit? c = some d := by
  induction t with
  | nil => cases h
  | cons c rest ih =>
      rw [takeDigits] at h
      split at h
      · rename_i first hfirst
        rcases List.mem_cons.1 h with rfl | hmem
        · exact ⟨c, hfirst⟩
        · exact ih hmem
      · cases h

namespace Json.Reader

theorem wholePart_lt {t : Text} {d : Nat} (h : d ∈ (wholePart t).1) : d < 10 := by
  have hdecimal : ∀ t : Text, d ∈ (decimalDigits t).1 → d < 10 := by
    intro t hd
    obtain ⟨c, hc⟩ := Numeral.takeDigits_of_mem hd
    exact CodePoint.digitValue?_lt hc
  unfold wholePart at h
  split at h
  · split at h
    · rw [List.mem_singleton.1 h]
      decide
    · exact hdecimal _ h
  · cases h

theorem fst_of_ok {ε α : Type} {a b : α} {t rest : Text}
    (h : (Except.ok (a, t) : Except ε (α × Text)) = .ok (b, rest)) : a = b :=
  (Prod.mk.inj (Except.ok.inj h)).1

theorem readNumber_digits {limits : Limits} {limit : Nat} (hlimits : limits.digits = some limit)
    {t rest : Text} {x : Number} (h : readNumber limits t = .ok (x, rest)) :
    (Json.number x).integerDigits ≤ limit := by
  unfold readNumber at h
  simp only at h
  split at h
  · cases h
  rename_i digits after hne hwhole
  split at h
  · split at h
    · rename_i hallow
      have hlength : digits.length ≤ limit := by
        simpa [Limits.allowDigits, hlimits] using hallow
      have hbound : ∀ d ∈ digits, d < 10 := by
        intro d hd
        apply wholePart_lt
        rw [hwhole]
        exact hd
      have hvalue := Numeral.value_lt (by decide) hbound
      have hpos : 0 < digits.length := List.length_pos_iff.2 hne
      rw [← fst_of_ok h, integerDigits, Numeral.natAbs_signed]
      calc
        (Nat.toDigits 10 (Numeral.value 10 digits)).length ≤ digits.length :=
          (Nat.length_toDigits_le_iff (by decide) hpos).2 hvalue
        _ ≤ limit := hlength
    · cases h
  · rw [← fst_of_ok h]
    exact Nat.zero_le limit

/-- What holds of single values that are read and passes to lists and objects. -/
structure Inherited (limits : Limits) (P : Json → Prop) : Prop where
  word : ∀ entry ∈ words, P entry.2
  number : ∀ {t rest x}, readNumber limits t = .ok (x, rest) → P (.number x)
  str : ∀ t, P (.str t)
  arr : ∀ items, (∀ item ∈ items, P item) → P (.arr items)
  obj : ∀ members, (Assoc.keys members).Nodup → (∀ member ∈ members, P member.2) →
    P (.obj members)

structure Gives (limits : Limits) (P : Json → Prop) (fuel : Nat) : Prop where
  value : ∀ {depth t json rest}, readValue limits fuel depth t = .ok (json, rest) → P json
  items : ∀ {depth t items rest}, readItems limits fuel depth t = .ok (items, rest) →
    ∀ item ∈ items, P item
  members : ∀ {depth done t members rest}, (Assoc.keys done).Nodup →
    (∀ member ∈ done, P member.2) →
    readMembers limits fuel depth done t = .ok (members, rest) →
    (Assoc.keys members).Nodup ∧ ∀ member ∈ members, P member.2

theorem exists_of_map_eq_ok {α β ε : Type} {x : Except ε α} {f : α → β} {b : β}
    (h : x.map f = .ok b) : ∃ a, x = .ok a ∧ f a = b := by
  cases x with
  | error e => cases h
  | ok a => exact ⟨a, rfl, Except.ok.inj h⟩

theorem exists_word {t rest : Text} {json : Json} (h : readWord? t = some (json, rest)) :
    ∃ entry ∈ words, entry.2 = json := by
  obtain ⟨entry, hmem, hvalue⟩ := List.exists_of_findSome?_eq_some h
  obtain ⟨after, -, heq⟩ := Option.map_eq_some_iff.1 hvalue
  exact ⟨entry, hmem, (Prod.mk.inj heq).1⟩

section

variable {limits : Limits} {P : Json → Prop} {fuel depth : Nat} {t rest : Text}

theorem gives_value (hP : Inherited limits P) (ih : Gives limits P fuel) {json : Json}
    (h : readValue limits (fuel + 1) depth t = .ok (json, rest)) : P json := by
  have hnone : (Assoc.keys ([] : Assoc Text Json)).Nodup := List.nodup_nil
  unfold readValue at h
  split at h
  · cases h
  split at h
  · -- a string
    split at h
    · rw [← fst_of_ok h]
      exact hP.str _
    · cases h
  split at h
  · -- a list
    split at h <;> try cases h
    split at h <;> try cases h
    split at h
    · rw [← fst_of_ok h]
      exact hP.arr [] (List.forall_mem_nil _)
    · obtain ⟨⟨items, after⟩, hitems, heq⟩ := exists_of_map_eq_ok h
      rw [← (Prod.mk.inj heq).1]
      exact hP.arr items (ih.items hitems)
  split at h
  · -- an object
    split at h <;> try cases h
    split at h <;> try cases h
    split at h
    · rw [← fst_of_ok h]
      exact hP.obj [] hnone (List.forall_mem_nil _)
    · obtain ⟨⟨members, after⟩, hmembers, heq⟩ := exists_of_map_eq_ok h
      obtain ⟨hkeys, hvalues⟩ := ih.members hnone (List.forall_mem_nil _) hmembers
      rw [← (Prod.mk.inj heq).1]
      exact hP.obj members hkeys hvalues
  split at h
  · rename_i hword
    obtain ⟨entry, hmem, rfl⟩ := exists_word hword
    rw [← fst_of_ok h]
    exact hP.word entry hmem
  · obtain ⟨⟨x, after⟩, hnumber, heq⟩ := exists_of_map_eq_ok h
    rw [← (Prod.mk.inj heq).1]
    exact hP.number hnumber

theorem gives_items (ih : Gives limits P fuel) {items : List Json}
    (h : readItems limits (fuel + 1) depth t = .ok (items, rest)) : ∀ item ∈ items, P item := by
  unfold readItems at h
  split at h
  · cases h
  rename_i item after hitem
  have hfirst := ih.value hitem
  split at h
  · cases h
  split at h
  · rw [← fst_of_ok h]
    exact List.forall_mem_singleton.2 hfirst
  split at h
  · obtain ⟨⟨others, after⟩, hothers, heq⟩ := exists_of_map_eq_ok h
    rw [← (Prod.mk.inj heq).1]
    exact List.forall_mem_cons.2 ⟨hfirst, ih.items hothers⟩
  · cases h

theorem gives_members (ih : Gives limits P fuel) {done members : Assoc Text Json}
    (hkeys : (Assoc.keys done).Nodup) (hdone : ∀ member ∈ done, P member.2)
    (h : readMembers limits (fuel + 1) depth done t = .ok (members, rest)) :
    (Assoc.keys members).Nodup ∧ ∀ member ∈ members, P member.2 := by
  unfold readMembers at h
  split at h
  · cases h
  split at h
  · cases h
  split at h
  · cases h
  rename_i key _ _
  split at h
  · cases h
  split at h
  · cases h
  split at h
  · cases h
  rename_i value after hvalue
  have hputKeys := Assoc.nodup_keys_put hkeys key value
  have hput : ∀ member ∈ Assoc.put done key value, P member.2 := by
    intro member hmember
    rcases Assoc.eq_or_mem_of_mem_put hmember with rfl | hmem
    · exact ih.value hvalue
    · exact hdone member hmem
  split at h
  · cases h
  split at h
  · rw [← fst_of_ok h]
    exact ⟨hputKeys, hput⟩
  split at h
  · exact ih.members hputKeys hput h
  · cases h

theorem gives (hP : Inherited limits P) (fuel : Nat) : Gives limits P fuel := by
  induction fuel with
  | zero =>
      refine ⟨?_, ?_, ?_⟩
      · intro depth t json rest h
        simp [readValue] at h
      · intro depth t items rest h
        simp [readItems] at h
      · intro depth done t members rest _ _ h
        simp [readMembers] at h
  | succ fuel ih => exact ⟨gives_value hP ih, gives_items ih, gives_members ih⟩

end

end Json.Reader

namespace Json

open Reader

theorem Reader.Inherited.read {limits : Limits} {P : Json → Prop} (hP : Inherited limits P)
    {t : Text} {json : Json} (h : read limits t = .ok json) : P json := by
  unfold Json.read at h
  split at h
  · cases h
  · rename_i value rest hvalue
    split at h
    · rw [← Except.ok.inj h]
      exact (gives hP _).value hvalue
    · cases h

theorem inherited_integerDigits {limits : Limits} {limit : Nat}
    (hlimits : limits.digits = some limit) :
    Inherited limits fun json => json.integerDigits ≤ limit where
  word := by
    intro entry hentry
    have hzero : ∀ entry ∈ words, entry.2.integerDigits = 0 := by
      simp [words, integerDigits]
    rw [hzero entry hentry]
    exact Nat.zero_le limit
  number h := readNumber_digits hlimits h
  str _ := Nat.zero_le limit
  arr items hitems := by
    rw [integerDigits]
    induction items with
    | nil => exact Nat.zero_le limit
    | cons item rest ih =>
        obtain ⟨hfirst, hrest⟩ := List.forall_mem_cons.1 hitems
        exact Nat.max_le.2 ⟨hfirst, ih hrest⟩
  obj := by
    rintro members - hmembers
    rw [integerDigits]
    induction members with
    | nil => exact Nat.zero_le limit
    | cons member rest ih =>
        obtain ⟨hfirst, hrest⟩ := List.forall_mem_cons.1 hmembers
        exact Nat.max_le.2 ⟨hfirst, ih hrest⟩

theorem inherited_distinctKeys (limits : Limits) : Inherited limits DistinctKeys where
  word := by
    simp only [words, List.forall_mem_cons]
    exact ⟨.null, .bool true, .bool false, .number _, .number _, .number _, List.forall_mem_nil _⟩
  number _ := .number _
  str := .str
  arr _ := .arr
  obj _ hkeys hmembers := .obj hkeys hmembers

theorem integerDigits_of_read {t : Text} {json : Json} (h : read .guarded t = .ok json) :
    json.integerDigits ≤ Numeral.digitLimit :=
  (inherited_integerDigits rfl).read h

theorem distinctKeys_of_read {limits : Limits} {t : Text} {json : Json}
    (h : read limits t = .ok json) : json.DistinctKeys :=
  (inherited_distinctKeys limits).read h

end Json

end FormIntake
