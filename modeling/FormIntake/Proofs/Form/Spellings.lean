import FormIntake.Proofs.Form.Members
/-!
# Two spellings of a rule

What the readers of rules make of an object whose rule keys change their
spelling: the same, up to the names by which they blame its members, as long as
no key takes a spelling that is there already. A key in both spellings is one
too many.
-/

namespace FormIntake

namespace Form

/-! ## Two spellings -/

/-- The keys of rules that have two spellings. -/
def twoSpellings : List Key :=
  [minLengthKey, maxLengthKey, minSelectedKey, maxSelectedKey, minDateKey]

def ruleKeys : List Key :=
  twoSpellings ++ [patternKey, minKey, maxKey]

/-- Two names are spellings of one rule key, or just the same. -/
def SameKey (a b : Text) : Prop :=
  a = b ∨ ∃ key ∈ twoSpellings, a ∈ key ∧ b ∈ key

theorem mem_ruleKeys {key : Key} (h : key ∈ twoSpellings) : key ∈ ruleKeys :=
  List.mem_append_left _ h

theorem key_unique : ∀ key ∈ ruleKeys, ∀ other ∈ ruleKeys, ∀ name ∈ key,
    name ∈ other → key = other := by
  decide +kernel

theorem no_third_spelling : ∀ key ∈ ruleKeys, ∀ a ∈ key, ∀ b ∈ key, a ≠ b →
    ∀ c ∈ key, c = a ∨ c = b := by
  decide +kernel

theorem SameKey.mem_iff {a b : Text} (h : SameKey a b) {key : Key} (hkey : key ∈ ruleKeys) :
    a ∈ key ↔ b ∈ key := by
  rcases h with rfl | ⟨other, hother, ha, hb⟩
  · rfl
  · constructor
    · intro hmem
      rwa [key_unique key hkey other (mem_ruleKeys hother) a hmem ha]
    · intro hmem
      rwa [key_unique key hkey other (mem_ruleKeys hother) b hmem hb]

/-- A renaming of the members of an object respells some rule keys: every name stays a spelling of
its key, and none becomes one that the object has already. -/
structure Respells (f : Text → Text) (members : Members) : Prop where
  same_key : ∀ name, SameKey name (f name)
  free : ∀ name ∈ Assoc.keys members, f name ∈ Assoc.keys members → f name = name

namespace Respells

variable {f : Text → Text} {members : Members} {key : Key}

theorem injective (h : Respells f members) {a b : Text} (ha : a ∈ Assoc.keys members)
    (hb : b ∈ Assoc.keys members) (heq : f a = f b) : a = b := by
  by_contra hne
  have hmoved : f a ≠ a := by
    intro hfix
    rw [hfix] at heq
    exact hne (heq.trans (h.free b hb (heq ▸ ha)))
  rcases h.same_key a with hsame | ⟨key, hkey, hakey, hfkey⟩
  · exact hmoved hsame.symm
  · have hbkey : b ∈ key := by
      rw [(h.same_key b).mem_iff (mem_ruleKeys hkey), ← heq]
      exact hfkey
    rcases no_third_spelling key (mem_ruleKeys hkey) a hakey b hbkey hne (f a) hfkey with
      hfix | hother
    · exact hmoved hfix
    · exact hmoved (h.free a ha (hother ▸ hb))

theorem get?_eq (h : Respells f members) {name : Text} (hname : name ∈ Assoc.keys members) :
    Assoc.get? (members.renamed f) (f name) = Assoc.get? members name :=
  Members.get?_renamed fun _ hother heq => h.injective hother hname heq

/-- A spelling is there after the renaming only if it is the new name of one that was there. -/
theorem exists_of_mem_renamed (h : Respells f members) (hkey : key ∈ ruleKeys) {name : Text}
    (hname : name ∈ key) (hthere : name ∈ Assoc.keys (members.renamed f)) :
    ∃ old ∈ key, old ∈ Assoc.keys members ∧ f old = name := by
  rw [Members.keys_renamed, List.mem_map] at hthere
  obtain ⟨old, hold, rfl⟩ := hthere
  exact ⟨old, ((h.same_key old).mem_iff hkey).2 hname, hold, rfl⟩

theorem find?_eq (h : Respells f members) (hkey : key ∈ ruleKeys) :
    (members.renamed f).find? key =
      (members.find? key).map fun found => (f found.1, found.2) := by
  have hclosed : ∀ name ∈ key, f name ∈ key :=
    fun name hname => ((h.same_key name).mem_iff hkey).1 hname
  by_cases hboth : ∀ name ∈ key, name ∈ Assoc.keys members
  · -- with all spellings there, none of them is free
    have hfix : ∀ name ∈ key, f name = name := fun name hname =>
      h.free name (hboth name hname) (hboth (f name) (hclosed name hname))
    have hsame : (members.renamed f).find? key = members.find? key := by
      apply Members.find?_congr
      intro name hname
      have hget := h.get?_eq (hboth name hname)
      rwa [hfix name hname] at hget
    rw [hsame]
    cases hfind : members.find? key with
    | none => rfl
    | some found => rw [Option.map_some, hfix found.1 (Members.find?_eq_some hfind).1]
  · push Not at hboth
    obtain ⟨absent, habsent, hnot⟩ := hboth
    cases hfind : members.find? key with
    | none =>
        rw [Members.find?_eq_none_iff] at hfind
        rw [Option.map_none, Members.find?_eq_none_iff]
        intro name hname hthere
        obtain ⟨old, hold, hmem, -⟩ := h.exists_of_mem_renamed hkey hname hthere
        exact hfind old hold hmem
    | some found =>
        obtain ⟨name, value⟩ := found
        obtain ⟨hname, hget⟩ := Members.find?_eq_some hfind
        have hmem : name ∈ Assoc.keys members := Members.mem_keys_iff.2 ⟨value, hget⟩
        have hother : ∀ other ∈ key, other ∈ Assoc.keys members → other = name := by
          intro other hin hthere
          have hne : name ≠ absent := fun heq => hnot (heq ▸ hmem)
          rcases no_third_spelling key hkey name hname absent habsent hne other hin with
            heq | heq
          · exact heq
          · exact absurd (heq ▸ hthere) hnot
        apply Members.find?_of_one_spelling (hclosed name hname)
        · rw [h.get?_eq hmem, hget]
        · intro other hin hthere
          obtain ⟨old, hold, holdmem, rfl⟩ := h.exists_of_mem_renamed hkey hin hthere
          rw [hother old hold holdmem]

theorem others_eq (h : Respells f members) {keys : List Key}
    (hkeys : ∀ key ∈ keys, key ∈ ruleKeys) :
    (members.renamed f).others keys = (members.others keys).map f := by
  have hknown : keys.filterMap (fun key => ((members.renamed f).find? key).map Prod.fst) =
      (keys.filterMap fun key => (members.find? key).map Prod.fst).map f := by
    rw [List.map_filterMap]
    apply List.filterMap_congr
    intro key hkey
    rw [h.find?_eq (hkeys key hkey), Option.map_map, Option.map_map]
    rfl
  have hfound : ∀ name ∈ keys.filterMap fun key => (members.find? key).map Prod.fst,
      name ∈ Assoc.keys members := by
    intro name hname
    obtain ⟨key, -, hfst⟩ := List.mem_filterMap.1 hname
    obtain ⟨found, hfind, rfl⟩ := Option.map_eq_some_iff.1 hfst
    exact Members.mem_keys_iff.2 ⟨found.2, (Members.find?_eq_some hfind).2⟩
  rw [Members.others, Members.others, hknown, Members.keys_renamed, List.filter_map]
  congr 1
  apply List.filter_congr
  intro name hname
  simp only [Function.comp_apply, List.contains_eq_mem, List.mem_map, Bool.not_eq_eq_eq_not,
    Bool.not_not, decide_eq_decide]
  constructor
  · rintro ⟨other, hother, heq⟩
    rwa [← h.injective (hfound other hother) hname heq]
  · exact fun hknown => ⟨name, hknown, rfl⟩

/-! ## Rules under other names -/

theorem rule_eq (h : Respells f members) (hkey : key ∈ ruleKeys) {α : Type}
    (read : Json → Checked α) :
    rule (members.renamed f) key read = (rule members key read).relocate (PathStep.renamed f) := by
  rw [rule, rule, Members.given, Members.given, h.find?_eq hkey]
  cases members.find? key with
  | none => rfl
  | some found => simp

theorem nothingElse_eq (h : Respells f members) {keys : List Key}
    (hkeys : ∀ key ∈ keys, key ∈ ruleKeys) :
    (members.renamed f).nothingElse keys =
      (members.nothingElse keys).relocate (PathStep.renamed f) := by
  rw [Members.nothingElse, Members.nothingElse, h.others_eq hkeys]
  cases members.others keys with
  | nil => rfl
  | cons first rest => simp [Checked.relocate, Problem.relocate, PathStep.renamed]

end Respells

/-- A reader of rules takes them in either spelling, with the same problems under other names. -/
def TakesEither {ρ : Type} (read : Members → Checked ρ) : Prop :=
  ∀ f members, Respells f members →
    read (members.renamed f) = (read members).relocate (PathStep.renamed f)

theorem takesEither_rule {α : Type} {key : Key} (hkey : key ∈ ruleKeys)
    (read : Json → Checked α) : TakesEither fun members => rule members key read :=
  fun _ _ h => h.rule_eq hkey read

namespace TakesEither

variable {α β : Type} {read : Members → Checked α}

theorem map (h : TakesEither read) (g : α → β) :
    TakesEither fun members => g <$> read members := by
  intro f members hf
  simp only [h f members hf, Checked.relocate_map]

theorem seq {make : Members → Checked (α → β)} (hmake : TakesEither make)
    (h : TakesEither read) : TakesEither fun members => make members <*> read members := by
  intro f members hf
  simp only [hmake f members hf, h f members hf, Checked.relocate_seq]

theorem alone (h : TakesEither read) {keys : List Key} (hkeys : ∀ key ∈ keys, key ∈ ruleKeys) :
    TakesEither fun members => read members <* members.nothingElse keys := by
  intro f members hf
  simp only [h f members hf, hf.nothingElse_eq hkeys, Checked.relocate_seqLeft]

end TakesEither

theorem takesEither_textRules : TakesEither readTextRules := by
  have hmin := takesEither_rule (show minLengthKey ∈ ruleKeys by decide) Scalar.readCount
  have hmax := takesEither_rule (show maxLengthKey ∈ ruleKeys by decide) Scalar.readCount
  have hpattern := takesEither_rule (show patternKey ∈ ruleKeys by decide) readPattern
  exact (((hmin.map TextRules.mk).seq hmax).seq hpattern).alone (by decide)

theorem takesEither_two_rules {α β ρ : Type} (make : Option α → Option β → ρ)
    {first second : Key} (hfirst : first ∈ ruleKeys) (hsecond : second ∈ ruleKeys)
    (readFirst : Json → Checked α) (readSecond : Json → Checked β) :
    TakesEither fun members =>
      make <$> rule members first readFirst <*> rule members second readSecond
        <* members.nothingElse [first, second] := by
  have hrules := ((takesEither_rule hfirst readFirst).map make).seq
    (takesEither_rule hsecond readSecond)
  apply hrules.alone
  simp [hfirst, hsecond]

theorem takesEither_textareaRules : TakesEither readTextareaRules :=
  takesEither_two_rules TextareaRules.mk (by decide) (by decide) Scalar.readCount Scalar.readCount

theorem takesEither_numberRules : TakesEither readNumberRules :=
  takesEither_two_rules NumberRules.mk (by decide) (by decide) Scalar.readNumber Scalar.readNumber

theorem takesEither_selectionRules : TakesEither readSelectionRules :=
  takesEither_two_rules SelectionRules.mk (by decide) (by decide) Scalar.readCount Scalar.readCount

theorem takesEither_dateRules (zone : Int) : TakesEither (readDateRules zone) := by
  have hmin := takesEither_rule (show minDateKey ∈ ruleKeys by decide) (readMinDate zone)
  exact (hmin.map DateRules.mk).alone (by decide)

/-! ## Both spellings at once -/

variable {rules : Members} {first second : Text}

structure SpellsBoth (rules : Members) (first second : Text) : Prop where
  is_key : [first, second] ∈ twoSpellings
  first_there : first ∈ Assoc.keys rules
  second_there : second ∈ Assoc.keys rules

theorem SpellsBoth.mem_others (h : SpellsBoth rules first second) {keys : List Key}
    (hkeys : ∀ key ∈ keys, key ∈ ruleKeys) : second ∈ rules.others keys := by
  have hnodup : ∀ key ∈ twoSpellings, key.Nodup := by decide
  have hne : first ≠ second := by
    have hpair := hnodup _ h.is_key
    exact fun heq => (List.nodup_cons.1 hpair).1 (List.mem_singleton.2 heq)
  refine Members.mem_others_iff.2 ⟨h.second_there, ?_⟩
  intro key hkey v hfind
  have hsecond := (Members.find?_eq_some hfind).1
  obtain rfl := key_unique _ (hkeys key hkey) _ (mem_ruleKeys h.is_key) second hsecond
    (List.mem_cons_of_mem _ List.mem_cons_self)
  obtain ⟨w, hw⟩ := Members.mem_keys_iff.1 h.first_there
  rw [Members.find?_cons, hw, Option.map_some, Option.some_or] at hfind
  exact hne (Prod.mk.inj (Option.some.inj hfind)).1

/-- A reader of rules takes no key in both spellings: the second one is a name too many. -/
def RefusesBoth {ρ : Type} (read : Members → Checked ρ) : Prop :=
  ∀ rules first second, SpellsBoth rules first second →
    Checked.Reports ⟨[.key second], .unexpectedKey⟩ (read rules)

theorem refusesBoth_of_nothingElse {ρ : Type} (read : Members → Checked ρ) {keys : List Key}
    (hkeys : ∀ key ∈ keys, key ∈ ruleKeys) :
    RefusesBoth fun rules => read rules <* rules.nothingElse keys := by
  intro rules first second h
  exact (Members.reports_nothingElse (h.mem_others hkeys)).seqLeft_right (read rules)

end Form

end FormIntake
