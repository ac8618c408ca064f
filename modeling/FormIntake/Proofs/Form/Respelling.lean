import FormIntake.Proofs.Form.Acceptance
import FormIntake.Proofs.Form.Spellings
/-!
# Forms in other spellings

A form document may spell the keys of its rules in either way. The form that is
read is the same, and if there is none the problems are the same, each at the
place that goes by the new spelling. No form is read from a document with a key
in both spellings.
-/

namespace FormIntake

/-! ## Documents in other spellings -/

namespace Json

def renamed (f : Text → Text) : Json → Json
  | obj members => obj (Members.renamed f members)
  | other => other

def changedMember (name : Text) (change : Json → Json) : Json → Json
  | obj members => obj (Members.changed name change members)
  | other => other

def changedItems (change : Nat → Json → Json) : Json → Json
  | arr items => arr (items.mapIdx change)
  | other => other

theorem get?_changedMember {json value : Json} {name : Text} (h : json.get? name = some value)
    (change : Json → Json) : (json.changedMember name change).get? name = some (change value) := by
  cases json with
  | obj members =>
      have hget : Assoc.get? members name = some value := h
      simp [changedMember, get?, Members.get?_changed, hget]
  | null | bool _ | number _ | str _ | arr _ => cases h

end Json

namespace Form

/-- A choice of a spelling for the rules of each field, which is known by its index. -/
structure Respelling where
  rename : Nat → Text → Text
  same_key : ∀ i name, SameKey name (rename i name)

namespace Respelling

def item (r : Respelling) (i : Nat) : Json → Json :=
  Json.changedMember "validations" (Json.renamed (r.rename i))

/-- The document with the rules of its fields in the chosen spellings. -/
def document (r : Respelling) : Json → Json :=
  Json.changedMember "fields" (Json.changedItems r.item)

/-- The place of a problem with a field. Below the tag of the field, it is with the chosen spelling
of a rule. -/
def itemPlace (r : Respelling) (i : Nat) : PathStep.Place → PathStep.Place :=
  PathStep.inside (PathStep.inMember "validations" (PathStep.renamed (r.rename i)))

def place (r : Respelling) : PathStep.Place → PathStep.Place :=
  PathStep.inMember "fields" (PathStep.inItem r.itemPlace)

end Respelling

section

variable {zone : Int} {members : Members} {f : Text → Text}

theorem rules_respelled {ρ : Type} {read : Members → Checked ρ} (hread : TakesEither read)
    (h : ∀ rules, Assoc.get? members "validations" = some (.obj rules) → Respells f rules) :
    rules (members.changed "validations" (Json.renamed f)) read =
      (rules members read).relocate
        (PathStep.inMember "validations" (PathStep.renamed f)) := by
  apply Members.given_changed
  intro value hget
  cases value with
  | obj rules =>
      have hrules := hread f rules (h rules hget)
      simp only [Json.renamed, Checked.unlessNull, hrules, Checked.relocate_map]
  | null => rfl
  | bool _ | number _ | str _ | arr _ => rfl

theorem readKind_respelled (type : FieldType)
    (h : ∀ rules, Assoc.get? members "validations" = some (.obj rules) → Respells f rules) :
    readKind zone (members.changed "validations" (Json.renamed f)) type =
      (readKind zone members type).relocate
        (PathStep.inMember "validations" (PathStep.renamed f)) := by
  have hoptions := @Members.needed_changed_other members _ "validations" (Json.renamed f)
    (PathStep.renamed f) readOptions "options" (by decide)
  cases type with
  | text => simp [readKind, rules_respelled takesEither_textRules h]
  | number => simp [readKind, rules_respelled takesEither_numberRules h]
  | select => simp [readKind, hoptions]
  | multiSelect => simp [readKind, hoptions, rules_respelled takesEither_selectionRules h]
  | date => simp [readKind, rules_respelled (takesEither_dateRules zone) h]
  | textarea => simp [readKind, rules_respelled takesEither_textareaRules h]
  | switch => rfl

theorem readTypedField_respelled (type : FieldType)
    (h : ∀ rules, Assoc.get? members "validations" = some (.obj rules) → Respells f rules) :
    readTypedField zone (members.changed "validations" (Json.renamed f)) type =
      (readTypedField zone members type).relocate
        (PathStep.inMember "validations" (PathStep.renamed f)) := by
  simp only [readTypedField, Checked.relocate_seqLeft, Checked.relocate_seq, Checked.relocate_map]
  rw [Members.needed_changed_other (by decide), Members.needed_changed_other (by decide),
    Members.given_changed_other (by decide), readKind_respelled type h,
    Members.nothingElse_changed (show PathStep.renamed f [] = [] from rfl)]

theorem readField_respelled (item : Json)
    (h : ∀ rules, item.get? "validations" = some (.obj rules) → Respells f rules) :
    readField zone (item.changedMember "validations" (Json.renamed f)) =
      (readField zone item).relocate
        (PathStep.inside (PathStep.inMember "validations" (PathStep.renamed f))) := by
  cases item with
  | obj members =>
      have htype : Assoc.get? (Members.changed "validations" (Json.renamed f) members) "type" =
          Assoc.get? members "type" := by
        have hne : Text.ofString "type" ≠ "validations" := by decide
        simp [Members.get?_changed, hne]
      simp only [Json.changedMember, readField, htype]
      cases Assoc.get? members "type" with
      | none => rfl
      | some json =>
          cases htag : typeOf? json with
          | none =>
              simp only [htag]
              exact (Checked.relocate_reject rfl .unknownType).symm
          | some type =>
              simp only [htag, readTypedField_respelled type h, Checked.relocate_under_inside]
  | null | bool _ | number _ | str _ | arr _ => rfl

end

/-! ## Forms in other spellings -/

def ItemAt (doc : Json) (i : Nat) (item : Json) : Prop :=
  ∃ items, doc.get? "fields" = some (.arr items) ∧ items[i]? = some item

def RulesAt (doc : Json) (i : Nat) (rules : Members) : Prop :=
  ∃ item, ItemAt doc i item ∧ item.get? "validations" = some (.obj rules)

/-- In the document the choice of spellings respells the rules of all fields. -/
def Respelling.Fits (r : Respelling) (doc : Json) : Prop :=
  ∀ i rules, RulesAt doc i rules → Respells (r.rename i) rules

theorem readFields_respelled {zone : Int} (r : Respelling) (value : Json)
    (h : ∀ items, value = .arr items → ∀ i item, items[i]? = some item →
      ∀ rules, item.get? "validations" = some (.obj rules) → Respells (r.rename i) rules) :
    readFields zone (value.changedItems r.item) =
      (readFields zone value).relocate (PathStep.inItem r.itemPlace) := by
  cases value with
  | arr items =>
      have hitems := @Checked.items_relocate _ (readField zone) r.item r.itemPlace 0 items (by
        intro i item hitem
        rw [Nat.zero_add]
        exact readField_respelled item (h items rfl i item hitem))
      simp only [Nat.zero_add] at hitems
      exact hitems
  | null | bool _ | number _ | str _ | obj _ => rfl

theorem readForm_respelled {zone : Int} {members : Members} {r : Respelling}
    (h : r.Fits (.obj members)) :
    readForm zone (members.changed "fields" (Json.changedItems r.item)) =
      (readForm zone members).relocate r.place := by
  have hplace : PathStep.inItem r.itemPlace [] = [] := rfl
  simp only [readForm, Respelling.place, Checked.relocate_seqLeft, Checked.relocate_seq,
    Checked.relocate_map]
  rw [Members.needed_changed_other (by decide), Members.nothingElse_changed hplace,
    Members.needed_changed ?_ hplace]
  intro value hget
  apply readFields_respelled
  rintro items rfl i item hitem rules hrules
  exact h i rules ⟨item, ⟨items, hget, hitem⟩, hrules⟩

theorem relocate_namesDistinct (r : Respelling) (s : Schema) :
    (namesDistinct s).relocate r.place = namesDistinct s := by
  unfold namesDistinct
  split
  · exact Checked.relocate_reject rfl _
  · rfl

/-- A document reads alike in all spellings, up to the names by which its rules are blamed. -/
theorem readSchema_respelled {zone : Int} {r : Respelling} {doc : Json} (h : r.Fits doc) :
    readSchema zone (r.document doc) = (readSchema zone doc).relocate r.place := by
  cases doc with
  | obj members =>
      simp only [Respelling.document, Json.changedMember, readSchema, Checked.relocate_andThen,
        relocate_namesDistinct]
      exact congrArg (Checked.andThen namesDistinct) (readForm_respelled h)
  | null | bool _ | number _ | str _ | arr _ => rfl

/-! ## Both spellings at once -/

section

variable {members rules : Members} {first second : Text}

theorem reports_rules {ρ : Type} {read : Members → Checked ρ} (hread : RefusesBoth read)
    (hrules : Assoc.get? members "validations" = some (.obj rules))
    (h : SpellsBoth rules first second) :
    Checked.Reports ⟨[.key "validations", .key second], .unexpectedKey⟩
      (Form.rules members read) := by
  have hfound := (hread rules first second h).map some
  rw [Form.rules, Members.given, rulesKey, Members.find?_singleton, hrules]
  exact hfound.under (.key "validations")

theorem reports_readKind {zone : Int} {type : FieldType} (htype : rulesKey ∈ fieldKeys type)
    (hrules : Assoc.get? members "validations" = some (.obj rules))
    (h : SpellsBoth rules first second) :
    Checked.Reports ⟨[.key "validations", .key second], .unexpectedKey⟩
      (readKind zone members type) := by
  cases type with
  | text => exact (reports_rules (refusesBoth_of_nothingElse _ (by decide)) hrules h).map _
  | number => exact (reports_rules (refusesBoth_of_nothingElse _ (by decide)) hrules h).map _
  | select => exact absurd htype (by decide)
  | multiSelect =>
      exact (reports_rules (refusesBoth_of_nothingElse _ (by decide)) hrules h).seq_right _
  | date => exact (reports_rules (refusesBoth_of_nothingElse _ (by decide)) hrules h).map _
  | textarea => exact (reports_rules (refusesBoth_of_nothingElse _ (by decide)) hrules h).map _
  | switch => exact absurd htype (by decide)

theorem reports_readField {zone : Int} {item : Json} {type : FieldType}
    (htype : item.get? "type" = some (.str type.name)) (hkey : rulesKey ∈ fieldKeys type)
    (hrules : item.get? "validations" = some (.obj rules)) (h : SpellsBoth rules first second) :
    Checked.Reports ⟨[.key type.name, .key "validations", .key second], .unexpectedKey⟩
      (readField zone item) := by
  cases item with
  | obj members =>
      have hget : Assoc.get? members "type" = some (.str type.name) := htype
      simp only [readField, hget, typeOf?_eq_some_iff.2 rfl]
      have hkind := @reports_readKind members rules first second zone type hkey hrules h
      exact ((hkind.seq_right _).seqLeft_left _).under (.key type.name)
  | null | bool _ | number _ | str _ | arr _ => cases htype

theorem reports_readSchema {zone : Int} {doc item : Json} {i : Nat} {p : Problem}
    (hitem : ItemAt doc i item) (h : Checked.Reports p (readField zone item)) :
    Checked.Reports ((p.under (.index i)).under (.key "fields")) (readSchema zone doc) := by
  obtain ⟨items, hfields, hat⟩ := hitem
  cases doc with
  | obj members =>
      have hitems := h.items hat 0
      rw [Nat.zero_add] at hitems
      have hneeded := @Members.reports_needed members _ "fields" (.arr items)
        (readFields zone) _ hfields hitems
      exact ((hneeded.seq_right _).seqLeft_left _).andThen namesDistinct
  | null | bool _ | number _ | str _ | arr _ => cases hfields

end

/-! ## Either way -/

/-- No object of rules in the document has a name twice or a key in both spellings. -/
def SpelledOnce (doc : Json) : Prop :=
  ∀ i rules, RulesAt doc i rules → (Assoc.keys rules).Nodup ∧
    ∀ key ∈ twoSpellings, ∀ a ∈ key, ∀ b ∈ key,
      a ∈ Assoc.keys rules → b ∈ Assoc.keys rules → a = b

namespace Respelling

variable {r : Respelling} {doc : Json}

theorem rulesAt_document {i : Nat} {rules : Members} (h : RulesAt doc i rules) :
    RulesAt (r.document doc) i (rules.renamed (r.rename i)) := by
  obtain ⟨item, ⟨items, hfields, hitem⟩, hrules⟩ := h
  refine ⟨r.item i item, ⟨items.mapIdx r.item, Json.get?_changedMember hfields _, ?_⟩,
    Json.get?_changedMember hrules _⟩
  rw [List.getElem?_mapIdx, hitem, Option.map_some]

/-- A choice of spellings fits if the document has every key in one spelling afterwards. -/
theorem fits_of_spelledOnce (h : SpelledOnce (r.document doc)) : r.Fits doc := by
  intro i rules hrules
  refine ⟨r.same_key i, ?_⟩
  intro name hname htaken
  obtain ⟨hnodup, hone⟩ := h i _ (rulesAt_document hrules)
  rw [Members.keys_renamed] at hnodup hone
  by_contra hmoved
  rcases r.same_key i name with hsame | ⟨key, hkey, hin, hnew⟩
  · exact hmoved hsame.symm
  · have hagain : r.rename i (r.rename i name) ∈ key :=
      ((r.same_key i _).mem_iff (mem_ruleKeys hkey)).1 hnew
    -- the name that is taken goes back, which makes both spellings, or stays, which makes it twice
    rcases no_third_spelling key (mem_ruleKeys hkey) name hin _ hnew (Ne.symm hmoved) _ hagain with
      hback | hstays
    · have hthere : name ∈ (Assoc.keys rules).map (r.rename i) :=
        List.mem_map.2 ⟨r.rename i name, htaken, hback⟩
      exact hmoved (hone key hkey _ hnew _ hin (List.mem_map_of_mem hname) hthere)
    · exact hmoved (List.inj_on_of_nodup_map hnodup htaken hname hstays)

end Respelling

/-- The rules of a form may be spelled either way. In another choice of spellings that has no key
twice, a document is read as the same form or has the same problems in the same order, at the same
places but for the spellings. With a key in both spellings no form is read, and the second spelling
is one of the problems. -/
theorem rules_are_spelled_either_way (zone : Int) (doc : Json) :
    (∀ r : Respelling, SpelledOnce (r.document doc) →
      readSchema zone (r.document doc) = (readSchema zone doc).relocate r.place) ∧
    ∀ i item type rules first second, ItemAt doc i item →
      item.get? "type" = some (.str (FieldType.name type)) → rulesKey ∈ fieldKeys type →
      item.get? "validations" = some (.obj rules) → SpellsBoth rules first second →
      (readSchema zone doc = .overflow ∧ Overflows doc) ∨
      ∃ problems, readSchema zone doc = .rejected problems ∧
        ⟨[.key "fields", .index i, .key type.name, .key "validations", .key second],
          .unexpectedKey⟩ ∈ problems := by
  refine ⟨fun r h => readSchema_respelled (Respelling.fits_of_spelledOnce h), ?_⟩
  intro i item type rules first second hitem htype hkey hrules hboth
  have hreports := reports_readSchema hitem
    (@reports_readField rules first second zone item type htype hkey hrules hboth)
  cases hread : readSchema zone doc with
  | accepted s => rw [hread] at hreports; exact hreports.elim
  | rejected problems => rw [hread] at hreports; exact Or.inr ⟨problems, rfl, hreports⟩
  | overflow => exact Or.inl ⟨rfl, (decides_readSchema zone doc).overflow_iff.1 hread⟩

/-- A text with a negative bound and a rule that belongs to other fields. -/
def lengthsDocument : Json :=
  .object
    [("title", .ofString "Lengths"),
      ("fields", .arr [
        .object
          [("type", .ofString "text"), ("name", .ofString "code"), ("label", .ofString "Code"),
            ("validations",
              .object [("min_length", .ofInt 2), ("maxLength", .ofInt (-1)),
                ("min_selected", .null)])]])]

def otherLengths : Respelling where
  rename _ name :=
    if name = Text.ofString "min_length" then "minLength"
    else if name = Text.ofString "maxLength" then "max_length"
    else name
  same_key := by
    intro _ name
    split
    · rename_i hname
      exact Or.inr ⟨minLengthKey, by decide, by rw [hname]; decide, by decide⟩
    · split
      · rename_i hname
        exact Or.inr ⟨maxLengthKey, by decide, by rw [hname]; decide, by decide⟩
      · exact Or.inl rfl

/-- The earliest day in both spellings, once as null. -/
def earliestTwice : Members :=
  [("minDate", .null), ("min_date", .ofString "today")]

def datesDocument : Json :=
  .object
    [("title", .ofString "Dates"),
      ("fields", .arr [
        .object
          [("type", .ofString "date"), ("name", .ofString "start"), ("label", .ofString "Start"),
            ("validations", .obj earliestTwice)]])]

/-- The negative bound is blamed under its other name, and the rule of other fields under its own;
of the earliest days it is the second one. -/
theorem lengths_are_blamed_under_other_names :
    SpelledOnce (otherLengths.document lengthsDocument) ∧
      readSchema 0 (otherLengths.document lengthsDocument) = .rejected
        [⟨[.key "fields", .index 0, .key "text", .key "validations", .key "max_length"],
            .negativeInt⟩,
          ⟨[.key "fields", .index 0, .key "text", .key "validations", .key "min_selected"],
            .unexpectedKey⟩] ∧
      SpellsBoth earliestTwice "minDate" "min_date" ∧
      ∃ problems, readSchema 0 datesDocument = .rejected problems ∧
        ⟨[.key "fields", .index 0, .key "date", .key "validations", .key "min_date"],
          .unexpectedKey⟩ ∈ problems := by
  have hspelled : SpelledOnce (otherLengths.document lengthsDocument) := by
    rintro i rules ⟨item, ⟨items, hfields, hitem⟩, hrules⟩
    obtain rfl := Json.arr.inj (Option.some.inj hfields)
    cases i with
    | zero =>
        obtain rfl := Option.some.inj hitem
        obtain rfl := Json.obj.inj (Option.some.inj hrules)
        exact ⟨by decide, by decide⟩
    | succ i => cases hitem
  have hread : readSchema 0 lengthsDocument = .rejected
      [⟨[.key "fields", .index 0, .key "text", .key "validations", .key "maxLength"],
          .negativeInt⟩,
        ⟨[.key "fields", .index 0, .key "text", .key "validations", .key "min_selected"],
          .unexpectedKey⟩] := rfl
  have hboth : SpellsBoth earliestTwice "minDate" "min_date" :=
    ⟨by decide, by decide, by decide⟩
  refine ⟨hspelled, ?_, hboth, ?_⟩
  · rw [(rules_are_spelled_either_way 0 lengthsDocument).1 otherLengths hspelled, hread]
    rfl
  · rcases (rules_are_spelled_either_way 0 datesDocument).2 0 _ .date earliestTwice _ _
      ⟨_, rfl, rfl⟩ rfl (by decide) rfl hboth with ⟨hoverflow, -⟩ | hproblems
    · cases hoverflow
    · exact hproblems

end Form

end FormIntake
