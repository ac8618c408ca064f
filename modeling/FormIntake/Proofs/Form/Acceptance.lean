import FormIntake.Proofs.Form.Accepted
import FormIntake.Proofs.Form.Slots
/-!
# Acceptance of form documents

The reader accepts exactly the documents of the grammar: every reader of a part
decides its part.
-/

namespace FormIntake.Form

open Checked Scalar

/-! ## Scalars -/

theorem decides_readText (v : Json) : Decides (IsText v) False (readText v) := by
  cases v with
  | str t => exact decides_accepted t ⟨t, rfl⟩ not_false
  | null | bool _ | number _ | arr _ | obj _ =>
      exact decides_reject .notText (by simp [IsText]) not_false

theorem definite_readLine (v : Json) : Definite (readLine v) := by
  cases v with
  | str t =>
      simp only [readLine]
      split
      · exact definite_reject _
      · split
        · exact definite_reject _
        · exact definite_accepted t
  | null | bool _ | number _ | arr _ | obj _ => exact definite_reject .notText

theorem decides_readLine (v : Json) : Decides (IsLine v) False (readLine v) :=
  (definite_readLine v).congr (exists_congr fun _ => readLine_eq_accepted) Iff.rfl

theorem decides_readOptions (v : Json) : Decides (IsOptions v) False (readOptions v) := by
  cases v with
  | arr items =>
      have hitems := decides_items decides_readText 0 items
      have hchecked := hitems.seqLeft (decides_require (items.any isText) .emptyList)
      have hnodup : ∀ options : List Text, Decides options.Nodup False
          (if options.Nodup then accepted options else reject .repeatedOption) :=
        fun options => decides_ite options .repeatedOption
      have hread := hchecked.andThen fun options _ => hnodup options
      have hgood : (∃ options, readOptions (.arr items) = accepted options) ↔
          IsOptions (.arr items) := exists_congr fun _ => readOptions_eq_accepted
      exact hread.congr (hread.accepted_iff.symm.trans hgood) (by simp)
  | null | bool _ | number _ | str _ | obj _ =>
      exact decides_reject .notAList (by simp [IsOptions]) not_false

theorem decides_readPattern (v : Json) :
    Decides (IsPattern v) (∃ t, v = .str t ∧ IsTooMuch t) (readPattern v) := by
  cases v with
  | str t =>
      simp only [readPattern]
      cases hread : Pattern.compile t with
      | ok p => exact decides_accepted t ⟨t, p, rfl, hread⟩ (by simp [IsTooMuch, hread])
      | error e =>
          have hbad : ¬ IsPattern (.str t) := by simp [IsPattern, hread]
          cases e with
          | malformed => exact decides_reject _ hbad (by simp [IsTooMuch, hread])
          | alphabetConflict => exact decides_reject _ hbad (by simp [IsTooMuch, hread])
          | countTooLong digits => exact decides_reject _ hbad (by simp [IsTooMuch, hread])
          | unencodableName name => exact decides_reject _ hbad (by simp [IsTooMuch, hread])
          | countTooLarge => exact decides_overflow hbad ⟨t, rfl, Or.inl hread⟩
          | nestedTooDeep => exact decides_overflow hbad ⟨t, rfl, Or.inr hread⟩
  | null | bool _ | number _ | arr _ | obj _ =>
      exact decides_reject .notText (by simp [IsPattern]) (by simp)

theorem decides_readMinDate (zone : Int) (v : Json) :
    Decides (IsMinDate zone v) False (readMinDate zone v) := by
  cases v with
  | str t =>
      apply (decides_ite (MinDate.ofText t) (.unreadableMinDate t)).congr
      · simp [IsMinDate, Option.isSome_iff_exists]
      · simp
  | null | bool _ | number _ | arr _ | obj _ =>
      exact decides_reject .notText (by simp [IsMinDate]) not_false

/-! ## Rules -/

variable (members : Members)

theorem decides_rule {α : Type} (key : Key) {read : Json → Checked α} {Takes Big : Json → Prop}
    (h : ∀ v, Decides (Takes v) (Big v) (read v)) (hnull : ¬ Big .null) :
    Decides ((Slot.rule key Takes).Holds members)
      (∃ name v, members.find? key = some (name, v) ∧ Big v) (rule members key read) := by
  apply (Members.decides_given members fun v => (h v).unlessNull).congr
  · simp [Slot.Holds, Slot.rule, OrNull]
  · constructor
    · rintro ⟨name, v, hfind, -, hbig⟩
      exact ⟨name, v, hfind, hbig⟩
    · rintro ⟨name, v, hfind, hbig⟩
      exact ⟨name, v, hfind, fun heq => hnull (heq ▸ hbig), hbig⟩

theorem decides_small_rule {α : Type} (key : Key) {read : Json → Checked α} {Takes : Json → Prop}
    (h : ∀ v, Decides (Takes v) False (read v)) :
    Decides ((Slot.rule key Takes).Holds members) False (rule members key read) :=
  (decides_rule members key h not_false).congr Iff.rfl (by simp)

theorem decides_count (key : Key) :
    Decides ((Slot.rule key IsCount).Holds members) False (rule members key readCount) :=
  decides_small_rule members key decides_readCount

theorem decides_number (key : Key) :
    Decides ((Slot.rule key IsNumber).Holds members) False (rule members key readNumber) :=
  decides_small_rule members key decides_readNumber

def PatternOverflows (members : Members) : Prop :=
  ∃ t, Assoc.get? members "pattern" = some (.str t) ∧ IsTooMuch t

theorem decides_pattern :
    Decides ((Slot.rule patternKey IsPattern).Holds members) (PatternOverflows members)
      (rule members patternKey readPattern) := by
  apply (decides_rule members patternKey decides_readPattern (by simp)).congr Iff.rfl
  rw [patternKey, Members.exists_find?_singleton]
  constructor
  · rintro ⟨_, hget, t, rfl, hread⟩
    exact ⟨t, hget, hread⟩
  · rintro ⟨t, hget, hread⟩
    exact ⟨_, hget, t, rfl, hread⟩

theorem decides_readTextRules :
    Decides (Fills members textSlots) (PatternOverflows members) (readTextRules members) := by
  have hread := (((decides_count members minLengthKey).map TextRules.mk).seq
    (decides_count members maxLengthKey)).seq (decides_pattern members)
  apply (Fills.decided hread (by decide) _).congr Iff.rfl
  · simp
  · simp [textSlots, and_assoc]

theorem decides_two_rules {α β ρ : Type} (make : Option α → Option β → ρ) {first second : Key}
    {Takes Takes' : Json → Prop} {x : Checked (Option α)} {y : Checked (Option β)}
    (hnodup : (first ++ (second ++ [])).Nodup)
    (hfirst : Decides ((Slot.rule first Takes).Holds members) False x)
    (hsecond : Decides ((Slot.rule second Takes').Holds members) False y) :
    Decides (Fills members [.rule first Takes, .rule second Takes']) False
      (make <$> x <*> y <* members.nothingElse [first, second]) := by
  have hread := (hfirst.map make).seq hsecond
  have hslots : (([.rule first Takes, .rule second Takes'] : List Slot).flatMap Slot.key).Nodup :=
    hnodup
  apply (Fills.decided hread hslots _).congr Iff.rfl
  · simp
  · simp

theorem decides_readTextareaRules :
    Decides (Fills members textareaSlots) False (readTextareaRules members) :=
  decides_two_rules members TextareaRules.mk (by decide) (decides_count members minLengthKey)
    (decides_count members maxLengthKey)

theorem decides_readNumberRules :
    Decides (Fills members numberSlots) False (readNumberRules members) :=
  decides_two_rules members NumberRules.mk (by decide) (decides_number members minKey)
    (decides_number members maxKey)

theorem decides_readSelectionRules :
    Decides (Fills members selectionSlots) False (readSelectionRules members) :=
  decides_two_rules members SelectionRules.mk (by decide) (decides_count members minSelectedKey)
    (decides_count members maxSelectedKey)

theorem decides_readDateRules (zone : Int) :
    Decides (Fills members (dateSlots zone)) False (readDateRules zone members) := by
  have hread := (decides_small_rule members minDateKey (decides_readMinDate zone)).map DateRules.mk
  apply Fills.decided hread (show (minDateKey ++ []).Nodup by decide)
  simp [dateSlots]

theorem decides_rules {ρ : Type} {read : Members → Checked ρ} {slots : List Slot}
    {Big : Members → Prop} (h : ∀ inner, Decides (Fills inner slots) (Big inner) (read inner)) :
    Decides ((Slot.rules slots).Holds members)
      (∃ inner, Assoc.get? members "validations" = some (.obj inner) ∧ Big inner)
      (rules members read) := by
  have hrule : Decides ((Slot.rules slots).Holds members)
      (∃ name v, members.find? rulesKey = some (name, v) ∧ ∃ inner, v = .obj inner ∧ Big inner)
      (rules members read) := by
    refine decides_rule members rulesKey ?_ (by simp)
    intro v
    cases v with
    | obj inner =>
        apply (h inner).congr
        · simp [IsObject]
        · simp
    | null | bool _ | number _ | str _ | arr _ =>
        exact decides_reject .notAnObject (by simp [IsObject]) (by simp)
  apply hrule.congr Iff.rfl
  rw [rulesKey, Members.exists_find?_singleton]
  constructor
  · rintro ⟨_, hget, inner, rfl, hbig⟩
    exact ⟨inner, hget, hbig⟩
  · rintro ⟨inner, hget, hbig⟩
    exact ⟨_, hget, inner, rfl, hbig⟩

theorem decides_small_rules {ρ : Type} {read : Members → Checked ρ} {slots : List Slot}
    (h : ∀ inner, Decides (Fills inner slots) False (read inner)) :
    Decides ((Slot.rules slots).Holds members) False (rules members read) :=
  (decides_rules members h).congr Iff.rfl (by simp)

theorem decides_needed_slot {α : Type} (name : Text) {read : Json → Checked α}
    {Takes : Json → Prop} (h : ∀ v, Decides (Takes v) False (read v)) :
    Decides ((⟨[name], true, Takes⟩ : Slot).Holds members) False (members.needed name read) :=
  (Members.decides_needed members name h).congr holds_needed_iff.symm (by simp)

theorem decides_options :
    Decides (Slot.options.Holds members) False (members.needed "options" readOptions) :=
  decides_needed_slot members _ decides_readOptions

/-! ## Fields -/

def RulesOverflow (members : Members) (type : FieldType) : Prop :=
  type = .text ∧ ∃ inner, Assoc.get? members "validations" = some (.obj inner) ∧
    PatternOverflows inner

theorem decides_readKind (zone : Int) (type : FieldType) :
    Decides (∀ slot ∈ kindSlots zone type, slot.Holds members) (RulesOverflow members type)
      (readKind zone members type) := by
  cases type with
  | text =>
      apply ((decides_rules members decides_readTextRules).map FieldKind.text).congr
      · simp [kindSlots]
      · simp [RulesOverflow]
  | number =>
      apply ((decides_small_rules members decides_readNumberRules).map FieldKind.number).congr
      · simp [kindSlots]
      · simp [RulesOverflow]
  | select =>
      apply ((decides_options members).map FieldKind.select).congr
      · simp [kindSlots]
      · simp [RulesOverflow]
  | multiSelect =>
      apply (((decides_options members).map FieldKind.multiSelect).seq
        (decides_small_rules members decides_readSelectionRules)).congr
      · simp [kindSlots]
      · simp [RulesOverflow]
  | date =>
      apply ((decides_small_rules members fun inner =>
        decides_readDateRules inner zone).map FieldKind.date).congr
      · simp [kindSlots]
      · simp [RulesOverflow]
  | textarea =>
      apply ((decides_small_rules members decides_readTextareaRules).map FieldKind.textarea).congr
      · simp [kindSlots]
      · simp [RulesOverflow]
  | switch => exact decides_accepted _ (by simp [kindSlots]) (by simp [RulesOverflow])

theorem fieldKeys_eq (zone : Int) (type : FieldType) :
    fieldKeys type = (fieldSlots zone type).map Slot.key := by
  cases type <;> rfl

theorem nodup_fieldSlots (zone : Int) (type : FieldType) :
    ((fieldSlots zone type).flatMap Slot.key).Nodup := by
  rw [List.flatMap_def, ← fieldKeys_eq]
  cases type <;> decide

theorem decides_readTypedField (zone : Int) {type : FieldType}
    (htype : Assoc.get? members "type" = some (.str type.name)) :
    Decides (Fills members (fieldSlots zone type)) (RulesOverflow members type)
      (readTypedField zone members type) := by
  have hrequired : Decides ((⟨requiredKey, false, IsBool⟩ : Slot).Holds members) False
      (members.given requiredKey false readBool) :=
    (Members.decides_given members decides_readBool).congr (by simp [Slot.Holds]) (by simp)
  have hread := ((((decides_needed_slot members "name" decides_readLine).map Field.mk).seq
    (decides_needed_slot members "label" decides_readLine)).seq hrequired).seq
    (decides_readKind members zone type)
  rw [readTypedField, fieldKeys_eq zone type]
  apply (Fills.decided hread (nodup_fieldSlots zone type) _).congr Iff.rfl
  · simp
  · have htyped : (⟨typeKey, true, fun v => v = .str type.name⟩ : Slot).Holds members :=
      holds_needed_iff.2 ⟨_, htype, rfl⟩
    simp [fieldSlots, nameKey, labelKey, htyped, and_assoc]

variable {members}

theorem Fills.type_eq {zone : Int} {type : FieldType} (h : Fills members (fieldSlots zone type)) :
    Assoc.get? members "type" = some (.str type.name) := by
  have hslot : (⟨typeKey, true, fun v => v = .str type.name⟩ : Slot) ∈ fieldSlots zone type := by
    simp [fieldSlots]
  obtain ⟨name, hname, hthere⟩ := h.there _ hslot rfl
  obtain rfl := List.mem_singleton.1 hname
  obtain ⟨v, hget⟩ := Members.mem_keys_iff.1 hthere
  rw [hget, h.taken _ hslot _ hname v hget]

theorem isField_obj_iff {zone : Int} {type : FieldType}
    (htype : Assoc.get? members "type" = some (.str type.name)) :
    IsField zone (.obj members) ↔ Fills members (fieldSlots zone type) := by
  constructor
  · rintro ⟨other, _, heq, hfills⟩
    obtain rfl := Json.obj.inj heq
    have hname : Json.str type.name = .str other.name :=
      Option.some.inj (htype.symm.trans hfills.type_eq)
    have hsame : some type = some other :=
      (typeOf?_eq_some_iff.2 rfl).symm.trans (typeOf?_eq_some_iff.2 hname)
    rw [Option.some.inj hsame]
    exact hfills
  · intro hfills
    exact ⟨type, members, rfl, hfills⟩

theorem fieldOverflows_obj_iff {type : FieldType}
    (htype : Assoc.get? members "type" = some (.str type.name)) :
    FieldOverflows (.obj members) ↔ RulesOverflow members type := by
  constructor
  · rintro ⟨rules, t, htext, hrules, hpattern, hread⟩
    have hsame : Json.str type.name = .str FieldType.text.name :=
      Option.some.inj (htype.symm.trans htext)
    have heq : some type = some .text :=
      (typeOf?_eq_some_iff.2 rfl).symm.trans (typeOf?_eq_some_iff.2 hsame)
    cases rules with
    | obj inner => exact ⟨Option.some.inj heq, inner, hrules, t, hpattern, hread⟩
    | null | bool _ | number _ | str _ | arr _ => cases hpattern
  · rintro ⟨rfl, inner, hrules, t, hpattern, hread⟩
    exact ⟨.obj inner, t, htype, hrules, hpattern, hread⟩

/-- A field on its own is accepted exactly if it is a field of the grammar. -/
theorem decides_readField (zone : Int) (v : Json) :
    Decides (IsField zone v) (FieldOverflows v) (readField zone v) := by
  cases v with
  | obj members =>
      simp only [readField]
      cases hget : Assoc.get? members "type" with
      | none =>
          refine decides_reject .noType ?_ ?_
          · rintro ⟨type, _, heq, hfills⟩
            obtain rfl := Json.obj.inj heq
            cases hget.symm.trans hfills.type_eq
          · rintro ⟨_, _, htype, -⟩
            cases hget.symm.trans htype
      | some json =>
          simp only
          cases htype : typeOf? json with
          | none =>
              have hno : ∀ type, Assoc.get? members "type" ≠ some (.str (FieldType.name type)) := by
                intro type heq
                rw [hget] at heq
                rw [typeOf?_eq_some_iff.2 (Option.some.inj heq)] at htype
                cases htype
              refine decides_reject .unknownType ?_ ?_
              · rintro ⟨type, _, heq, hfills⟩
                obtain rfl := Json.obj.inj heq
                exact hno type hfills.type_eq
              · rintro ⟨_, _, htext, -⟩
                exact hno .text htext
          | some type =>
              rw [typeOf?_eq_some_iff.1 htype] at hget
              apply ((decides_readTypedField members zone hget).under (.key type.name)).congr
              · exact (isField_obj_iff hget).symm
              · exact (fieldOverflows_obj_iff hget).symm
  | null | bool _ | number _ | str _ | arr _ =>
      exact decides_reject .notAField (by simp [IsField, IsObject])
        (by simp [FieldOverflows, Json.get?])

/-! ## Forms -/

theorem decides_readFields (zone : Int) (v : Json) :
    Decides (IsFields zone v) (∃ items, v = .arr items ∧ ∃ item ∈ items, FieldOverflows item)
      (readFields zone v) := by
  cases v with
  | arr items =>
      apply (decides_items (decides_readField zone) 0 items).congr
      · simp [IsFields]
      · simp
  | null | bool _ | number _ | str _ | obj _ =>
      exact decides_reject .notAList (by simp [IsFields]) (by simp)

theorem decides_readForm (zone : Int) (members : Members) :
    Decides (Fills members (formSlots zone)) (Overflows (.obj members))
      (readForm zone members) := by
  have hfields := Members.decides_needed members "fields" (decides_readFields zone)
  have hread := ((decides_needed_slot members "title" decides_readText).map Schema.mk).seq hfields
  apply (Fills.decided hread (show (titleKey ++ (fieldsKey ++ [])).Nodup by decide) _).congr Iff.rfl
  · simp [Overflows, Json.get?]
  · simp [formSlots, titleKey, fieldsKey, holds_needed_iff]

theorem decides_namesDistinct (s : Schema) :
    Decides s.fieldNames.Nodup False (namesDistinct s) := by
  have hread : Definite (namesDistinct s) := by
    unfold namesDistinct
    split
    · exact definite_reject _
    · exact definite_accepted s
  exact hread.congr (by simp [namesDistinct_eq_accepted]) Iff.rfl

theorem tells_of_readField {zone : Int} {item : Json} {f : Field}
    (h : readField zone item = accepted f) : Tells item f := by
  obtain ⟨members, type, rfl, htype, htyped⟩ := readField_eq_accepted.1 h
  obtain ⟨hname, hlabel, -, hkind, -⟩ := readTypedField_eq_accepted.1 htyped
  obtain ⟨v, hgetName, hv⟩ := Members.needed_eq_accepted.1 hname
  obtain ⟨w, hgetLabel, hw⟩ := Members.needed_eq_accepted.1 hlabel
  rw [(readLine_eq_accepted.1 hv).1] at hgetName
  rw [(readLine_eq_accepted.1 hw).1] at hgetLabel
  rw [← type_of_readKind hkind] at htype
  exact ⟨hgetName, hgetLabel, htype⟩

theorem map_name_of_items {zone : Int} {i : Nat} {items : List Json} {fields : List Field}
    (h : Checked.items (readField zone) i items = accepted fields) :
    items.map (fun item => item.get? "name") = fields.map fun f => some (.str f.name) := by
  rw [items_eq_accepted] at h
  rw [← List.forall₂_eq_eq_eq, List.forall₂_map_left_iff, List.forall₂_map_right_iff]
  exact h.imp fun _ _ hread => (tells_of_readField hread).name

theorem nodup_fieldNames_iff {zone : Int} {s : Schema} (h : readForm zone members = accepted s) :
    s.fieldNames.Nodup ↔ NamesDistinct (.obj members) := by
  obtain ⟨items, hget, hitems⟩ := items_of_readForm h
  have hinjective : Function.Injective fun name : Text => some (Json.str name) := by
    intro a b heq
    exact Json.str.inj (Option.some.inj heq)
  have hnames : s.fields.map (fun f => some (Json.str f.name)) =
      s.fieldNames.map fun name => some (Json.str name) := by
    simp [Schema.fieldNames]
  have hdistinct : NamesDistinct (.obj members) ↔
      (items.map fun item => item.get? "name").Nodup := by
    constructor
    · intro hall
      exact hall items hget
    · intro hnodup others hothers
      obtain rfl := Json.arr.inj (Option.some.inj (hget.symm.trans hothers))
      exact hnodup
  rw [hdistinct, map_name_of_items hitems, hnames, List.nodup_map_iff hinjective]

/-- The reader accepts exactly the documents that describe a form. -/
theorem decides_readSchema (zone : Int) (doc : Json) :
    Decides (IsForm zone doc) (Overflows doc) (readSchema zone doc) := by
  cases doc with
  | obj members =>
      have hform := decides_readForm zone members
      apply (hform.andThen fun s _ => decides_namesDistinct s).congr
      · constructor
        · rintro ⟨s, hread, hnodup⟩
          have hfills := hform.accepted_iff.1 ⟨s, hread⟩
          exact ⟨⟨members, rfl, hfills⟩, (nodup_fieldNames_iff hread).1 hnodup⟩
        · rintro ⟨⟨_, heq, hfills⟩, hdistinct⟩
          obtain rfl := Json.obj.inj heq
          obtain ⟨s, hread⟩ := hform.accepted_iff.2 hfills
          exact ⟨s, hread, (nodup_fieldNames_iff hread).2 hdistinct⟩
      · exact Iff.rfl
  | null | bool _ | number _ | str _ | arr _ =>
      exact decides_reject .notAnObject (by simp [IsForm, IsObject])
        (by simp [Overflows, Json.get?])

def skillsDocument : Json :=
  .object
    [("title", .ofString "Skills"),
      ("fields", .arr [
        .object
          [("type", .ofString "number"), ("name", .ofString "years"), ("label", .ofString "Years"),
            ("required", .ofInt 1), ("validations", .object [("min", .ofInt 0), ("max", .null)])],
        .object
          [("type", .ofString "multi-select"), ("name", .ofString "skills"),
            ("label", .ofString "Skills"), ("options", .arr [.ofString "Lean", .ofString "SQL"]),
            ("validations", .null)]])]

def skillsForm : Schema :=
  ⟨"Skills",
    [⟨"years", "Years", true, .number (some ⟨some (.int 0), none⟩)⟩,
      ⟨"skills", "Skills", false, .multiSelect ["Lean", "SQL"] none⟩]⟩

/-- Lone surrogates in the title, an option, a pattern and an earliest day. -/
def surrogateDocument : Json :=
  .object
    [("title", .str [0xD800]),
      ("fields", .arr [
        .object
          [("type", .ofString "select"), ("name", .ofString "team"), ("label", .ofString "Team"),
            ("options", .arr [.str [0xDFFF]])],
        .object
          [("type", .ofString "text"), ("name", .ofString "alias"), ("label", .ofString "Alias"),
            ("validations", .object [("pattern", .str [0xD800])])],
        .object
          [("type", .ofString "date"), ("name", .ofString "start"), ("label", .ofString "Start"),
            ("validations",
              .object [("minDate", .str (Text.ofString "2025-03-01" ++ 0xD800 :: "12:00"))])]])]

end FormIntake.Form
