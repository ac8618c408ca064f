import FormIntake.Form.Document
import FormIntake.Proofs.Form.Accepted
import FormIntake.Proofs.Form.Slots
import FormIntake.Validation
/-!
# Published forms

The document by which a well-formed form is published reads back to that form.
What is open is left out there, and what is left out is read as open.
-/

namespace FormIntake

@[simp] theorem Text.ofString_inj {a b : String} : ofString a = ofString b ↔ a = b := by
  have hchar : Function.Injective CodePoint.ofChar := by
    intro c d h
    have hval : (CodePoint.ofChar c).val = (CodePoint.ofChar d).val := by rw [h]
    exact Char.toNat_inj.1 hval
  constructor
  · intro h
    exact String.toList_injective (hchar.list_map h)
  · exact congrArg ofString

/-! ## Members that are present -/

namespace Members

variable {entries : List (String × Option Json)}

/-- The members of an object that has a value for some of its keys. -/
def published (entries : List (String × Option Json)) : Members :=
  entries.filterMap fun entry => entry.2.map (Text.ofString entry.1, ·)

theorem present_eq (entries : List (String × Option Json)) :
    Json.present entries = .obj (published entries) := by
  simp only [Json.present, Json.object, published, List.map_filterMap, Option.map_map]
  rfl

@[simp] theorem get?_published_nil (name : Text) : Assoc.get? (published []) name = none := rfl

@[simp] theorem get?_published_cons (key : String) (value? : Option Json) (name : Text) :
    Assoc.get? (published ((key, value?) :: entries)) name =
      if Text.ofString key = name then value?.or (Assoc.get? (published entries) name)
      else Assoc.get? (published entries) name := by
  cases value? with
  | none => simp [published]
  | some value => simp [published, Assoc.get?]

/-- Nothing else is there if every key that is used is the preferred spelling of one that is
known. -/
theorem others_published {keys : List Key}
    (h : ∀ entry ∈ entries, entry.2 = none ∨
      ∃ key ∈ keys, key.head? = some (Text.ofString entry.1)) :
    (published entries).others keys = [] := by
  rw [List.eq_nil_iff_forall_not_mem]
  intro name hother
  obtain ⟨hthere, hnot⟩ := mem_others_iff.1 hother
  obtain ⟨member, hmem, rfl⟩ := List.mem_map.1 hthere
  obtain ⟨entry, hentry, heq⟩ := List.mem_filterMap.1 hmem
  obtain ⟨value, hvalue, rfl⟩ := Option.map_eq_some_iff.1 heq
  rcases h entry hentry with hnone | ⟨key, hkey, hhead⟩
  · cases hnone.symm.trans hvalue
  · obtain ⟨rest, rfl⟩ := List.head?_eq_some_iff.1 hhead
    obtain ⟨v, hget⟩ := mem_keys_iff.1 hthere
    apply hnot _ hkey v
    rw [find?_cons, hget]
    rfl

end Members

namespace Form

open Checked Members

variable {members : Members} {zone : Int}

/-! ## Rules -/

theorem rule_published {α : Type} {key : Key} {read : Json → Checked α} {value? : Option α}
    (name : Text) (encode : α → Json)
    (hfind : members.find? key = (value?.map encode).map (name, ·))
    (hread : ∀ a ∈ value?, unlessNull read (encode a) = accepted (some a)) :
    rule members key read = accepted value? := by
  rw [rule_eq_accepted]
  cases value? with
  | none => exact Or.inl ⟨hfind, rfl⟩
  | some a => exact Or.inr ⟨name, encode a, hfind, hread a rfl⟩

theorem unlessNull_readCount (n : Nat) :
    unlessNull Scalar.readCount (.ofNat n) = accepted (some n) := by
  have hread : Scalar.readCount (.ofNat n) = accepted n := by
    simp [Scalar.readCount, Json.ofNat, Json.ofInt, Scalar.readInt]
  change some <$> Scalar.readCount (.ofNat n) = accepted (some n)
  rw [hread]
  rfl

theorem count_published {key : Key} {bound : Option Nat} (name : Text)
    (hfind : members.find? key = (bound.map Json.ofNat).map (name, ·)) :
    rule members key Scalar.readCount = accepted bound :=
  rule_published name Json.ofNat hfind fun n _ => unlessNull_readCount n

theorem number_published {key : Key} {bound : Option Number} (name : Text)
    (hfind : members.find? key = (bound.map Json.number).map (name, ·)) :
    rule members key Scalar.readNumber = accepted bound :=
  rule_published name Json.number hfind fun _ _ => rfl

theorem unlessNull_str {α : Type} {read : Json → Checked α} {t : Text} {a : α}
    (h : read (.str t) = accepted a) : unlessNull read (.str t) = accepted (some a) := by
  change some <$> read (.str t) = accepted (some a)
  rw [h]
  rfl

theorem readTextRules_document {r : TextRules}
    (h : ∀ source ∈ r.pattern, ∃ p, Pattern.compile source = .ok p) :
    ∃ inner, r.document = .obj inner ∧ readTextRules inner = accepted r := by
  refine ⟨_, present_eq _, readTextRules_eq_accepted.2 ⟨?_, ?_, ?_, ?_⟩⟩
  · exact count_published "minLength" (by simp [minLengthKey])
  · exact count_published "maxLength" (by simp [maxLengthKey])
  · apply rule_published "pattern" Json.str
    · simp [patternKey]
    · exact fun source hsource => unlessNull_str (readPattern_eq_accepted.2 ⟨rfl, h source hsource⟩)
  · exact others_published (by simp [minLengthKey, maxLengthKey, patternKey])

theorem readTextareaRules_document (r : TextareaRules) :
    ∃ inner, r.document = .obj inner ∧ readTextareaRules inner = accepted r := by
  refine ⟨_, present_eq _, readTextareaRules_eq_accepted.2 ⟨?_, ?_, ?_⟩⟩
  · exact count_published "minLength" (by simp [minLengthKey])
  · exact count_published "maxLength" (by simp [maxLengthKey])
  · exact others_published (by simp [minLengthKey, maxLengthKey])

theorem readNumberRules_document (r : NumberRules) :
    ∃ inner, r.document = .obj inner ∧ readNumberRules inner = accepted r := by
  refine ⟨_, present_eq _, readNumberRules_eq_accepted.2 ⟨?_, ?_, ?_⟩⟩
  · exact number_published "min" (by simp [minKey])
  · exact number_published "max" (by simp [maxKey])
  · exact others_published (by simp [minKey, maxKey])

theorem readSelectionRules_document (r : SelectionRules) :
    ∃ inner, r.document = .obj inner ∧ readSelectionRules inner = accepted r := by
  refine ⟨_, present_eq _, readSelectionRules_eq_accepted.2 ⟨?_, ?_, ?_⟩⟩
  · exact count_published "minSelected" (by simp [minSelectedKey])
  · exact count_published "maxSelected" (by simp [maxSelectedKey])
  · exact others_published (by simp [minSelectedKey, maxSelectedKey])

theorem readDateRules_document {r : DateRules} (h : ∀ bound ∈ r.minDate, bound.WellFormed zone) :
    ∃ inner, r.document = .obj inner ∧ readDateRules zone inner = accepted r := by
  refine ⟨_, present_eq _, readDateRules_eq_accepted.2 ⟨?_, ?_⟩⟩
  · apply rule_published "minDate" fun bound => Json.str bound.toText
    · simp [minDateKey]
    · exact fun bound hbound => unlessNull_str (readMinDate_eq_accepted.2 ⟨rfl, h bound hbound⟩)
  · exact others_published (by simp [minDateKey])

theorem rules_published {ρ : Type} {read : Members → Checked ρ} {r? : Option ρ} (encode : ρ → Json)
    (hfind : members.find? rulesKey = (r?.map encode).map (("validations" : Text), ·))
    (hread : ∀ r ∈ r?, ∃ inner, encode r = .obj inner ∧ read inner = accepted r) :
    rules members read = accepted r? := by
  apply rule_published "validations" encode hfind
  intro r hr
  obtain ⟨inner, hencode, hinner⟩ := hread r hr
  rw [hencode]
  change some <$> read inner = accepted (some r)
  rw [hinner]
  rfl

/-! ## Fields -/

theorem readKind_document {kind : FieldKind} (h : kind.WellFormed zone)
    (hoptions : Assoc.get? members "options" = kind.options?.map (Json.array .str))
    (hrules : members.find? rulesKey = kind.rulesDocument?.map (("validations" : Text), ·)) :
    readKind zone members kind.type = accepted kind := by
  cases kind with
  | text rules =>
      have hread : Form.rules members readTextRules = accepted rules := by
        apply rules_published TextRules.document hrules
        rintro r rfl
        exact readTextRules_document h
      simp [readKind, FieldKind.type, hread]
  | number rules =>
      have hread : Form.rules members readNumberRules = accepted rules :=
        rules_published NumberRules.document hrules fun r _ => readNumberRules_document r
      simp [readKind, FieldKind.type, hread]
  | select options =>
      have hread : members.needed "options" readOptions = accepted options :=
        needed_eq_accepted.2 ⟨_, hoptions, readOptions_eq_accepted.2 ⟨rfl, h⟩⟩
      simp [readKind, FieldKind.type, hread]
  | multiSelect options rules =>
      have hread : members.needed "options" readOptions = accepted options :=
        needed_eq_accepted.2 ⟨_, hoptions, readOptions_eq_accepted.2 ⟨rfl, h⟩⟩
      have hread' : Form.rules members readSelectionRules = accepted rules :=
        rules_published SelectionRules.document hrules fun r _ => readSelectionRules_document r
      simp [readKind, FieldKind.type, hread, hread']
  | date rules =>
      have hread : Form.rules members (readDateRules zone) = accepted rules := by
        apply rules_published DateRules.document hrules
        rintro r rfl
        exact readDateRules_document h
      simp [readKind, FieldKind.type, hread]
  | textarea rules =>
      have hread : Form.rules members readTextareaRules = accepted rules :=
        rules_published TextareaRules.document hrules fun r _ => readTextareaRules_document r
      simp [readKind, FieldKind.type, hread]
  | switch => rfl

theorem readField_document {f : Field} (h : f.WellFormed zone) :
    readField zone f.document = accepted f := by
  refine readField_eq_accepted.2 ⟨_, f.kind.type, present_eq _, ?_,
    readTypedField_eq_accepted.2 ⟨?_, ?_, ?_, ?_, ?_⟩⟩
  · simp
  · exact needed_eq_accepted.2
      ⟨.str f.name, by simp, readLine_eq_accepted.2 ⟨rfl, h.name⟩⟩
  · exact needed_eq_accepted.2
      ⟨.str f.label, by simp, readLine_eq_accepted.2 ⟨rfl, h.label⟩⟩
  · refine given_eq_accepted.2 (Or.inr ⟨"required", .bool f.required, ?_, rfl⟩)
    simp [requiredKey]
  · apply readKind_document h.kind
    · simp
    · simp [rulesKey]
  · apply others_published
    cases f.kind <;>
      simp [FieldKind.type, FieldKind.options?, FieldKind.rulesDocument?, fieldKeys, nameKey,
        labelKey, requiredKey, typeKey, optionsKey, rulesKey]

theorem items_document {i : Nat} {fields : List Field} (h : ∀ f ∈ fields, f.WellFormed zone) :
    Checked.items (readField zone) i (fields.map Field.document) = accepted fields := by
  rw [items_eq_accepted, List.forall₂_map_left_iff, List.forall₂_same]
  exact fun f hf => readField_document (h f hf)

/-! ## Forms -/

/-- A well-formed form reads back from its document. -/
theorem readSchema_document {s : Schema} (h : s.WellFormed zone) :
    readSchema zone s.document = accepted s := by
  have hfields : readFields zone (.array Field.document s.fields) = accepted s.fields :=
    items_document h.fields
  have hdocument : s.document = .obj (published
      [("title", some (.str s.title)), ("fields", some (.array Field.document s.fields))]) :=
    rfl
  refine readSchema_eq_accepted.2 ⟨_, hdocument, readForm_eq_accepted.2 ⟨?_, ?_, ?_⟩, h.names⟩
  · exact needed_eq_accepted.2 ⟨.str s.title, by simp, rfl⟩
  · exact needed_eq_accepted.2 ⟨_, by simp, hfields⟩
  · exact others_published (by simp [titleKey, fieldsKey])

/-- The forms that documents describe are the well-formed ones. -/
theorem exists_document_iff {s : Schema} :
    (∃ doc, readSchema zone doc = accepted s) ↔ s.WellFormed zone := by
  constructor
  · rintro ⟨doc, hread⟩
    exact wellFormed_of_readSchema hread
  · intro h
    exact ⟨s.document, readSchema_document h⟩

/-- A form that was read from a document is read from the document that publishes it, too: as the
same form, which has the same document and gives the same answer about every record. -/
theorem published_form_reads_back {doc : Json} {s : Schema}
    (h : readSchema zone doc = accepted s) :
    ∃ rebuilt, readSchema zone s.document = accepted rebuilt ∧ rebuilt = s ∧
      rebuilt.document = s.document ∧
      ∀ today record, Validation.validate zone today rebuilt record =
        Validation.validate zone today s record := by
  refine ⟨s, readSchema_document (wellFormed_of_readSchema h), rfl, rfl, ?_⟩
  intro today record
  rfl

/-- Bounds as texts and truth values, other spellings of keys, and a bound that is no number. -/
def laxDocument : Json :=
  .object
    [("title", .ofString "Intake"),
      ("fields", .arr [
        .object
          [("type", .ofString "number"), ("name", .ofString "age"), ("label", .ofString "Age"),
            ("required", .ofString "YES"),
            ("validations",
              .object [("min", .ofString " 1_8.0 "), ("max", .number (.double .nan))])],
        .object
          [("type", .ofString "text"), ("name", .ofString "alias"), ("label", .ofString "Alias"),
            ("validations",
              .object [("min_length", .bool true), ("maxLength", .ofString "12"),
                ("pattern", .null)])],
        .object
          [("type", .ofString "date"), ("name", .ofString "start"), ("label", .ofString "Start"),
            ("validations", .object [("min_date", .ofString "2025-03-01")])]])]

def laxForm : Schema :=
  ⟨"Intake",
    [⟨"age", "Age", true, .number (some ⟨some (.int 18), some (.double .nan)⟩)⟩,
      ⟨"alias", "Alias", false, .text (some ⟨some 1, some 12, none⟩)⟩,
      ⟨"start", "Start", false, .date (some ⟨some (.text "2025-03-01")⟩)⟩]⟩

theorem lax_form_reads_back :
    readSchema 0 laxDocument = accepted laxForm ∧
      readSchema 0 laxForm.document = accepted laxForm := by
  have hread : readSchema 0 laxDocument = accepted laxForm := rfl
  obtain ⟨rebuilt, hagain, rfl, -⟩ := published_form_reads_back hread
  exact ⟨hread, hagain⟩

end Form

end FormIntake
