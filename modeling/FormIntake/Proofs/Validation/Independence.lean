import FormIntake.Proofs.Assoc
import FormIntake.Proofs.Validation.Records
import Mathlib.Data.List.Nodup
/-!
# Fields are judged on their own

The errors of a record are the messages of the fields, in the order of the
form. A message depends on nothing but its field and the value under the
field's name, so neither the other fields nor the other members of the record
have any influence on it.
-/

namespace FormIntake

namespace Validation

variable {zone : Int} {today : Date} {record record' : Json} {fields fields' : List Field}

/-! ## The outcome of a field -/

def Judged (zone : Int) (today : Date) (record : Json) (f : Field) : Prop :=
  ∃ o, validateField zone today f (valueFor record f) = .ok o

def message? (zone : Int) (today : Date) (record : Json) (f : Field) : Option Text :=
  match validateField zone today f (valueFor record f) with
  | .ok o => o
  | .error _ => none

/-- The messages about a record with the names of their fields, in the order of the fields. -/
def errorsOf (zone : Int) (today : Date) (record : Json) (fields : List Field) : Errors :=
  fields.filterMap fun f => (message? zone today record f).map fun message => (f.name, message)

theorem message?_eq {f : Field} {o : Option Text}
    (h : validateField zone today f (valueFor record f) = .ok o) :
    message? zone today record f = o := by
  rw [message?, h]

theorem validateField_eq_message? {f : Field} (h : Judged zone today record f) :
    validateField zone today f (valueFor record f) = .ok (message? zone today record f) := by
  obtain ⟨o, ho⟩ := h
  rw [message?_eq ho, ho]

theorem errorsOf_cons (f : Field) (rest : List Field) :
    errorsOf zone today record (f :: rest) =
      ((message? zone today record f).map fun message => (f.name, message)).toList ++
        errorsOf zone today record rest := by
  rw [errorsOf, List.filterMap_cons]
  cases message? zone today record f <;> rfl

theorem mem_errorsOf_iff (error : Text × Text) :
    error ∈ errorsOf zone today record fields ↔
      ∃ f ∈ fields, f.name = error.1 ∧ message? zone today record f = some error.2 := by
  simp only [errorsOf, List.mem_filterMap, Option.map_eq_some_iff, Prod.ext_iff]
  constructor
  · rintro ⟨f, hf, message, hmessage, hname, rfl⟩
    exact ⟨f, hf, hname, hmessage⟩
  · rintro ⟨f, hf, hname, hmessage⟩
    exact ⟨f, hf, error.2, hmessage, hname, rfl⟩

theorem mem_keys_errorsOf_iff (name : Text) :
    name ∈ Assoc.keys (errorsOf zone today record fields) ↔
      ∃ f ∈ fields, f.name = name ∧ message? zone today record f ≠ none := by
  rw [Assoc.keys, List.mem_map]
  constructor
  · rintro ⟨error, herror, rfl⟩
    obtain ⟨f, hf, hname, hmessage⟩ := (mem_errorsOf_iff error).1 herror
    exact ⟨f, hf, hname, by simp [hmessage]⟩
  · rintro ⟨f, hf, rfl, hmessage⟩
    obtain ⟨message, hmessage⟩ := Option.ne_none_iff_exists'.1 hmessage
    exact ⟨(f.name, message), (mem_errorsOf_iff _).2 ⟨f, hf, rfl, hmessage⟩, rfl⟩

theorem errorsOf_eq_nil_iff :
    errorsOf zone today record fields = [] ↔ ∀ f ∈ fields, message? zone today record f = none := by
  simp [errorsOf, List.filterMap_eq_nil_iff]

/-- The errors stand in the order of their fields. -/
theorem keys_errorsOf_sublist :
    (Assoc.keys (errorsOf zone today record fields)).Sublist (fields.map Field.name) := by
  induction fields with
  | nil => exact List.Sublist.refl _
  | cons f rest ih =>
      rw [errorsOf_cons, Assoc.keys, List.map_append]
      cases message? zone today record f with
      | none => exact ih.cons _
      | some message => exact ih.cons_cons _

theorem errorsOf_perm (h : fields'.Perm fields) :
    (errorsOf zone today record fields').Perm (errorsOf zone today record fields) :=
  h.filterMap _

/-! ## The errors of a record -/

/-- What a record has for the field is all that the field looks at. -/
theorem collect_congr {f : Field} (h : valueFor record' f = valueFor record f) (errors : Errors) :
    collect zone today record' errors f = collect zone today record errors f := by
  unfold valueFor at h
  unfold collect
  rw [h]

theorem foldlM_collect_congr (h : ∀ f ∈ fields, valueFor record' f = valueFor record f)
    (errors : Errors) :
    fields.foldlM (collect zone today record') errors =
      fields.foldlM (collect zone today record) errors := by
  induction fields generalizing errors with
  | nil => rfl
  | cons f rest ih =>
      obtain ⟨hf, hrest⟩ := List.forall_mem_cons.1 h
      rw [List.foldlM_cons, List.foldlM_cons, collect_congr hf]
      exact bind_congr fun next => ih hrest next

theorem validate_congr {schema : Schema}
    (h : ∀ f ∈ schema.fields, valueFor record' f = valueFor record f) :
    validate zone today schema record' = validate zone today schema record :=
  foldlM_collect_congr h []

theorem collect_of_fault {f : Field} {fault : Fault}
    (h : validateField zone today f (valueFor record f) = .error fault) (errors : Errors) :
    collect zone today record errors f = .error fault := by
  rw [collect, ← valueFor, h]

theorem collect_of_kept {f : Field}
    (h : validateField zone today f (valueFor record f) = .ok none) (errors : Errors) :
    collect zone today record errors f = .ok errors := by
  rw [collect, ← valueFor, h]

theorem collect_of_message {f : Field} {message : Text} {errors : Errors}
    (h : validateField zone today f (valueFor record f) = .ok (some message))
    (hnew : f.name ∉ Assoc.keys errors) :
    collect zone today record errors f = .ok (errors ++ [(f.name, message)]) := by
  rw [collect, ← valueFor, h, ← Assoc.put_of_not_mem hnew]

/-- With distinct names no field meets an error that is already there under its name, so each adds
its own at the end. -/
theorem foldlM_collect_eq_ok_iff {errors result : Errors}
    (hnames : (Assoc.keys errors ++ fields.map Field.name).Nodup) :
    fields.foldlM (collect zone today record) errors = .ok result ↔
      (∀ f ∈ fields, Judged zone today record f) ∧
        result = errors ++ errorsOf zone today record fields := by
  induction fields generalizing errors with
  | nil =>
      have hpure : (pure errors : Except Fault Errors) = .ok result ↔ errors = result :=
        ⟨fun h => Except.ok.inj h, fun h => h ▸ rfl⟩
      rw [List.foldlM_nil, hpure]
      simp [errorsOf, eq_comm]
  | cons f rest ih =>
      rw [List.foldlM_cons, List.forall_mem_cons, errorsOf_cons]
      cases hfield : validateField zone today f (valueFor record f) with
      | error fault =>
          have hnot : ¬ Judged zone today record f := by
            rintro ⟨o, ho⟩
            rw [hfield] at ho
            cases ho
          rw [collect_of_fault hfield]
          constructor
          · intro h
            cases h
          · rintro ⟨⟨hjudged, -⟩, -⟩
            exact absurd hjudged hnot
      | ok o =>
          have hjudged : Judged zone today record f := ⟨o, hfield⟩
          rw [message?_eq hfield]
          cases o with
          | none =>
              have hrest : (Assoc.keys errors ++ rest.map Field.name).Nodup :=
                hnames.sublist ((List.Sublist.refl _).append (List.sublist_cons_self _ _))
              rw [collect_of_kept hfield]
              exact (ih hrest).trans (by simp [hjudged])
          | some message =>
              have hnew : f.name ∉ Assoc.keys errors := fun hmem =>
                (List.nodup_append.1 hnames).2.2 _ hmem _ List.mem_cons_self rfl
              have hkeys : Assoc.keys (errors ++ [(f.name, message)]) ++ rest.map Field.name =
                  Assoc.keys errors ++ (f :: rest).map Field.name := by
                simp [Assoc.keys]
              rw [collect_of_message hfield hnew]
              exact (ih (hkeys ▸ hnames)).trans (by simp [hjudged])

/-- The errors of a record are exactly the messages of the fields, in the order of the form. -/
theorem validate_eq_ok_iff {schema : Schema} (hnames : schema.fieldNames.Nodup) {errors : Errors} :
    validate zone today schema record = .ok errors ↔
      (∀ f ∈ schema.fields, Judged zone today record f) ∧
        errors = errorsOf zone today record schema.fields :=
  foldlM_collect_eq_ok_iff hnames

theorem validate_eq_nil_iff {schema : Schema} (hnames : schema.fieldNames.Nodup) :
    validate zone today schema record = .ok [] ↔
      ∀ f ∈ schema.fields, validateField zone today f (valueFor record f) = .ok none := by
  rw [validate_eq_ok_iff hnames, eq_comm (a := []), errorsOf_eq_nil_iff, ← forall₂_and]
  refine forall₂_congr fun f _ => ⟨fun ⟨hjudged, hnone⟩ => ?_, fun h => ⟨⟨none, h⟩, message?_eq h⟩⟩
  rw [validateField_eq_message? hjudged, hnone]

/-- Setting the errors under a name aside is the same as setting the fields of that name aside. -/
theorem filter_errorsOf (name : Text) :
    (errorsOf zone today record fields).filter (fun error => error.1 ≠ name) =
      errorsOf zone today record (fields.filter fun f => f.name ≠ name) := by
  induction fields with
  | nil => rfl
  | cons f rest ih =>
      rw [errorsOf_cons, List.filter_append, ih, List.filter_cons]
      by_cases hname : f.name = name
      · cases message? zone today record f <;> simp [hname]
      · rw [if_pos (decide_eq_true hname), errorsOf_cons]
        cases message? zone today record f <;> simp [hname]

theorem errorsOf_congr (h : ∀ f ∈ fields, valueFor record' f = valueFor record f) :
    errorsOf zone today record' fields = errorsOf zone today record fields := by
  apply List.filterMap_congr
  intro f hf
  rw [message?, message?, h f hf]

/-- How a form judges a record: field by field, each for itself. -/
structure JudgesAlone (zone : Int) (today : Date) (schema : Schema) (record : Json) : Prop where
  /-- The errors are those of the fields, none lost, none overwritten, none moved. -/
  exact : ∀ errors, validate zone today schema record = .ok errors ↔
    (∀ f ∈ schema.fields, Judged zone today record f) ∧
      errors = errorsOf zone today record schema.fields
  valid_iff : validate zone today schema record = .ok [] ↔
    ∀ f ∈ schema.fields, validateField zone today f (valueFor record f) = .ok none
  /-- The same fields in another order have the same errors in that order. -/
  reordered : ∀ other : Schema, other.fields.Perm schema.fields → ∀ errors,
    validate zone today schema record = .ok errors →
      ∃ errors', validate zone today other record = .ok errors' ∧ errors'.Perm errors ∧
        (Assoc.keys errors').Sublist other.fieldNames ∧ (errors' = [] ↔ errors = [])
  /-- Records that hold the same for every field are judged the same. -/
  agreeing : ∀ record', (∀ f ∈ schema.fields, valueFor record' f = valueFor record f) →
    validate zone today schema record' = validate zone today schema record
  /-- What is held under one name matters to the error of that name only. -/
  changed : ∀ record' name,
    (∀ f ∈ schema.fields, f.name ≠ name → valueFor record' f = valueFor record f) →
      ∀ errors errors', validate zone today schema record = .ok errors →
        validate zone today schema record' = .ok errors' →
          errors'.filter (fun error => error.1 ≠ name) = errors.filter fun error => error.1 ≠ name

theorem judgesAlone_of_nodup {schema : Schema} (hnames : schema.fieldNames.Nodup) (zone : Int)
    (today : Date) (record : Json) : JudgesAlone zone today schema record := by
  refine ⟨fun errors => validate_eq_ok_iff hnames, validate_eq_nil_iff hnames, ?_,
    fun record' => validate_congr, ?_⟩
  · intro other hperm errors herrors
    obtain ⟨hjudged, rfl⟩ := (validate_eq_ok_iff hnames).1 herrors
    have hnames' : other.fieldNames.Nodup := ((hperm.map Field.name).nodup_iff).2 hnames
    have hjudged' : ∀ f ∈ other.fields, Judged zone today record f :=
      fun f hf => hjudged f (hperm.subset hf)
    have herrors' : (errorsOf zone today record other.fields).Perm
        (errorsOf zone today record schema.fields) := errorsOf_perm hperm
    exact ⟨_, (validate_eq_ok_iff hnames').2 ⟨hjudged', rfl⟩, herrors', keys_errorsOf_sublist,
      ⟨fun hnil => (hnil ▸ herrors').symm.eq_nil, fun hnil => (hnil ▸ herrors').eq_nil⟩⟩
  · intro record' name hagree errors errors' herrors herrors'
    rw [((validate_eq_ok_iff hnames).1 herrors).2, ((validate_eq_ok_iff hnames).1 herrors').2,
      filter_errorsOf, filter_errorsOf]
    apply errorsOf_congr
    intro f hf
    obtain ⟨hmem, hne⟩ := List.mem_filter.1 hf
    exact hagree f hmem (of_decide_eq_true hne)

/-- A form that was read from a document judges every record field by field. In the zone in which
it was read it does come to a verdict, as long as its numbers keep to the digit limit. -/
theorem accepted_form_judges_alone {origin : Int} {doc : Json} {schema : Schema}
    (h : Form.readSchema origin doc = .accepted schema) (zone : Int) (today : Date)
    (record : Json) :
    JudgesAlone zone today schema record ∧
      (doc.integerDigits ≤ Numeral.digitLimit →
        ∀ f ∈ schema.fields, Judged origin today record f) := by
  refine ⟨judgesAlone_of_nodup (Form.wellFormed_of_readSchema h).names zone today record, ?_⟩
  intro hdigits f hf
  obtain ⟨o, -, hfield⟩ := validateField_spec (Form.checkable_of_readSchema h hf)
    (Form.nameable_of_readSchema h hdigits hf) today (valueFor record f)
  exact ⟨_, hfield⟩

def visitForm : Schema where
  title := "Visit"
  fields := [⟨"guest", "Guest", true, .text none⟩, ⟨"count", "Count", true, .number none⟩]

def visitDocument : Json :=
  .object
    [("title", .ofString "Visit"),
      ("fields", .arr
        [.object [("type", .ofString "text"), ("name", .ofString "guest"),
            ("label", .ofString "Guest"), ("required", .ofNat 1)],
          .object [("type", .ofString "number"), ("name", .ofString "count"),
            ("label", .ofString "Count"), ("required", .bool true)]])]

/-- A record with a wrong number, a missing guest and a member that no field asks for. -/
def visitRecord : Json :=
  .object [("note", .null), ("count", .bool true)]

theorem visit_form_judges_alone :
    Form.readSchema 0 visitDocument = .accepted visitForm ∧
      validate 0 ⟨2026, 10, 19, by decide⟩ visitForm visitRecord =
        .ok [("guest", "Guest is required."), ("count", "Count must be a number.")] ∧
      validate 0 ⟨2026, 10, 19, by decide⟩ visitForm (.object [("count", .bool true)]) =
        .ok [("guest", "Guest is required."), ("count", "Count must be a number.")] := by
  have hread : Form.readSchema 0 visitDocument = .accepted visitForm := rfl
  have herrors : validate 0 ⟨2026, 10, 19, by decide⟩ visitForm visitRecord =
      .ok [("guest", "Guest is required."), ("count", "Count must be a number.")] := rfl
  obtain ⟨halone, -⟩ := accepted_form_judges_alone hread 0 ⟨2026, 10, 19, by decide⟩ visitRecord
  refine ⟨hread, herrors, ?_⟩
  rw [halone.agreeing, herrors]
  intro f hf
  simp only [visitForm, List.mem_cons, List.not_mem_nil, or_false] at hf
  rcases hf with rfl | rfl <;> rfl

end Validation

end FormIntake
