import FormIntake.Form.Reader
import FormIntake.Proofs.Checked
/-!
# The readers of form documents

What each reader of a part accepts, as an equivalence: the values it takes and
the readings of the parts below it.
-/

namespace FormIntake

/-! ## Members -/

namespace Members

variable {α : Type} {members : Members}

theorem find?_eq_some {key : Key} {name : Text} {value : Json}
    (h : members.find? key = some (name, value)) :
    name ∈ key ∧ Assoc.get? members name = some value := by
  obtain ⟨spelling, hmem, hfound⟩ := List.exists_of_findSome?_eq_some h
  obtain ⟨json, hget, heq⟩ := Option.map_eq_some_iff.1 hfound
  obtain ⟨rfl, rfl⟩ := Prod.mk.inj heq
  exact ⟨hmem, hget⟩

theorem given_eq_accepted {key : Key} {default a : α} {read : Json → Checked α} :
    members.given key default read = .accepted a ↔
      (members.find? key = none ∧ a = default) ∨
        ∃ name v, members.find? key = some (name, v) ∧ read v = .accepted a := by
  unfold given
  cases members.find? key with
  | none => simp [eq_comm]
  | some found =>
      obtain ⟨name, v⟩ := found
      simp [and_assoc]

theorem needed_eq_accepted {name : Text} {a : α} {read : Json → Checked α} :
    members.needed name read = .accepted a ↔
      ∃ v, Assoc.get? members name = some v ∧ read v = .accepted a := by
  unfold needed
  cases Assoc.get? members name with
  | none => simp [Checked.reject, Checked.under]
  | some v => simp

theorem nothingElse_eq_accepted {keys : List Key} {u : Unit} :
    members.nothingElse keys = .accepted u ↔ members.others keys = [] := by
  unfold nothingElse
  cases members.others keys <;> simp

end Members

/-- An earliest day as a form keeps it: the word for the current day is not kept as a text. -/
def MinDate.WellFormed (zone : Int) : MinDate → Prop
  | today => True
  | text t => t ≠ keyword ∧ ∃ day, Calendar.readDay? zone t = some day

namespace Form

/-! ## Values -/

theorem readText_eq_accepted {json : Json} {t : Text} :
    readText json = .accepted t ↔ json = .str t := by
  cases json <;> simp [readText, Checked.reject]

theorem readLine_eq_accepted {json : Json} {t : Text} :
    readLine json = .accepted t ↔ json = .str t ∧ t ≠ [] ∧ t.hasSurrogate = false := by
  cases json with
  | str u =>
      have hread : readLine (.str u) = .accepted t ↔
          u.hasSurrogate = false ∧ u ≠ [] ∧ u = t := by
        simp only [readLine]
        split
        · rename_i hsurrogate
          simp [Checked.reject, hsurrogate]
        · rename_i hsurrogate
          split
          · rename_i hempty
            simp [Checked.reject, List.isEmpty_iff.1 hempty]
          · rename_i hnonempty
            simp [hsurrogate, mt List.isEmpty_iff.2 hnonempty]
      rw [hread, Json.str.injEq]
      constructor
      · rintro ⟨hsurrogate, hne, rfl⟩
        exact ⟨rfl, hne, hsurrogate⟩
      · rintro ⟨rfl, hne, hsurrogate⟩
        exact ⟨hsurrogate, hne, rfl⟩
  | null | bool _ | number _ | arr _ | obj _ => simp [readLine, Checked.reject]

theorem items_readText_eq_accepted {i : Nat} {items : List Json} {options : List Text} :
    Checked.items readText i items = .accepted options ↔ items = options.map .str := by
  simp only [Checked.items_eq_accepted, readText_eq_accepted]
  rw [← List.forall₂_map_right_iff, List.forall₂_eq_eq_eq]

theorem any_isText_iff (options : List Text) :
    (options.map Json.str).any isText = true ↔ options ≠ [] := by
  cases options <;> simp [isText]

theorem readOptions_eq_accepted {json : Json} {options : List Text} :
    readOptions json = .accepted options ↔
      json = .arr (options.map .str) ∧ options ≠ [] ∧ options.Nodup := by
  cases json with
  | arr items =>
      simp only [readOptions, Checked.andThen_eq_accepted, Checked.seqLeft_eq_accepted,
        items_readText_eq_accepted, Checked.require_eq_accepted, Checked.ite_eq_accepted,
        Json.arr.injEq]
      constructor
      · rintro ⟨_, ⟨rfl, -, hany⟩, hnodup, rfl⟩
        exact ⟨rfl, (any_isText_iff _).1 hany, hnodup⟩
      · rintro ⟨rfl, hne, hnodup⟩
        exact ⟨options, ⟨rfl, (), (any_isText_iff options).2 hne⟩, hnodup, rfl⟩
  | null | bool _ | number _ | str _ | obj _ => simp [readOptions, Checked.reject]

theorem readPattern_eq_accepted {json : Json} {source : Text} :
    readPattern json = .accepted source ↔
      json = .str source ∧ ∃ p, Pattern.compile source = .ok p := by
  cases json with
  | str t =>
      have hread : readPattern (.str t) = .accepted source ↔
          (∃ p, Pattern.compile t = .ok p) ∧ t = source := by
        cases hp : Pattern.compile t with
        | ok p => simp [readPattern, hp]
        | error e => cases e <;> simp [readPattern, hp, Checked.reject]
      rw [hread, Json.str.injEq]
      constructor
      · rintro ⟨hp, rfl⟩
        exact ⟨rfl, hp⟩
      · rintro ⟨rfl, hp⟩
        exact ⟨hp, rfl⟩
  | null | bool _ | number _ | arr _ | obj _ => simp [readPattern, Checked.reject]

theorem readMinDate_eq_accepted {zone : Int} {json : Json} {bound : MinDate} :
    readMinDate zone json = .accepted bound ↔
      json = .str bound.toText ∧ bound.WellFormed zone := by
  cases json with
  | str t =>
      simp only [readMinDate, Checked.ite_eq_accepted, Json.str.injEq, Option.isSome_iff_exists]
      constructor
      · rintro ⟨hday, rfl⟩
        unfold MinDate.ofText
        by_cases hword : t = MinDate.keyword
        · rw [if_pos hword]
          exact ⟨hword, trivial⟩
        · rw [if_neg hword]
          exact ⟨rfl, hword, hday.resolve_left hword⟩
      · rintro ⟨rfl, hbound⟩
        cases bound with
        | today => exact ⟨Or.inl rfl, if_pos rfl⟩
        | text u => exact ⟨Or.inr hbound.2, if_neg hbound.1⟩
  | null | bool _ | number _ | arr _ | obj _ => simp [readMinDate, Checked.reject]

/-! ## Rules -/

variable {members : Members}

theorem rule_eq_accepted {α : Type} {key : Key} {read : Json → Checked α} {a? : Option α} :
    rule members key read = .accepted a? ↔
      (members.find? key = none ∧ a? = none) ∨
        ∃ name v, members.find? key = some (name, v) ∧
          Checked.unlessNull read v = .accepted a? :=
  Members.given_eq_accepted

theorem readTextRules_eq_accepted {r : TextRules} :
    readTextRules members = .accepted r ↔
      rule members minLengthKey Scalar.readCount = .accepted r.minLength ∧
      rule members maxLengthKey Scalar.readCount = .accepted r.maxLength ∧
      rule members patternKey readPattern = .accepted r.pattern ∧
      members.others [minLengthKey, maxLengthKey, patternKey] = [] := by
  simp only [readTextRules, Checked.seqLeft_eq_accepted, Checked.seq_eq_accepted,
    Checked.map_eq_accepted, Members.nothingElse_eq_accepted]
  constructor
  · rintro ⟨⟨_, _, ⟨_, _, ⟨_, hmin, rfl⟩, hmax, rfl⟩, hpattern, rfl⟩, -, hothers⟩
    exact ⟨hmin, hmax, hpattern, hothers⟩
  · rintro ⟨hmin, hmax, hpattern, hothers⟩
    exact ⟨⟨_, _, ⟨_, _, ⟨_, hmin, rfl⟩, hmax, rfl⟩, hpattern, rfl⟩, (), hothers⟩

theorem readTextareaRules_eq_accepted {r : TextareaRules} :
    readTextareaRules members = .accepted r ↔
      rule members minLengthKey Scalar.readCount = .accepted r.minLength ∧
      rule members maxLengthKey Scalar.readCount = .accepted r.maxLength ∧
      members.others [minLengthKey, maxLengthKey] = [] := by
  cases r
  simp [readTextareaRules, Members.nothingElse_eq_accepted, and_assoc]

theorem readNumberRules_eq_accepted {r : NumberRules} :
    readNumberRules members = .accepted r ↔
      rule members minKey Scalar.readNumber = .accepted r.min ∧
      rule members maxKey Scalar.readNumber = .accepted r.max ∧
      members.others [minKey, maxKey] = [] := by
  cases r
  simp [readNumberRules, Members.nothingElse_eq_accepted, and_assoc]

theorem readSelectionRules_eq_accepted {r : SelectionRules} :
    readSelectionRules members = .accepted r ↔
      rule members minSelectedKey Scalar.readCount = .accepted r.minSelected ∧
      rule members maxSelectedKey Scalar.readCount = .accepted r.maxSelected ∧
      members.others [minSelectedKey, maxSelectedKey] = [] := by
  cases r
  simp [readSelectionRules, Members.nothingElse_eq_accepted, and_assoc]

theorem readDateRules_eq_accepted {zone : Int} {r : DateRules} :
    readDateRules zone members = .accepted r ↔
      rule members minDateKey (readMinDate zone) = .accepted r.minDate ∧
      members.others [minDateKey] = [] := by
  cases r
  simp [readDateRules, Members.nothingElse_eq_accepted]

/-! ## Fields -/

variable {zone : Int}

theorem readTypedField_eq_accepted {type : FieldType} {f : Field} :
    readTypedField zone members type = .accepted f ↔
      members.needed "name" readLine = .accepted f.name ∧
      members.needed "label" readLine = .accepted f.label ∧
      members.given requiredKey false Scalar.readBool = .accepted f.required ∧
      readKind zone members type = .accepted f.kind ∧
      members.others (fieldKeys type) = [] := by
  simp only [readTypedField, Checked.seqLeft_eq_accepted, Checked.seq_eq_accepted,
    Checked.map_eq_accepted, Members.nothingElse_eq_accepted]
  constructor
  · rintro ⟨⟨_, _, ⟨_, _, ⟨_, _, ⟨_, hname, rfl⟩, hlabel, rfl⟩, hrequired, rfl⟩, hkind, rfl⟩, -,
      hothers⟩
    exact ⟨hname, hlabel, hrequired, hkind, hothers⟩
  · rintro ⟨hname, hlabel, hrequired, hkind, hothers⟩
    exact ⟨⟨_, _, ⟨_, _, ⟨_, _, ⟨_, hname, rfl⟩, hlabel, rfl⟩, hrequired, rfl⟩, hkind, rfl⟩, (),
      hothers⟩

theorem ofName?_eq_some_iff {t : Text} {type : FieldType} :
    FieldType.ofName? t = some type ↔ t = type.name := by
  constructor
  · intro h
    have hname := List.find?_some h
    rw [decide_eq_true_eq] at hname
    exact hname.symm
  · rintro rfl
    cases type <;> decide

theorem typeOf?_eq_some_iff {v : Json} {type : FieldType} :
    typeOf? v = some type ↔ v = .str type.name := by
  cases v with
  | str t => simp [typeOf?, ofName?_eq_some_iff]
  | null | bool _ | number _ | arr _ | obj _ => simp [typeOf?]

theorem readField_eq_accepted {json : Json} {f : Field} :
    readField zone json = .accepted f ↔
      ∃ members type, json = .obj members ∧
        Assoc.get? members "type" = some (.str (FieldType.name type)) ∧
        readTypedField zone members type = .accepted f := by
  cases json with
  | obj members =>
      simp only [readField]
      cases hget : Assoc.get? members "type" with
      | none => simp [Checked.reject, hget]
      | some v =>
          cases htype : typeOf? v with
          | none =>
              have hno : ∀ type : FieldType, v ≠ .str type.name := by
                intro type heq
                rw [typeOf?_eq_some_iff.2 heq] at htype
                cases htype
              simp [Checked.reject, hget, hno, htype]
          | some type =>
              simp only [htype, Checked.under_eq_accepted]
              constructor
              · intro h
                rw [typeOf?_eq_some_iff.1 htype] at hget
                exact ⟨members, type, rfl, hget, h⟩
              · rintro ⟨_, other, heq, hother, h⟩
                obtain rfl := Json.obj.inj heq
                have hv : v = .str other.name := Option.some.inj (hget.symm.trans hother)
                rw [typeOf?_eq_some_iff.2 hv] at htype
                rwa [← Option.some.inj htype]
  | null | bool _ | number _ | str _ | arr _ => simp [readField, Checked.reject]

theorem readForm_eq_accepted {s : Schema} :
    readForm zone members = .accepted s ↔
      members.needed "title" readText = .accepted s.title ∧
      members.needed "fields" (readFields zone) = .accepted s.fields ∧
      members.others [titleKey, fieldsKey] = [] := by
  cases s
  simp [readForm, Members.nothingElse_eq_accepted, and_assoc]

theorem firstRepeated?_eq_none_iff {seen names : List Text} :
    firstRepeated? seen names = none ↔ names.Nodup ∧ ∀ name ∈ names, name ∉ seen := by
  induction names generalizing seen with
  | nil => simp [firstRepeated?]
  | cons name rest ih =>
      unfold firstRepeated?
      split
      · rename_i hseen
        have hmem : name ∈ seen := List.contains_iff_mem.1 hseen
        simp [hmem]
      · rename_i hnew
        have hnotin : name ∉ seen := mt List.contains_iff_mem.2 hnew
        rw [ih, List.nodup_cons]
        constructor
        · rintro ⟨hnodup, hfresh⟩
          refine ⟨⟨fun hmem => hfresh name hmem List.mem_cons_self, hnodup⟩, ?_⟩
          intro other hother
          rcases List.mem_cons.1 hother with rfl | hmem
          · exact hnotin
          · exact fun hin => hfresh other hmem (List.mem_cons_of_mem _ hin)
        · rintro ⟨⟨hself, hnodup⟩, hfresh⟩
          refine ⟨hnodup, ?_⟩
          intro other hother hin
          rcases List.mem_cons.1 hin with rfl | hmem
          · exact hself hother
          · exact hfresh other (List.mem_cons_of_mem _ hother) hmem

theorem namesDistinct_eq_accepted {r s : Schema} :
    namesDistinct r = .accepted s ↔ r.fieldNames.Nodup ∧ r = s := by
  have hnodup : firstRepeated? [] r.fieldNames = none ↔ r.fieldNames.Nodup := by
    simp [firstRepeated?_eq_none_iff]
  rw [← hnodup]
  unfold namesDistinct
  cases firstRepeated? [] r.fieldNames <;> simp [Checked.reject]

theorem readSchema_eq_accepted {doc : Json} {s : Schema} :
    readSchema zone doc = .accepted s ↔
      ∃ members, doc = .obj members ∧ readForm zone members = .accepted s ∧
        s.fieldNames.Nodup := by
  cases doc with
  | obj members =>
      simp only [readSchema, Checked.andThen_eq_accepted, namesDistinct_eq_accepted,
        Json.obj.injEq, exists_eq_left']
      constructor
      · rintro ⟨_, hform, hnodup, rfl⟩
        exact ⟨hform, hnodup⟩
      · rintro ⟨hform, hnodup⟩
        exact ⟨s, hform, hnodup, rfl⟩
  | null | bool _ | number _ | str _ | arr _ => simp [readSchema, Checked.reject]

end Form

end FormIntake
