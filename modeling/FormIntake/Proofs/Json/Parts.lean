import FormIntake.Json.Nesting
import FormIntake.Json.Texts
/-!
# The parts of a value

Induction over the items of lists and the members of objects, values in which
no object has a key twice, and values whose strings have an encoding.
-/

namespace FormIntake.Json

/-- What a list has if its items have it, and an object if its values have it, every value has. -/
@[elab_as_elim]
theorem byParts {motive : Json → Prop} (null : motive .null) (bool : ∀ b, motive (.bool b))
    (number : ∀ x, motive (.number x)) (str : ∀ t, motive (.str t))
    (arr : ∀ items, (∀ item ∈ items, motive item) → motive (.arr items))
    (obj : ∀ members, (∀ member ∈ members, motive member.2) → motive (.obj members))
    (json : Json) : motive json :=
  @Json.rec motive (fun items => ∀ item ∈ items, motive item)
    (fun members => ∀ member ∈ members, motive member.2) (fun member => motive member.2)
    null bool number str arr obj (List.forall_mem_nil _)
    (fun _ _ hfirst hrest => List.forall_mem_cons.2 ⟨hfirst, hrest⟩) (List.forall_mem_nil _)
    (fun _ _ hfirst hrest => List.forall_mem_cons.2 ⟨hfirst, hrest⟩) (fun _ _ h => h) json

theorem hasSurrogateItems_eq_any (items : List Json) :
    hasSurrogateItems items = items.any hasSurrogate := by
  induction items with
  | nil => rfl
  | cons item rest ih => rw [hasSurrogateItems, ih, List.any_cons]

theorem hasSurrogateMembers_eq_any (members : List (Text × Json)) :
    hasSurrogateMembers members =
      members.any fun member => member.1.hasSurrogate || member.2.hasSurrogate := by
  induction members with
  | nil => rfl
  | cons member rest ih => rw [hasSurrogateMembers, ih, List.any_cons]

theorem hasSurrogate_arr_eq_false_iff {items : List Json} :
    (arr items).hasSurrogate = false ↔ ∀ item ∈ items, item.hasSurrogate = false := by
  rw [hasSurrogate, hasSurrogateItems_eq_any, List.any_eq_false]
  simp only [Bool.not_eq_true]

theorem hasSurrogate_obj_eq_false_iff {members : List (Text × Json)} :
    (obj members).hasSurrogate = false ↔
      ∀ member ∈ members, member.1.hasSurrogate = false ∧ member.2.hasSurrogate = false := by
  rw [hasSurrogate, hasSurrogateMembers_eq_any, List.any_eq_false]
  simp only [Bool.not_eq_true, Bool.or_eq_false_iff]

theorem mapTexts_arr (key text : Text → Text) (items : List Json) :
    (arr items).mapTexts key text = arr (items.map (mapTexts key text)) := by
  have hitems : mapTextsItems key text items = items.map (mapTexts key text) := by
    induction items with
    | nil => rfl
    | cons item rest ih => rw [mapTextsItems, ih, List.map_cons]
  rw [mapTexts, hitems]

theorem mapTexts_obj (key text : Text → Text) (members : List (Text × Json)) :
    (obj members).mapTexts key text = obj (Assoc.ofPairs
      (members.map fun member => (key member.1, member.2.mapTexts key text))) := by
  have hmembers : mapTextsMembers key text members =
      members.map fun member => (key member.1, member.2.mapTexts key text) := by
    induction members with
    | nil => rfl
    | cons member rest ih => rw [mapTextsMembers, ih, List.map_cons]
  rw [mapTexts, hmembers]

/-- No object in the value has two members with one key. -/
inductive DistinctKeys : Json → Prop where
  | null : DistinctKeys .null
  | bool (b : Bool) : DistinctKeys (.bool b)
  | number (x : Number) : DistinctKeys (.number x)
  | str (t : Text) : DistinctKeys (.str t)
  | arr {items : List Json} (h : ∀ item ∈ items, DistinctKeys item) : DistinctKeys (.arr items)
  | obj {members : List (Text × Json)} (hkeys : (Assoc.keys members).Nodup)
      (h : ∀ member ∈ members, DistinctKeys member.2) : DistinctKeys (.obj members)

/-- No string in the value has a lone surrogate, whatever the keys have. -/
inductive EncodableTexts : Json → Prop where
  | null : EncodableTexts .null
  | bool (b : Bool) : EncodableTexts (.bool b)
  | number (x : Number) : EncodableTexts (.number x)
  | str {t : Text} (h : t.hasSurrogate = false) : EncodableTexts (.str t)
  | arr {items : List Json} (h : ∀ item ∈ items, EncodableTexts item) : EncodableTexts (.arr items)
  | obj {members : List (Text × Json)} (h : ∀ member ∈ members, EncodableTexts member.2) :
      EncodableTexts (.obj members)

end FormIntake.Json
