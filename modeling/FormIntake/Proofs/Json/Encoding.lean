import FormIntake.Json.Basic
/-!
# Values that JSON can express

JSON has numerals for finite doubles only, and its text has no encoding if it
holds a lone surrogate. A value is told with null in the place of every double
that is not finite; that leaves its texts as they are, and all of it if it has
no such doubles.
-/

namespace FormIntake

def Double.isFinite : Double → Bool
  | finite .. => true
  | _ => false

namespace Json

mutual

def isFinite : Json → Bool
  | number (.double x) => x.isFinite
  | arr items => isFiniteItems items
  | obj members => isFiniteMembers members
  | _ => true

def isFiniteItems : List Json → Bool
  | [] => true
  | item :: rest => isFinite item && isFiniteItems rest

def isFiniteMembers : List (Text × Json) → Bool
  | [] => true
  | (_, value) :: rest => isFinite value && isFiniteMembers rest

end

/-- Plain JSON: every double has a numeral and every text an encoding. -/
structure IsPlain (json : Json) : Prop where
  finite : json.isFinite = true
  encodable : json.hasSurrogate = false

/-! ## Replacing doubles -/

section

variable {f : Double → Json}

mutual

/-- No text is lost or added as long as what replaces the doubles holds no lone surrogates. -/
theorem hasSurrogate_mapDoubles (h : ∀ x, (f x).hasSurrogate = false) (json : Json) :
    (json.mapDoubles f).hasSurrogate = json.hasSurrogate := by
  match json with
  | null | bool _ | str _ | number (.int _) => rfl
  | number (.double x) => exact h x
  | arr items =>
      simp only [mapDoubles, hasSurrogate]
      exact hasSurrogate_mapDoublesItems h items
  | obj members =>
      simp only [mapDoubles, hasSurrogate]
      exact hasSurrogate_mapDoublesMembers h members

theorem hasSurrogate_mapDoublesItems (h : ∀ x, (f x).hasSurrogate = false) (items : List Json) :
    hasSurrogateItems (mapDoublesItems f items) = hasSurrogateItems items := by
  match items with
  | [] => rfl
  | item :: rest =>
      simp only [mapDoublesItems, hasSurrogateItems, hasSurrogate_mapDoubles h item,
        hasSurrogate_mapDoublesItems h rest]

theorem hasSurrogate_mapDoublesMembers (h : ∀ x, (f x).hasSurrogate = false)
    (members : List (Text × Json)) :
    hasSurrogateMembers (mapDoublesMembers f members) = hasSurrogateMembers members := by
  match members with
  | [] => rfl
  | (key, value) :: rest =>
      simp only [mapDoublesMembers, hasSurrogateMembers, hasSurrogate_mapDoubles h value,
        hasSurrogate_mapDoublesMembers h rest]

end

mutual

theorem mapDoubles_of_isFinite (h : ∀ x, x.isFinite = true → f x = .number (.double x))
    (json : Json) (hfinite : json.isFinite = true) : json.mapDoubles f = json := by
  match json with
  | null | bool _ | str _ | number (.int _) => rfl
  | number (.double x) => exact h x hfinite
  | arr items =>
      rw [mapDoubles, mapDoublesItems_of_isFinite h items hfinite]
  | obj members =>
      rw [mapDoubles, mapDoublesMembers_of_isFinite h members hfinite]

theorem mapDoublesItems_of_isFinite (h : ∀ x, x.isFinite = true → f x = .number (.double x))
    (items : List Json) (hfinite : isFiniteItems items = true) :
    mapDoublesItems f items = items := by
  match items with
  | [] => rfl
  | item :: rest =>
      rw [isFiniteItems, Bool.and_eq_true] at hfinite
      rw [mapDoublesItems, mapDoubles_of_isFinite h item hfinite.1,
        mapDoublesItems_of_isFinite h rest hfinite.2]

theorem mapDoublesMembers_of_isFinite (h : ∀ x, x.isFinite = true → f x = .number (.double x))
    (members : List (Text × Json)) (hfinite : isFiniteMembers members = true) :
    mapDoublesMembers f members = members := by
  match members with
  | [] => rfl
  | (key, value) :: rest =>
      rw [isFiniteMembers, Bool.and_eq_true] at hfinite
      rw [mapDoublesMembers, mapDoubles_of_isFinite h value hfinite.1,
        mapDoublesMembers_of_isFinite h rest hfinite.2]

end

end

theorem hasSurrogateItems_map {α : Type} (encode : α → Json) (items : List α) :
    hasSurrogateItems (items.map encode) = items.any fun a => (encode a).hasSurrogate := by
  induction items with
  | nil => rfl
  | cons a rest ih => rw [List.map_cons, hasSurrogateItems, ih, List.any_cons]

end Json

end FormIntake
