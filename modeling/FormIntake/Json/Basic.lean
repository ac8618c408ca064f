import FormIntake.Assoc
import FormIntake.Number
/-!
# JSON values

Objects keep the order of their members. Numbers are whole numbers or doubles,
which may be NaN or infinite.
-/

namespace FormIntake

inductive Json where
  | null
  | bool (b : Bool)
  | number (n : Number)
  | str (t : Text)
  | arr (items : List Json)
  | obj (members : List (Text × Json))

namespace Json

def ofInt (n : Int) : Json :=
  number (.int n)

def ofNat (n : Nat) : Json :=
  ofInt n

def ofString (s : String) : Json :=
  str s

def object (members : List (String × Json)) : Json :=
  obj (members.map fun (key, value) => (Text.ofString key, value))

def array {α : Type} (encode : α → Json) (items : List α) : Json :=
  arr (items.map encode)

def optional {α : Type} (encode : α → Json) : Option α → Json
  | some a => encode a
  | none => null

def get? (json : Json) (key : Text) : Option Json :=
  match json with
  | obj members => Assoc.get? members key
  | _ => none

mutual

def mapDoubles (f : Double → Json) : Json → Json
  | number (.double x) => f x
  | arr items => arr (mapDoublesItems f items)
  | obj members => obj (mapDoublesMembers f members)
  | other => other

def mapDoublesItems (f : Double → Json) : List Json → List Json
  | [] => []
  | item :: rest => mapDoubles f item :: mapDoublesItems f rest

def mapDoublesMembers (f : Double → Json) : List (Text × Json) → List (Text × Json)
  | [] => []
  | (key, value) :: rest => (key, mapDoubles f value) :: mapDoublesMembers f rest

end

mutual

/-- Whether some key or string in the value holds a lone surrogate. -/
def hasSurrogate : Json → Bool
  | str t => t.hasSurrogate
  | arr items => hasSurrogateItems items
  | obj members => hasSurrogateMembers members
  | _ => false

def hasSurrogateItems : List Json → Bool
  | [] => false
  | item :: rest => hasSurrogate item || hasSurrogateItems rest

def hasSurrogateMembers : List (Text × Json) → Bool
  | [] => false
  | (key, value) :: rest => key.hasSurrogate || hasSurrogate value || hasSurrogateMembers rest

end

mutual

/-- The greatest number of digits of a whole number in the value. -/
def integerDigits : Json → Nat
  | number (.int n) => (Nat.toDigits 10 n.natAbs).length
  | arr items => integerDigitsItems items
  | obj members => integerDigitsMembers members
  | _ => 0

def integerDigitsItems : List Json → Nat
  | [] => 0
  | item :: rest => max (integerDigits item) (integerDigitsItems rest)

def integerDigitsMembers : List (Text × Json) → Nat
  | [] => 0
  | (_, value) :: rest => max (integerDigits value) (integerDigitsMembers rest)

end

end Json

end FormIntake
