import FormIntake.Json.Basic
import FormIntake.Numeral
import FormIntake.Text.Blank
/-!
# Paging

Which part of a listing is asked for. Page and limit come as raw values and are
read leniently: what is missing, unreadable or zero is replaced by a default,
and nothing goes below 1.
-/

namespace FormIntake

inductive PagingFault where
  | numeralTooLong (digits : Nat)
  | numberTooLong
  | divisionByZero
  | quotientTooLarge
  deriving DecidableEq

/-- A page number or a limit. The truth value stands for 1 and is shown as it is. -/
inductive Count where
  | number (n : Nat)
  | truth
  deriving DecidableEq

namespace Count

def value : Count → Nat
  | number n => n
  | truth => 1

def json : Count → Json
  | number n => .ofNat n
  | truth => .bool true

def atLeastOne (n : Int) : Count :=
  number (max n 1).toNat

def orDefault (default n : Int) : Count :=
  if n = 0 then atLeastOne default else atLeastOne n

/-- The whole number at the beginning of a text: blanks, a sign, digits of any script. -/
def leadingInt? (t : Text) : Except PagingFault (Option Int) :=
  let (negative, body) := Numeral.takeSign (t.dropWhile CodePoint.isBlank)
  match (Numeral.takeDigits CodePoint.decimalValue? body).1 with
  | [] => .ok none
  | digits =>
    if Numeral.digitLimit < digits.length then .error (.numeralTooLong digits.length)
    else .ok (some (Numeral.signed negative (Numeral.value 10 digits)))

def ofText (default : Int) (t : Text) : Except PagingFault Count :=
  match leadingInt? t with
  | .error fault => .error fault
  | .ok none => .ok (atLeastOne default)
  | .ok (some n) => .ok (orDefault default n)

/-- Reads a page or a limit. A double is read by its text; lists and objects are never numbers,
but a number in them must not be beyond the digit limit. -/
def ofJson (default : Int) : Json → Except PagingFault Count
  | .null => .ok (atLeastOne default)
  | .bool true => .ok truth
  | .bool false => .ok (atLeastOne default)
  | .number (.int n) => .ok (orDefault default n)
  | .number (.double x) => ofText default x.text
  | .str t => ofText default t
  | other =>
    if Numeral.digitLimit < other.integerDigits then .error .numberTooLong
    else .ok (atLeastOne default)

end Count

inductive SortOrder where
  | ascending
  | descending
  deriving DecidableEq

namespace SortOrder

def name : SortOrder → Text
  | ascending => "asc"
  | descending => "desc"

/-- Ascending for the word `asc`, descending for everything else. -/
def ofJson : Json → SortOrder
  | .str t => if t = ascending.name then ascending else descending
  | _ => descending

end SortOrder

structure PageRequest where
  page : Count
  limit : Count
  order : SortOrder
  deriving DecidableEq

namespace PageRequest

def sortKey : Text := "createdAt"

def ofQuery (page limit order : Json) (defaultLimit : Int) : Except PagingFault PageRequest :=
  match Count.ofJson 1 page, Count.ofJson defaultLimit limit with
  | .error fault, _ => .error fault
  | _, .error fault => .error fault
  | .ok page, .ok limit => .ok ⟨page, limit, .ofJson order⟩

def offset (r : PageRequest) : Nat :=
  (r.page.value - 1) * r.limit.value

end PageRequest

/-- The number of pages: the quotient as a double, rounded up; 1 if there are no entries. -/
def totalPages (total limit : Int) : Except PagingFault Int :=
  if total = 0 then .ok 1
  else if limit = 0 then .error .divisionByZero
  else
    match (Double.ofRatio ((total < 0) != (limit < 0)) total.natAbs limit.natAbs).ceil? with
    | some pages => .ok pages
    | none => .error .quotientTooLarge

end FormIntake
