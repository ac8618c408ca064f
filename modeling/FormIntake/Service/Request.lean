import FormIntake.Calendar.Date
import FormIntake.Json.Basic
import FormIntake.Text.Utf8
/-!
# Requests and responses

A request brings the readings of the clocks with it, so an answer depends on
nothing else. Left out are headers: a body is taken as JSON, as if its content
type said so, and no request comes from another origin.
-/

namespace FormIntake

structure Request where
  method : Text
  /-- The path with its percent escapes. -/
  path : Text
  query : List (Text × Text)
  body : List Byte
  client : Text
  /-- Microseconds since 1970-01-01 in UTC. -/
  time : Int
  /-- The clock of the rate limiter, in seconds. -/
  ticks : Number
  today : Date

structure Response where
  status : Nat
  body : Option Json
  retryAfter : Option Int

namespace Response

/-- A body must be text that has an encoding. -/
def ofJson? (status : Nat) (body : Json) : Option Response :=
  if body.hasSurrogate then none else some ⟨status, some body, none⟩

def empty (status : Nat) : Response :=
  ⟨status, none, none⟩

def detail (status : Nat) (text : String) : Response :=
  ⟨status, some (.object [("detail", .ofString text)]), none⟩

end Response

end FormIntake
