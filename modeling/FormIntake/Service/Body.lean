import FormIntake.Json.Octets
import FormIntake.Json.Reader
import FormIntake.Service.Request
/-!
# Request bodies

A body holds one JSON value or nothing.
-/

namespace FormIntake

inductive BodyFault where
  | malformed
  | unreadable
  deriving DecidableEq

namespace BodyFault

def response : BodyFault → Response
  | malformed => ⟨422, some (.object [("detail", .arr [.ofString "json_invalid"])]), none⟩
  | unreadable => .detail 400 "There was an error parsing the body"

end BodyFault

namespace Request

/-- The value in a body; an empty body stands for null. -/
def payload (r : Request) : Except BodyFault Json :=
  if r.body.isEmpty then .ok .null
  else
    match Json.ofOctets? r.body with
    | none => .error .unreadable
    | some t =>
      match Json.read .guarded t with
      | .ok json => .ok json
      | .error .malformed => .error .malformed
      | .error _ => .error .unreadable

end Request

end FormIntake
