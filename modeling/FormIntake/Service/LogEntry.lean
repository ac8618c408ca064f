import FormIntake.Logging
import FormIntake.Settings
import FormIntake.Uuid
/-!
# Log entries

What the service logs, and the lines it writes.
-/

namespace FormIntake

inductive LogEntry where
  | started (env : Text) (store : StoreKind)
  | created (id : Uuid)
  | deleted (id : Text)
  | rejected (names : List Text)
  | limited (client : Text) (seconds : Int)
  | answered (method path : Text) (status : Nat)
  | failed (method path : Text)
  deriving DecidableEq

namespace LogEntry

def level : LogEntry → LogLevel
  | limited _ _ => .warning
  | failed _ _ => .error
  | _ => .info

def logger : LogEntry → Text
  | created _ | deleted _ => "dynform.core.submission_store"
  | rejected _ => "dynform.api.submissions"
  | limited _ _ => "dynform.core.rate_limit"
  | started _ _ | answered _ _ _ | failed _ _ => "dynform.main"

def message : LogEntry → Text
  | started env store => "Started (env=" ++ env ++ ", store=" ++ store.name ++ ")"
  | created id => "Submission created id=" ++ id.text
  | deleted id => "Submission deleted id=" ++ id
  | rejected names => "Submission rejected, invalid fields: " ++ Text.joined ", " names
  | limited client seconds =>
    "Rate limit exceeded for " ++ client ++ ", retry in " ++ Text.ofInt seconds ++ "s"
  | answered method path status => method ++ " " ++ path ++ " " ++ Text.ofNat status
  | failed method path => "Unhandled error on " ++ method ++ " " ++ path

def line (e : LogEntry) : Text :=
  e.level.name ++ " " ++ e.logger ++ " " ++ e.message

end LogEntry

end FormIntake
