import FormIntake.Service.Path
/-!
# Routes

What a method and a decoded path ask for. Left out are the pages that the web
framework adds by itself, which are the documentation at /docs and /redoc and
the description of the interface at /openapi.json.
-/

namespace FormIntake

inductive Resource where
  | root
  | health
  | form
  | preview
  | submissions
  | submission (id : Text)
  deriving DecidableEq

inductive Endpoint where
  | describe
  | checkHealth
  | showForm
  | preview
  | list
  | create
  | delete (id : Text)
  deriving DecidableEq

inductive Route where
  | endpoint (e : Endpoint)
  | wrongMethod
  /-- Without the slashes at its end the path names something. -/
  | redirect
  | unknown
  deriving DecidableEq

namespace Resource

def submissionsPath : Text := "/api/submissions"

def fixed : List (Text × Resource) :=
  [("/", root), ("/api/health", health), ("/api/form-schema", form),
    ("/api/form-schema/validate", preview), (submissionsPath, submissions)]

def submissionId? (path : Text) : Option Text :=
  let lead := submissionsPath ++ "/"
  let id := path.drop lead.length
  if lead.isPrefixOf path && !id.isEmpty && !id.contains (CodePoint.ofChar '/') then some id
  else none

/-- Finds what a path names. One line break may follow a fixed path. -/
def ofPath? (path : Text) : Option Resource :=
  match fixed.find? fun (own, _) => path = own ∨ path = own ++ "\n" with
  | some (_, resource) => some resource
  | none => (submissionId? path).map submission

def endpoint? (resource : Resource) (method : Text) : Option Endpoint :=
  let get := method = Text.ofString "GET"
  let post := method = Text.ofString "POST"
  match resource with
  | root => if get then some .describe else none
  | health => if get then some .checkHealth else none
  | form => if get then some .showForm else none
  | preview => if post then some .preview else none
  | submissions => if get then some .list else if post then some .create else none
  | submission id => if method = Text.ofString "DELETE" then some (.delete id) else none

end Resource

namespace Route

def resolve (method path : Text) : Route :=
  match Resource.ofPath? path with
  | some resource =>
    match resource.endpoint? method with
    | some e => endpoint e
    | none => wrongMethod
  | none =>
    let stripped := Path.withoutSlashes path
    if stripped ≠ path ∧ (Resource.ofPath? stripped).isSome then redirect else unknown

end Route

end FormIntake
