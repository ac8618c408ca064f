import FormIntake.Calendar.Instant
import FormIntake.Form.Document
import FormIntake.Form.Onboarding
import FormIntake.Json.Texts
import FormIntake.RateLimit
import FormIntake.Service.Body
import FormIntake.Service.LogEntry
import FormIntake.Service.Route
import FormIntake.Submission.Store
import FormIntake.Validation
/-!
# The service

The state of a running service, and how it answers a request.
-/

namespace FormIntake

structure App where
  settings : Settings
  form : Schema
  /-- The zone of the service in minutes east of UTC. -/
  zone : Int
  limiter : Option (RateLimiter Text Number)
  store : Store
  rowOrder : RowOrder
  /-- Where the ids of submissions come from, and how many have been taken. -/
  idSource : Nat → Uuid
  idsTaken : Nat

/-- What an endpoint does: an answer, or nothing when it runs into an error, the log entries
written on the way, and the state after it. -/
structure Effect where
  answer : Option Response
  log : List LogEntry
  app : App

namespace App

/-- The store of a new service. The database has its table only in the local environment. -/
def newStore (settings : Settings) : Store :=
  match settings.store with
  | .memory => .memory .empty
  | .database =>
    .database (if settings.appEnv = Settings.default.appEnv then some .empty else none)

def newLimiter (settings : Settings) : Option (RateLimiter Text Number) :=
  if settings.rateLimitEnabled then
    some (.start (.int settings.rateLimitPoints) (.int settings.rateLimitDuration) (.int 0))
  else none

def start (settings : Settings) (zone : Int) (idSource : Nat → Uuid) : App :=
  ⟨settings, onboardingForm, zone, newLimiter settings, newStore settings, .indexed, idSource,
    0⟩

def startLog (settings : Settings) : List LogEntry :=
  [.started settings.appEnv settings.store]

def reply (app : App) (answer : Option Response) : Effect :=
  ⟨answer, [], app⟩

def describe (app : App) : Effect :=
  app.reply <| Response.ofJson? 200 <| .object
    [("name", .str app.settings.appName), ("status", .ofString "ok"),
      ("docs", .ofString "/docs"), ("health", .ofString "/api/health")]

/-- Uptime and time of day are left open for whoever runs the service. -/
def checkHealth (app : App) : Effect :=
  app.reply <| Response.ofJson? 200 <| .object
    [("status", .ofString "ok"), ("uptime", .null), ("timestamp", .null)]

def showForm (app : App) : Effect :=
  app.reply <| Response.ofJson? 200 <| .object
    [("success", .bool true), ("schema", app.form.document)]

def errorsObject (errors : Validation.Errors) : Json :=
  .obj (errors.map fun (name, message) => (name, .str message))

def preview (app : App) (r : Request) (payload : Json) : Effect :=
  match Validation.validate app.zone r.today app.form payload with
  | .error _ => app.reply none
  | .ok errors =>
    app.reply <| Response.ofJson? 200 <| .object
      [("isValid", .bool errors.isEmpty), ("errors", errorsObject errors)]

/-- What is submitted: the object itself, and an empty one in place of any other value. -/
def recordOf : Json → Json
  | .obj members => .obj members
  | _ => .obj []

def createdAnswer (s : Submission) : Json :=
  .object [("success", .bool true), ("id", .str s.id.text),
    ("createdAt", .str (Calendar.instantText "Z" s.createdAt))]

def accept (app : App) (r : Request) (record : Json) : Effect :=
  let submission : Submission := ⟨app.idSource app.idsTaken, r.time, record⟩
  let app := { app with idsTaken := app.idsTaken + 1 }
  match app.store.create submission with
  | .error _ => app.reply none
  | .ok store =>
    ⟨Response.ofJson? 201 (createdAnswer submission), [.created submission.id],
      { app with store := store }⟩

def create (app : App) (r : Request) (payload : Json) : Effect :=
  match Validation.validate app.zone r.today app.form (recordOf payload) with
  | .error _ => app.reply none
  | .ok [] => app.accept r (recordOf payload)
  | .ok errors =>
    ⟨Response.ofJson? 400 (errorsObject errors), [.rejected (Assoc.keys errors)], app⟩

def parameter (r : Request) (name : Text) : Json :=
  .optional .str ((r.query.reverse.find? fun (key, _) => key = name).map Prod.snd)

/-- Doubles that JSON has no numeral for are listed as null. -/
def finiteOrNull (x : Double) : Json :=
  match x with
  | .finite .. => .number (.double x)
  | _ => .null

/-- Data as it is listed: lone surrogates in keys are replaced, those in strings stay. -/
def listedData (data : Json) : Json :=
  data.replaceKeySurrogates.mapDoubles finiteOrNull

def listedSubmission (s : Submission) : Json :=
  .object [("id", .str s.id.text), ("createdAt", .str (Calendar.instantText "Z" s.createdAt)),
    ("data", listedData s.data)]

def listAnswer (l : Listing) (pages : Int) : Json :=
  .object [("success", .bool true), ("data", .array listedSubmission l.items),
    ("meta", .object [("total", .ofNat l.total), ("page", l.request.page.json),
      ("totalPages", .ofInt pages)])]

def pageRequest (app : App) (r : Request) : Except PagingFault PageRequest :=
  PageRequest.ofQuery (parameter r "page") (parameter r "limit") (parameter r "sortOrder")
    app.settings.defaultPageSize

def tooDeep (l : Listing) : Bool :=
  l.items.any fun s => Json.answerDepth < s.data.nesting

def list (app : App) (r : Request) : Effect :=
  match app.pageRequest r with
  | .error _ => app.reply none
  | .ok request =>
    match app.store.listBy app.rowOrder request with
    | .error _ => app.reply none
    | .ok listing =>
      match listing.totalPages with
      | .error _ => app.reply none
      | .ok pages =>
        if tooDeep listing then app.reply none
        else app.reply (Response.ofJson? 200 (listAnswer listing pages))

def delete (app : App) (id : Text) : Effect :=
  match app.store.delete id with
  | .error _ => app.reply none
  | .ok (true, store) => ⟨some (.empty 204), [.deleted id], { app with store := store }⟩
  | .ok (false, _) =>
    app.reply (Response.ofJson? 404 (.object [("id", .ofString "Submission not found")]))

def withBody (app : App) (r : Request) (use : Json → Effect) : Effect :=
  match r.payload with
  | .ok payload => use payload
  | .error fault => app.reply (some fault.response)

def run (app : App) (r : Request) : Endpoint → Effect
  | .describe => app.describe
  | .checkHealth => app.checkHealth
  | .showForm => app.showForm
  | .preview => app.withBody r (app.preview r)
  | .list => app.list r
  | .create => app.withBody r (app.create r)
  | .delete id => app.delete id

def follow (app : App) (r : Request) : Route → Effect
  | .endpoint e => app.run r e
  | .wrongMethod => app.reply (some (.detail 405 "Method Not Allowed"))
  | .redirect => app.reply (some (.empty 307))
  | .unknown => app.reply (some (.detail 404 "Not Found"))

/-- The least whole number of seconds, at least 1, after which a refused client may come back. -/
def retryAfter? (wait : Number) : Option Int :=
  wait.ceil?.map (max 1)

def tooManyRequests (seconds : Int) : Response :=
  ⟨429,
    some (.object [("message", .ofString "Too many requests"), ("retryAfter", .ofInt seconds)]),
    some seconds⟩

def refuse (app : App) (r : Request) (wait : Number) : Effect :=
  match retryAfter? wait with
  | some seconds => ⟨some (tooManyRequests seconds), [.limited r.client seconds], app⟩
  | none => app.reply none

def meter (app : App) (r : Request) : Option Number × App :=
  match app.limiter with
  | none => (none, app)
  | some limiter =>
    let (wait, limiter) := limiter.consume r.ticks r.client
    (wait, { app with limiter := some limiter })

def serve (app : App) (r : Request) : Effect :=
  match app.meter r with
  | (some wait, app) => app.refuse r wait
  | (none, app) => app.follow r (.resolve r.method (Path.decode r.path))

def internalError : Response :=
  ⟨500, some (.object [("message", .ofString "Internal server error")]), none⟩

/-- A request for the head of an answer gets no body. -/
def withoutBodyOf (r : Request) (response : Response) : Response :=
  if r.method = Text.ofString "HEAD" then { response with body := none } else response

/-- Answers a request and logs it: the response, the entries in order and the next state. -/
def handle (app : App) (r : Request) : Response × List LogEntry × App :=
  let effect := app.serve r
  let path := Path.logged (Path.decode r.path)
  match effect.answer with
  | some response =>
    (withoutBodyOf r response, effect.log ++ [.answered r.method path response.status], effect.app)
  | none => (withoutBodyOf r internalError, effect.log ++ [.failed r.method path], effect.app)

end App

end FormIntake
