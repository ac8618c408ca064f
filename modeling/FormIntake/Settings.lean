import FormIntake.Scalar
/-!
# Settings

What the service is configured with, read from environment variables whose
names are matched without regard to ASCII case.
-/

namespace FormIntake

inductive StoreKind where
  | database
  | memory
  deriving DecidableEq

namespace StoreKind

def name : StoreKind → Text
  | database => "database"
  | memory => "memory"

def ofName? (t : Text) : Option StoreKind :=
  [database, memory].find? fun kind => kind.name = t

end StoreKind

structure Settings where
  appEnv : Text
  appName : Text
  databaseUrl : Text
  store : StoreKind
  corsOrigins : Text
  logLevel : Text
  rateLimitEnabled : Bool
  rateLimitPoints : Int
  rateLimitDuration : Int
  defaultPageSize : Int

namespace Settings

def default : Settings where
  appEnv := "local"
  appName := "Dynamic Form Service"
  databaseUrl := "sqlite:///./dynform.db"
  store := .database
  corsOrigins := "*"
  logLevel := "INFO"
  rateLimitEnabled := true
  rateLimitPoints := 100
  rateLimitDuration := 60
  defaultPageSize := 10

abbrev Environment := List (Text × Text)

def lookup? (env : Environment) (name : Text) : Option Text :=
  (env.reverse.find? fun (key, _) => key.asciiLower = name.asciiLower).map Prod.snd

def given {α : Type} (env : Environment) (name : Text) (default : α) (read : Text → Checked α) :
    Checked α :=
  match lookup? env name with
  | some value => (read value).under (.key name)
  | none => .accepted default

def readStoreKind (t : Text) : Checked StoreKind :=
  match StoreKind.ofName? t with
  | some kind => .accepted kind
  | none => .reject .unknownChoice

def read (env : Environment) : Checked Settings :=
  Settings.mk <$> given env "APP_ENV" default.appEnv .accepted
    <*> given env "APP_NAME" default.appName .accepted
    <*> given env "DATABASE_URL" default.databaseUrl .accepted
    <*> given env "SUBMISSION_STORE" default.store readStoreKind
    <*> given env "CORS_ORIGINS" default.corsOrigins .accepted
    <*> given env "LOG_LEVEL" default.logLevel .accepted
    <*> given env "RATE_LIMIT_ENABLED" default.rateLimitEnabled Scalar.readBoolText
    <*> given env "RATE_LIMIT_POINTS" default.rateLimitPoints Scalar.readIntText
    <*> given env "RATE_LIMIT_DURATION" default.rateLimitDuration Scalar.readIntText
    <*> given env "DEFAULT_PAGE_SIZE" default.defaultPageSize Scalar.readIntText

def anyOrigin : Text := "*"

/-- The origins listed in a text: its parts between commas, without blanks, without empty ones.
A lone star stands for every origin. -/
def originsOf (t : Text) : List Text :=
  if t = anyOrigin then [anyOrigin]
  else ((t.splitOn (CodePoint.ofChar ',')).map Text.strip).filter fun origin => !origin.isEmpty

def corsOriginList (s : Settings) : List Text :=
  originsOf s.corsOrigins

end Settings

end FormIntake
