import FormIntake.Assoc
import FormIntake.Text.Quoted
import FormIntake.Unicode.LetterCase
/-!
# Logging

The levels of log messages, and the logger of the service: its level, and the
handlers on it, of which the service makes one.
-/

namespace FormIntake

inductive LogLevel where
  | critical
  | error
  | warning
  | info
  | debug
  | notSet
  deriving DecidableEq

namespace LogLevel

def severity : LogLevel → Nat
  | critical => 50
  | error => 40
  | warning => 30
  | info => 20
  | debug => 10
  | notSet => 0

def name : LogLevel → Text
  | critical => "CRITICAL"
  | error => "ERROR"
  | warning => "WARNING"
  | info => "INFO"
  | debug => "DEBUG"
  | notSet => "NOTSET"

/-- All names of levels; two levels have a second one. -/
def names : List (Text × LogLevel) :=
  [(critical.name, critical), ("FATAL", critical), (error.name, error), ("WARN", warning),
    (warning.name, warning), (info.name, info), (debug.name, debug), (notSet.name, notSet)]

def ofName? (t : Text) : Option LogLevel :=
  Assoc.get? names t

end LogLevel

structure UnknownLevel where
  name : Text
  deriving DecidableEq

def UnknownLevel.message (e : UnknownLevel) : Text :=
  "Unknown level: " ++ e.name.quoted

structure Logger where
  level : LogLevel
  /-- How many handlers there are on it. -/
  handlers : Nat
  /-- Whether one of them has been made for the service. -/
  ownHandler : Bool
  deriving DecidableEq

namespace Logger

def fresh : Logger := ⟨.notSet, 0, false⟩

/-- Something that is done to a logger. It may break off; what was done until then stays done. -/
abbrev Action := EStateM UnknownLevel Logger Unit

def setLevel (name : Text) : Action :=
  match LogLevel.ofName? name with
  | some level => modify fun l => { l with level }
  | none => throw ⟨name⟩

def installHandler : Action := do
  let l ← get
  unless l.ownHandler do
    set { l with handlers := l.handlers + 1, ownHandler := true }

/-- Sets the level by its name, in capitals or not, and sees to it that there is a handler. -/
def configuring (level : Text) : Action := do
  setLevel level.upper
  installHandler

def configure (l : Logger) (level : Text) : Except UnknownLevel Logger :=
  match (configuring level).run l with
  | .ok _ configured => .ok configured
  | .error e _ => .error e

end Logger

end FormIntake
