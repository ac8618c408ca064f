import FormIntake.Json.Basic
import FormIntake.Text.Surrogates
/-!
# Rewriting the texts of a value

A value that is written down and read again comes back with other keys and
strings if these hold surrogates.
-/

namespace FormIntake.Json

mutual

/-- Rewrites the keys and the strings of the value. Of members whose keys become the same the last
one gives the value, in the place of the first. -/
def mapTexts (key text : Text → Text) : Json → Json
  | str t => str (text t)
  | arr items => arr (mapTextsItems key text items)
  | obj members => obj (Assoc.ofPairs (mapTextsMembers key text members))
  | other => other

def mapTextsItems (key text : Text → Text) : List Json → List Json
  | [] => []
  | item :: rest => mapTexts key text item :: mapTextsItems key text rest

def mapTextsMembers (key text : Text → Text) : List (Text × Json) → List (Text × Json)
  | [] => []
  | (name, value) :: rest => (key name, mapTexts key text value) :: mapTextsMembers key text rest

end

/-- The value as it is read from text in which it was written with escapes for all that is not
ASCII: a high surrogate and a low one after it have become one code point. -/
def readBack (json : Json) : Json :=
  json.mapTexts Text.joinSurrogates Text.joinSurrogates

/-- The value with the lone surrogates in its keys replaced. -/
def replaceKeySurrogates (json : Json) : Json :=
  json.mapTexts Text.replaceSurrogates id

end FormIntake.Json
