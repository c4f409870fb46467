/-
What can go wrong when a stored text is read as a value of some type.
-/
import ScopedStore.Json.Basic

namespace ScopedStore

/-- stands in a message where the cause inside a pattern, a document or an array is not spelled out -/
def unstatedReason : String := "<reason>"

/-- why a text is no list, or a list has no text -/
inductive CompoundFlaw where
  | containsDelimiter (delimiter : Char)
  | danglingEscape
  | unsupportedElement (element : String)
  | notAnArray
  deriving DecidableEq

def CompoundFlaw.reason : CompoundFlaw → String
  | .containsDelimiter delimiter => s!"item contains delimiter '{delimiter}'"
  | .danglingEscape => "dangling escape character"
  | .unsupportedElement element => s!"unsupported element {element}"
  | .notAnArray => unstatedReason

/-- why a text is no value of the wanted type -/
inductive CoercionError where
  | notBool (raw : String)
  | notInt (raw : String)
  | notDouble (raw : String)
  | notNumeric (raw : String)
  | overflow (raw delta : String)
  | notCompound (raw : String) (flaw : CompoundFlaw)
  deriving DecidableEq

/-- the wording of an error -/
def CoercionError.message : CoercionError → String
  | .notBool raw => s!"'{raw}' is not a boolean"
  | .notInt raw => s!"'{raw}' is not an integer"
  | .notDouble raw => s!"'{raw}' is not a double"
  | .notNumeric raw => s!"'{raw}' is not numeric"
  | .overflow raw delta => s!"integer overflow applying {delta} to '{raw}'"
  | .notCompound raw flaw => s!"'{raw}' is not a valid compound value: " ++ flaw.reason

end ScopedStore
