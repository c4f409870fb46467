/-
Keys `scope:name`, and the rules that say which of them are accepted.

`Key.split` cuts a text at its only colon. `KeyRules.parse` checks, in this order, that the text has that form, that
the scope is an allowed one, and that the name is accepted by the name pattern.
-/
import Std.Data.ExtTreeMap
import Std.Data.ExtTreeSet
import ScopedStore.NamePattern
import ScopedStore.Text

namespace ScopedStore

/-- a key: a scope and a name in it -/
structure Key where
  scope : String
  name : String
  deriving DecidableEq

/-- why a text is not an accepted key -/
inductive KeyError where
  | invalidFormat (raw : String)
  | unknownScope (scope : String)
  | invalidName (name : String)
  deriving DecidableEq

/-- the wording of an error -/
def KeyError.message : KeyError → String
  | .invalidFormat raw =>
    s!"invalid key format '{raw}': expected exactly one ':' between non-empty scope and name"
  | .unknownScope scope => s!"unknown scope '{scope}'"
  | .invalidName name => s!"invalid name '{name}'"

namespace Key

/-- keys are ordered by scope, then by name -/
instance : Ord Key := ⟨compareLex (compareOn Key.scope) (compareOn Key.name)⟩

instance : Std.TransOrd Key := inferInstanceAs (Std.TransCmp (compareLex (compareOn Key.scope) (compareOn Key.name)))

instance : Std.LawfulEqOrd Key where
  eq_of_compare {a b} h := by
    simp only [compare, compareLex_eq_eq, compareOn] at h
    obtain ⟨scope, name⟩ := a
    obtain ⟨scope', name'⟩ := b
    simp only [Key.mk.injEq]
    exact ⟨Std.LawfulEqOrd.eq_of_compare h.1, Std.LawfulEqOrd.eq_of_compare h.2⟩

/-- the key as text -/
def text (k : Key) : String := k.scope ++ ":" ++ k.name

/-- the key that a text writes, with no rules applied to its parts -/
def split (raw : String) : Except KeyError Key :=
  match Text.pieces ':' raw.toList with
  | [scope, name] =>
    if scope.isEmpty || name.isEmpty then .error (.invalidFormat raw)
    else .ok ⟨String.ofList scope, String.ofList name⟩
  | _ => .error (.invalidFormat raw)

end Key

/-- the scopes that keys may have, and the pattern of their names -/
structure KeyRules where
  scopes : Std.ExtTreeSet String
  pattern : NamePattern

/-- a key as an argument: a text, or a key that was built elsewhere -/
inductive KeyRef where
  | text (raw : String)
  | key (k : Key)

namespace KeyRules

/-- the scope is an allowed one -/
def allows (rules : KeyRules) (scope : String) : Bool := rules.scopes.contains scope

/-- the accepted key that a text writes -/
def parse (rules : KeyRules) (raw : String) : Except KeyError Key :=
  match Key.split raw with
  | .error e => .error e
  | .ok k =>
    if !rules.allows k.scope then .error (.unknownScope k.scope)
    else if !rules.pattern.accepts k.name then .error (.invalidName k.name)
    else .ok k

/-- the accepted key with these parts -/
def key (rules : KeyRules) (scope name : String) : Except KeyError Key := rules.parse (scope ++ ":" ++ name)

/-- an argument as an accepted key; a key from elsewhere is held to the same rules as a text -/
def resolve (rules : KeyRules) : KeyRef → Except KeyError Key
  | .text raw => rules.parse raw
  | .key k => rules.key k.scope k.name

end KeyRules

end ScopedStore
