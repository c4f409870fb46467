/-
Everything that can go wrong with an operation on a store.
-/
import ScopedStore.Script.Command

namespace ScopedStore

/-- why an operation failed -/
inductive StoreError where
  | key (e : KeyError)
  | coercion (e : CoercionError)
  | lex (e : Script.LexError)
  | semantic (e : SemanticError)
  | config (e : ConfigError)
  | unknownSavepoint (id : String)
  | conflict (text : String)
  deriving DecidableEq

/-- the wording of an error -/
def StoreError.message : StoreError → String
  | .key e => e.message
  | .coercion e => e.message
  | .lex e => e.message
  | .semantic e => e.message
  | .config e => e.message
  | .unknownSavepoint id => s!"unknown savepoint '{id}'"
  | .conflict text => s!"conflict on existing key '{text}'"

end ScopedStore
