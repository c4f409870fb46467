/-
Scripts made ready to run: every statement is read and analyzed before the first one is carried out.
-/
import ScopedStore.Error

namespace ScopedStore

/-- a statement with its command, or with what is wrong with it -/
structure PreparedStatement where
  index : Nat
  text : String
  command : Except StoreError Command

/-- a script, read and analyzed -/
structure PreparedScript where
  statements : List PreparedStatement

/-- the command of a statement, or what is wrong with it -/
def Script.Statement.command (s : Script.Statement) (d : Dialect) : Except StoreError Command :=
  match s.tokens with
  | .ok tokens => (d.analyze (tokens.map Script.Token.kind)).mapError .semantic
  | .error e => .error (.lex e)

/-- reads and analyzes a script -/
def Dialect.prepare (d : Dialect) (script : String) : PreparedScript :=
  ⟨(Script.lex script).map fun s => ⟨s.index, s.text, s.command d⟩⟩

namespace PreparedScript

/-- no statement can change anything -/
def isNoop (p : PreparedScript) : Bool := p.statements.all fun s => !s.command.isOk

/-- the statements that have something wrong with them -/
def errors (p : PreparedScript) : List (Nat × StoreError) :=
  p.statements.filterMap fun s =>
    match s.command with
    | .ok _ => none
    | .error e => some (s.index, e)

end PreparedScript
end ScopedStore
