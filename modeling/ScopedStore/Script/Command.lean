/-
Commands, and which token lists a configuration admits as commands.

`Dialect.analyze` checks, in this order, that the command is known and enabled, that a key follows and is accepted,
that the number of operands fits, and that the operand has the right type. A plain `set` is held against the enabled
commands last, when it is known whether the key holds a list or a set.
-/
import ScopedStore.Config.Basic
import ScopedStore.Script.Token

namespace ScopedStore

/-- what a command works with: a number, or a literal to be stored as it is -/
inductive Operand where
  | number (value : Number)
  | literal (text : String)
  deriving DecidableEq

/-- the raw text of an operand -/
def Operand.text : Operand → String
  | .number value => value.render
  | .literal text => text

/-- a command on a key -/
structure Command where
  kind : CommandKind
  key : Key
  operand : Option Operand
  deriving DecidableEq

/-- the command as a statement -/
def Command.text (c : Command) : String :=
  c.kind.spelling ++ " " ++ c.key.text ++
    match c.operand with
    | some operand => " " ++ operand.text
    | none => ""

/-- why a statement is no command -/
inductive SemanticError where
  | unknownCommand (command : String)
  | invalidKey (text : String)
  | unknownScope (scope : String)
  | arity (command expected : String) (found : Nat)
  | typeMismatch (command expected found : String)
  | unknownEnum (token : String)
  deriving DecidableEq

/-- the wording of an error -/
def SemanticError.message : SemanticError → String
  | .unknownCommand command => s!"unknown command '{command}'"
  | .invalidKey text => s!"invalid key: {text}"
  | .unknownScope scope => s!"unknown scope '{scope}'"
  | .arity command expected found => s!"'{command}' expects {expected}, got {found} operand(s)"
  | .typeMismatch command expected found => s!"'{command}' expects {expected}, got '{found}'"
  | .unknownEnum token => s!"unknown enum token '{token}'"

/-- the command language as a configuration admits it -/
structure Dialect where
  config : Config
  keys : KeyRules
  /-- enum tokens as they are looked up, in lower case when case does not count -/
  enums : Std.ExtTreeMap String String

namespace Dialect

/-- the form in which an enum token is looked up -/
def foldToken (config : Config) (token : String) : String :=
  if config.enumCaseSensitive then token else Unicode.lowercase token

/-- the dialect of a configuration with these key rules -/
def ofRules (config : Config) (keys : KeyRules) : Dialect :=
  ⟨config, keys,
    config.enumMap.toList.foldl (fun enums (token, literal) => enums.insert (foldToken config token) literal) ∅⟩

/-- the dialect of a configuration, whose name pattern must compile -/
def ofConfig (config : Config) : Except ConfigError Dialect := config.keyRules.map (ofRules config)

/-- the literal that an enum token stores -/
def resolveEnum (d : Dialect) (token : String) : Option String := d.enums[foldToken d.config token]?

/-- the command is enabled -/
def enabled (d : Dialect) (kind : CommandKind) : Bool := d.config.enabledCommands.contains kind

/-- refuses a command that is not enabled -/
def ensureEnabled (d : Dialect) (kind : CommandKind) : Except SemanticError Unit :=
  if d.enabled kind then .ok () else .error (.unknownCommand kind.spelling)

/-- the kind of command that the first tokens name, and the tokens after them -/
def commandKind : List Script.TokenKind → Except SemanticError (CommandKind × List Script.TokenKind)
  | .keyword .set :: .keyword .append :: rest => .ok (.setAppend, rest)
  | .keyword .list :: .keyword .append :: rest => .ok (.listAppend, rest)
  | .keyword .set :: rest => .ok (.set, rest)
  | .keyword .inc :: rest => .ok (.inc, rest)
  | .keyword .dec :: rest => .ok (.dec, rest)
  | .keyword .clear :: rest => .ok (.clear, rest)
  | other :: _ => .error (.unknownCommand other.text)
  | [] => .error (.unknownCommand "")

/-- the enabled command at the front of the tokens; a plain `set` passes here -/
def command (d : Dialect) (tokens : List Script.TokenKind) :
    Except SemanticError (CommandKind × List Script.TokenKind) := do
  let (kind, rest) ← commandKind tokens
  if kind ≠ .set then d.ensureEnabled kind
  return (kind, rest)

/-- the accepted key that a token writes -/
def key (d : Dialect) : Script.TokenKind → Except SemanticError Key
  | .key raw =>
    match d.keys.parse raw with
    | .ok k => .ok k
    | .error (.unknownScope scope) => .error (.unknownScope scope)
    | .error _ => .error (.invalidKey raw)
  | other => .error (.invalidKey other.text)

/-- the operands are as many as expected -/
def ensureArity (kind : CommandKind) (expected : String) (operands : List Script.TokenKind) (count : Nat) :
    Except SemanticError Unit :=
  if operands.length = count then .ok () else .error (.arity kind.spelling expected operands.length)

/-- a value: a number, kept as written when no number type holds it, or an enum token -/
def value (d : Dialect) (kind : CommandKind) : Script.TokenKind → Except SemanticError Operand
  | .number text =>
    match Number.read text with
    | some n => .ok (.number n)
    | none => .ok (.literal text)
  | .ident word =>
    match d.resolveEnum word with
    | some literal => .ok (.literal literal)
    | none => .error (.unknownEnum word)
  | other => .error (.typeMismatch kind.spelling "a number or enum token" other.text)

/-- the single value of a command -/
def singleValue (d : Dialect) (kind : CommandKind) (operands : List Script.TokenKind) :
    Except SemanticError Operand :=
  match operands with
  | [token] => d.value kind token
  | _ => .error (.arity kind.spelling "one value" operands.length)

/-- the amount of an increment or decrement -/
def amount (kind : CommandKind) (operands : List Script.TokenKind) : Except SemanticError Number :=
  match operands with
  | [.number text] =>
    match Number.read text with
    | some n => .ok n
    | none => .error (.typeMismatch kind.spelling "a number" text)
  | [other] => .error (.typeMismatch kind.spelling "a number" other.text)
  | _ => .error (.arity kind.spelling "one number" operands.length)

/-- what a plain `set` without `to` does to a key: it appends when the key holds a list or a set -/
def inferredKind (d : Dialect) (k : Key) : CommandKind :=
  match d.config.kindFor k with
  | some .list => .listAppend
  | some .set => .setAppend
  | none => .set

/-- the operands of a command, its key read already -/
def operands (d : Dialect) (kind : CommandKind) (k : Key) (tokens : List Script.TokenKind) :
    Except SemanticError Command :=
  match kind with
  | .clear => do
    ensureArity kind "no operands" tokens 0
    return ⟨kind, k, none⟩
  | .inc | .dec => do
    let n ← amount kind tokens
    return ⟨kind, k, some (.number n)⟩
  | .listAppend | .setAppend => do
    let operand ← d.singleValue kind tokens
    return ⟨kind, k, some operand⟩
  | .set =>
    match tokens with
    | .keyword .to :: tokens => do
      let operand ← d.singleValue .set tokens
      d.ensureEnabled .set
      return ⟨.set, k, some operand⟩
    | tokens => do
      let operand ← d.singleValue .set tokens
      d.ensureEnabled (d.inferredKind k)
      return ⟨d.inferredKind k, k, some operand⟩

/-- the command that a list of tokens writes; semicolons among them do not count -/
def analyze (d : Dialect) (tokens : List Script.TokenKind) : Except SemanticError Command := do
  let (kind, rest) ← d.command (tokens.filter (· ≠ .terminator))
  match rest with
  | [] => throw (.arity kind.spelling "a key" 0)
  | token :: tokens =>
    let k ← d.key token
    d.operands kind k tokens

end Dialect
end ScopedStore
