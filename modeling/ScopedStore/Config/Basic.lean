/-
The configuration of a store, and when it is consistent.

`Config.validate` checks the parts in a fixed order and reports the first one that does not fit: scopes, name pattern,
boolean literals, list notation, compound rules, enum tokens.
-/
import ScopedStore.Key
import ScopedStore.Scalar
import ScopedStore.Compound
import ScopedStore.Script.Kind
import ScopedStore.Unicode.Lowercase

namespace ScopedStore

/-- whether a key holds a list or a set -/
inductive CompoundKind where
  | list
  | set
  deriving DecidableEq

/-- how a script goes on after a statement that fails -/
inductive ErrorPolicy where
  /-- nothing after the failure runs -/
  | abortRemaining
  /-- the failure is tolerated -/
  | skipAndContinue
  /-- everything runs, and every failure is reported -/
  | collectAndReportAll
  deriving DecidableEq

/-- when a script is preceded by an automatic savepoint -/
structure AutoSavepointPolicy where
  enabled : Bool := false
  maxCount : Nat := 10
  excludeNoops : Bool := true
  pruneOldest : Bool := true
  deriving DecidableEq

/-- the pattern of scopes, and of names unless the configuration has one of its own -/
def defaultNamePattern : String := "[\\p\x7bL\x7d_][\\p\x7bL\x7d\\p\x7bN\x7d_]*"

/-- the configuration of a store -/
structure Config where
  allowedScopes : Std.ExtTreeSet String := ∅
  namePattern : String := defaultNamePattern
  failureStrategy : FailureStrategy := .throw
  defaults : ScalarDefaults := {}
  boolLiterals : BoolLiterals := {}
  compoundNotation : CompoundNotation := .delimited ',' (some '\\')
  /-- `scope:name` or `scope:*`, and what such keys hold -/
  compoundKeys : Std.ExtTreeMap String CompoundKind := ∅
  /-- tokens of the command language, and the literal that each one stores -/
  enumMap : Std.ExtTreeMap String String := ∅
  enumCaseSensitive : Bool := true
  enabledCommands : List CommandKind := CommandKind.all
  errorPolicy : ErrorPolicy := .abortRemaining
  autoSavepoint : AutoSavepointPolicy := {}
  historyMaxEntries : Option Nat := none
  recordNoopClears : Bool := false

/-- why a configuration is refused -/
inductive ConfigError where
  | noScopes
  | invalidScope (scope : String)
  | invalidNamePattern (pattern : String)
  | emptyBoolLiterals
  | ambiguousBoolLiteral (text : String)
  | delimiterIsEscape
  | invalidCompoundRule (rule : String)
  | enumCollision (first second : String)
  | unparsable
  | unreadable (cause : String)
  deriving DecidableEq

/-- the wording of an error -/
def ConfigError.message : ConfigError → String
  | .noScopes => "at least one allowed scope is required"
  | .invalidScope scope => s!"scope '{scope}' is not a valid identifier"
  | .invalidNamePattern pattern => s!"invalid name pattern '{pattern}': " ++ unstatedReason
  | .emptyBoolLiterals => "boolean literals: true and false literal lists must be non-empty"
  | .ambiguousBoolLiteral text => s!"boolean literals: '{text}' is both true and false"
  | .delimiterIsEscape => "delimited serialization: delimiter and escape must differ"
  | .invalidCompoundRule rule => s!"compound key rule '{rule}' does not name a configured scope"
  | .enumCollision first second =>
    s!"enum tokens '{first}' and '{second}' collide when matched case-insensitively"
  | .unparsable => "cannot parse configuration: " ++ unstatedReason
  | .unreadable cause => s!"cannot read configuration: {cause}"

namespace Config

/-- the compiled form of a pattern -/
def compilePattern (source : String) : Except ConfigError NamePattern :=
  match NamePattern.compile source with
  | some p => .ok p
  | none => .error (.invalidNamePattern source)

/-- the key rules of the configuration -/
def keyRules (config : Config) : Except ConfigError KeyRules :=
  (compilePattern config.namePattern).map fun pattern => ⟨config.allowedScopes, pattern⟩

/-- how typed values are read and written -/
def scalarCodec (config : Config) : ScalarCodec :=
  ⟨config.failureStrategy, config.defaults, config.boolLiterals⟩

/-- what a key holds; a rule for the key itself goes before one for its scope -/
def kindFor (config : Config) (key : Key) : Option CompoundKind :=
  config.compoundKeys[key.text]?.or config.compoundKeys[key.scope ++ ":*"]?

/-! ## Consistency -/

/-- every scope is an identifier -/
def checkScopes (config : Config) : Except ConfigError Unit := do
  if config.allowedScopes.isEmpty then throw .noScopes
  let identifier ← compilePattern defaultNamePattern
  match config.allowedScopes.toList.find? (!identifier.accepts ·) with
  | some scope => throw (.invalidScope scope)
  | none => pure ()

/-- there are literals for both truth values, and none stands for both -/
def checkBoolLiterals (config : Config) : Except ConfigError Unit :=
  let literals := config.boolLiterals
  if literals.trueLiterals.isEmpty || literals.falseLiterals.isEmpty then .error .emptyBoolLiterals
  else
    match literals.trueLiterals.find? (literals.falseLiterals.contains ·) with
    | some text => .error (.ambiguousBoolLiteral text)
    | none => .ok ()

/-- the escape is not the delimiter -/
def checkNotation (config : Config) : Except ConfigError Unit :=
  match config.compoundNotation with
  | .delimited delimiter escape => if escape = some delimiter then .error .delimiterIsEscape else .ok ()
  | .jsonArray => .ok ()

/-- a compound rule starts with an allowed scope and a colon -/
def isRule (config : Config) (rule : String) : Bool :=
  match Text.cutAt ':' rule.toList with
  | some (scope, _) => config.allowedScopes.contains (String.ofList scope)
  | none => false

/-- every compound rule names an allowed scope -/
def checkRules (config : Config) : Except ConfigError Unit :=
  match config.compoundKeys.keys.find? (!config.isRule ·) with
  | some rule => .error (.invalidCompoundRule rule)
  | none => .ok ()

/-- enters the tokens in order under their lower case; a token must agree with the one it replaces -/
def checkTokens (folded : Std.ExtTreeMap String (String × String)) :
    List (String × String) → Except ConfigError Unit
  | [] => .ok ()
  | (token, literal) :: rest =>
    let low := Unicode.lowercase token
    match folded[low]? with
    | some (other, otherLiteral) =>
      if otherLiteral ≠ literal then .error (.enumCollision other token)
      else checkTokens (folded.insert low (token, literal)) rest
    | none => checkTokens (folded.insert low (token, literal)) rest

/-- when case does not count, tokens that differ only in case store the same literal -/
def checkEnums (config : Config) : Except ConfigError Unit :=
  if config.enumCaseSensitive then .ok () else checkTokens ∅ config.enumMap.toList

/-- the configuration is consistent -/
def validate (config : Config) : Except ConfigError Unit := do
  config.checkScopes
  discard (compilePattern config.namePattern)
  config.checkBoolLiterals
  config.checkNotation
  config.checkRules
  config.checkEnums

end Config
end ScopedStore
