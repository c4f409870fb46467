/-
Configurations as documents.

Every part may be missing and then has its default; parts of other names are ignored. `Config.ofDocument` has no
result when a part does not have the form that it should have.
-/
import ScopedStore.Config.Basic
import ScopedStore.Document

namespace ScopedStore

/-- the one of several things that a document names -/
def Document.readNamed {α : Type} (names : List (String × α)) (d : Document) : Reading α := do
  names.lookup (← d.readChoice)

def FailureStrategy.names : List (String × FailureStrategy) :=
  [("throw", .throw), ("log_and_return_default", .substituteDefault), ("return_failure_marker", .returnMarker)]

def CompoundKind.names : List (String × CompoundKind) := [("list", .list), ("set", .set)]

def CommandKind.names : List (String × CommandKind) :=
  [("set", .set), ("inc", .inc), ("dec", .dec), ("clear", .clear), ("list_append", .listAppend),
    ("set_append", .setAppend)]

def ErrorPolicy.names : List (String × ErrorPolicy) :=
  [("abort_remaining", .abortRemaining), ("skip_and_continue", .skipAndContinue),
    ("collect_and_report_all", .collectAndReportAll)]

/-- the values that stand in for texts that do not read -/
def ScalarDefaults.ofDocument (d : Document) : Reading ScalarDefaults := do
  match ← d.readParts ["bool_value", "int_value", "double_value"] with
  | [bool, int, double] =>
    let base : ScalarDefaults := {}
    return {
      bool := ← Document.orDefault base.bool Document.readBool bool
      int := ← Document.orDefault base.int Document.readInt int
      double := ← Document.orDefault base.double Document.readDouble double }
  | _ => failure

/-- the texts read as booleans -/
def BoolLiterals.ofDocument (d : Document) : Reading BoolLiterals := do
  match ← d.readParts ["true_literals", "false_literals"] with
  | [trues, falses] =>
    let base : BoolLiterals := {}
    return {
      trueLiterals := ← Document.orDefault base.trueLiterals (Document.readList Document.readText) trues
      falseLiterals := ← Document.orDefault base.falseLiterals (Document.readList Document.readText) falses }
  | _ => failure

/-- when a script is preceded by an automatic savepoint -/
def AutoSavepointPolicy.ofDocument (d : Document) : Reading AutoSavepointPolicy := do
  match ← d.readParts ["enabled", "max_count", "exclude_noops", "prune_oldest"] with
  | [enabled, maxCount, excludeNoops, pruneOldest] =>
    let base : AutoSavepointPolicy := {}
    return {
      enabled := ← Document.orDefault base.enabled Document.readBool enabled
      maxCount := ← Document.orDefault base.maxCount Document.readCount maxCount
      excludeNoops := ← Document.orDefault base.excludeNoops Document.readBool excludeNoops
      pruneOldest := ← Document.orDefault base.pruneOldest Document.readBool pruneOldest }
  | _ => failure

namespace CompoundNotation

/-- a text by its own kind -/
def word? : Document → Option String
  | .leaf l => if l.kind = .text then l.text else none
  | _ => none

/-- a single character; a scalar of another kind does not become a text -/
def char? (d : Document) : Option Char :=
  match (word? d).map String.toList with
  | some [c] => some c
  | _ => none

/-- an escape character, or nothing -/
def escape? : Document → Option (Option Char)
  | .leaf l => if l.kind = .null then some none else (char? (.leaf l)).map some
  | _ => none

/-- the notation with that name and those further parts: a delimiter, and perhaps an escape -/
def ofParts? (name : String) (delimiter escape : Option Document) : Option CompoundNotation :=
  if name = "json_array" then some .jsonArray
  else if name = "delimited" then do
    let delimiter ← char? (← delimiter)
    let escape ← match escape with
      | none => some none
      | some escape => escape? escape
    return .delimited delimiter escape
  else none

/-- how deep the parts of a notation may nest -/
def depthLimit : Nat := 126

/-- the part that a member describes: parts have names, and numbers in the order of their names -/
def partName? : Document → Option String
  | .leaf l =>
    match l.kind with
    | .text => l.text
    | .natural => l.count.map fun n => ["delimiter", "escape"][n]?.getD ""
    | _ => none
  | _ => none

/-- the notation that the members of a mapping describe, `type` among them -/
def ofMembers (members : List (Document × Document)) : Reading CompoundNotation := do
  let members ← members.mapM fun (key, value) => return (← key.readWhole depthLimit, value)
  let (types, others) := members.partition fun (key, _) => word? key = some "type"
  let name ← match types with
    | [(_, type)] => type.readText
    | _ => failure
  let others ← others.mapM fun (key, value) => return (key, ← value.readWhole depthLimit)
  if name = "json_array" then return .jsonArray
  else
    let parts ← others.mapM fun (key, value) => return (← partName? key, value)
    ofParts? name (← Document.uniqueMember? parts "delimiter") (← Document.uniqueMember? parts "escape")

/-- the notation that the items of a sequence describe, the name of the notation first -/
def ofItems : List Document → Reading CompoundNotation
  | [] => failure
  | type :: others => do
    let name ← type.readText
    match ← others.mapM (Document.readWhole depthLimit) with
    | [] => ofParts? name none none
    | [delimiter] => if name = "json_array" then failure else ofParts? name (some delimiter) none
    | [delimiter, escape] => if name = "json_array" then failure else ofParts? name (some delimiter) (some escape)
    | _ => failure

/-- the notation of lists and sets -/
def ofDocument (d : Document) : Reading CompoundNotation := do
  match ← d.followed with
  | .mapping _ members => ofMembers members
  | .sequence _ items => ofItems items
  | _ => failure

end CompoundNotation

namespace Config

/-- the names of the parts of a configuration -/
def partNames : List String :=
  ["allowed_scopes", "name_pattern", "failure_strategy", "defaults", "bool_literals", "compound_serialization",
    "compound_keys", "enum_map", "enum_case_sensitive", "enabled_commands", "query_error_policy", "auto_savepoint",
    "history_max_entries", "record_noop_clears"]

/-- a table as a sorted map; the last of equal names counts -/
def sortedTable {α : Type} (entries : List (String × α)) : Std.ExtTreeMap String α :=
  entries.foldl (fun acc (name, v) => acc.insert name v) ∅

/-- the configuration that a document describes -/
def ofDocument (d : Document) : Reading Config := do
  match ← d.readParts partNames with
  | [scopes, pattern, strategy, defaults, bools, compound, compoundKeys, enums, caseSensitive, commands, policy,
      savepoints, cap, noops] =>
    let base : Config := {}
    let scopes ← Document.orDefault [] (Document.readList Document.readText) scopes
    let compoundKeys ← Document.orDefault [] (Document.readTable (Document.readNamed CompoundKind.names)) compoundKeys
    let enums ← Document.orDefault [] (Document.readTable Document.readText) enums
    return {
      allowedScopes := scopes.foldl (fun acc scope => acc.insert scope) ∅
      namePattern := ← Document.orDefault base.namePattern Document.readText pattern
      failureStrategy := ← Document.orDefault base.failureStrategy (Document.readNamed FailureStrategy.names) strategy
      defaults := ← Document.orDefault base.defaults ScalarDefaults.ofDocument defaults
      boolLiterals := ← Document.orDefault base.boolLiterals BoolLiterals.ofDocument bools
      compoundNotation := ← Document.orDefault base.compoundNotation CompoundNotation.ofDocument compound
      compoundKeys := sortedTable compoundKeys
      enumMap := sortedTable enums
      enumCaseSensitive := ← Document.orDefault base.enumCaseSensitive Document.readBool caseSensitive
      enabledCommands := ←
        Document.orDefault base.enabledCommands (Document.readList (Document.readNamed CommandKind.names)) commands
      errorPolicy := ← Document.orDefault base.errorPolicy (Document.readNamed ErrorPolicy.names) policy
      autoSavepoint := ← Document.orDefault base.autoSavepoint AutoSavepointPolicy.ofDocument savepoints
      historyMaxEntries := ← Document.orDefault base.historyMaxEntries (Document.readOptional Document.readCount) cap
      recordNoopClears := ← Document.orDefault base.recordNoopClears Document.readBool noops }
  | _ => failure

end Config
end ScopedStore
