/-
What the words of a command line ask for.

The first word names the action. Flags may stand anywhere after it; `Options.read` takes them out and leaves the other
words in their order. A flag that is wrong is reported before an action that is.
-/

namespace ScopedStore

/-- what is to be done -/
inductive CommandLineAction where
  /-- runs scripts in order, or the one on standard input when there are none -/
  | run (scripts : List String)
  /-- reads a script and reports what is wrong with it -/
  | check (script : String)
  /-- lists the store -/
  | dump
  | help
  deriving DecidableEq

/-- flags that every action takes -/
structure Options where
  config : Option String := none
  importFile : Option String := none
  json : Bool := false
  verbose : Bool := false
  deriving DecidableEq

/-- an action with its flags -/
structure Invocation where
  action : CommandLineAction
  options : Options
  deriving DecidableEq

/-- why the words of a command line are refused -/
inductive UsageError where
  | noCommand
  | missingValue (flag : String)
  | unknownFlag (flag : String)
  | checkTakesOne
  | dumpTakesNone
  | unknownCommand (word : String)
  deriving DecidableEq

/-- the wording of an error -/
def UsageError.message : UsageError → String
  | .noCommand => "No command specified. Run 'skv help' for usage."
  | .missingValue flag => s!"{flag} requires a value"
  | .unknownFlag flag => s!"Unknown flag: '{flag}'"
  | .checkTakesOne => "Usage: skv check <script>"
  | .dumpTakesNone => "Usage: skv dump [flags]"
  | .unknownCommand word => s!"Unknown command: '{word}'"

/-- the words of a command line that are no flags, and the flags -/
def Options.read (options : Options) : List String → Except UsageError (Options × List String)
  | [] => .ok (options, [])
  | word :: words =>
    if word = "--config" then
      match words with
      | [] => .error (.missingValue word)
      | value :: words => Options.read { options with config := some value } words
    else if word = "--import" then
      match words with
      | [] => .error (.missingValue word)
      | value :: words => Options.read { options with importFile := some value } words
    else if word = "--json" then Options.read { options with json := true } words
    else if word = "--verbose" ∨ word = "-v" then Options.read { options with verbose := true } words
    else if "--".toList.isPrefixOf word.toList then .error (.unknownFlag word)
    else (Options.read options words).map fun (options, others) => (options, word :: others)

/-- the action of that name, applied to the words that are no flags -/
def CommandLineAction.ofWords (name : String) (words : List String) : Except UsageError CommandLineAction :=
  match name with
  | "run" => .ok (.run words)
  | "check" =>
    match words with
    | [script] => .ok (.check script)
    | _ => .error .checkTakesOne
  | "dump" => if words.isEmpty then .ok .dump else .error .dumpTakesNone
  | "help" | "--help" | "-h" => .ok .help
  | _ => .error (.unknownCommand name)

namespace Invocation

/-- what the words of a command line ask for -/
def ofWords : List String → Except UsageError Invocation
  | [] => .error .noCommand
  | name :: words => do
    let (options, others) ← Options.read {} words
    return ⟨← CommandLineAction.ofWords name others, options⟩

/-- a short description of the command line -/
def usage : String :=
  "\n".intercalate [
    "Usage: skv <command> [flags]",
    "",
    "Commands:",
    "  run [SCRIPT...]   run scripts (stdin when none given)",
    "  check SCRIPT      validate a script without running it",
    "  dump              print the store contents",
    "  help              show this message",
    "",
    "Flags:",
    "  --config FILE     YAML store configuration (default: $SKV_CONFIG)",
    "  --import FILE     load key=value lines before running",
    "  --json            machine-readable output",
    "  --verbose         debug logging on stderr"]

end Invocation
end ScopedStore
