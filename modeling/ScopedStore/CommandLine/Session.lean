/-
A run of the command line: from its words to what it prints and the code it exits with.

`CommandLine.run` is the whole program but for the files it reads: these come through `Surroundings`, which are
given in any monad. A run reads the configuration first, then the file for import, then standard input.
-/
import ScopedStore.CommandLine.Invocation
import ScopedStore.CommandLine.Listing
import ScopedStore.Config.Load
import ScopedStore.Import

namespace ScopedStore

/-- what a run can see -/
structure Surroundings (m : Type → Type) where
  /-- the content of a file, or why it cannot be read -/
  contentOf : String → m (Except String String)
  /-- standard input, or why it cannot be read -/
  input : m (Except String String)
  /-- the file that holds the configuration when no flag names one -/
  configFile : Option String

/-- what a run leaves behind -/
structure RunResult where
  exitCode : Nat := 0
  output : String := ""
  errors : String := ""
  deriving DecidableEq

namespace CommandLine

/-- the exit code when nothing could be done -/
def refusedCode : Nat := 1

/-- the exit code when a script failed -/
def failedCode : Nat := 2

/-- a run that prints an error and does nothing -/
def refused (message : String) : RunResult := { exitCode := refusedCode, errors := asLine ("skv: " ++ message) }

/-- a run that prints lines; it may still have failed -/
def printed (lines : List String) (succeeded : Bool) : RunResult :=
  { exitCode := if succeeded then 0 else failedCode, output := String.join (lines.map asLine) }

/-- an error with the name of the file that it is about -/
def inFile {α : Type} (path : String) : Except String α → Except String α := Except.mapError fun e => s!"{path}: {e}"

/-- the engine of a configuration file's content -/
def engineOf (path : String) (content : Except String String) : Except String Engine := do
  let config ← inFile path <|
    match content with
    | .error cause => .error (ConfigError.unreadable s!"{path}: {cause}").message
    | .ok text => (Config.ofYaml text).mapError ConfigError.message
  (Engine.create config).mapError ConfigError.message

/-- the engine with the entries of an import file's content; they go over earlier values -/
def importInto (e : Engine) (path : String) (content : Except String String) : Except String Engine :=
  inFile path <| do
    let entries ← (Import.read (← content)).mapError ImportError.message
    match e.perform 0 (.importRaw entries .overwrite) with
    | (.ok _, e) => return e
    | (.error cause, _) => throw cause.message

/-- runs scripts one after the other -/
def runScripts (e : Engine) : List String → List ScriptReport × Engine
  | [] => ([], e)
  | script :: scripts =>
    let (report, e) := e.runScript 0 script
    let (reports, e) := runScripts e scripts
    (report :: reports, e)

/-- the result of running scripts -/
def runResult (e : Engine) (json : Bool) (scripts : List String) : RunResult :=
  let (reports, e) := runScripts e scripts
  let lines :=
    if json then [(Json.ofMembers [("reports", .array (reports.map ScriptReport.json)), ("store", e.store.json)]).text]
    else reports.flatMap ScriptReport.lines ++ e.store.lines
  printed lines (reports.all ScriptReport.succeeded)

/-- the result of checking a script -/
def checkResult (e : Engine) (json : Bool) (script : String) : RunResult :=
  let prepared := e.prepare script
  printed (if json then [prepared.json.text] else prepared.lines) prepared.errors.isEmpty

/-- the result of listing the store -/
def dumpResult (e : Engine) (json : Bool) : RunResult :=
  printed (if json then [e.store.json.text] else e.store.lines) true

variable {m : Type → Type} [Monad m]

/-- the engine that the flags ask for -/
def engine (around : Surroundings m) (options : Options) : ExceptT String m Engine := do
  match options.config.or around.configFile with
  | none => throw "no configuration: pass --config FILE or set SKV_CONFIG"
  | some path =>
    let content ← ExceptT.lift (around.contentOf path)
    let e ← ExceptT.mk (pure (engineOf path content))
    match options.importFile with
    | none => return e
    | some path =>
      let content ← ExceptT.lift (around.contentOf path)
      ExceptT.mk (pure (importInto e path content))

/-- carries out an action other than `help` -/
def act (around : Surroundings m) (invocation : Invocation) : ExceptT String m RunResult := do
  let e ← engine around invocation.options
  let json := invocation.options.json
  match invocation.action with
  | .run [] =>
    match ← ExceptT.lift around.input with
    | .ok script => return runResult e json [script]
    | .error cause => throw s!"reading stdin: {cause}"
  | .run scripts => return runResult e json scripts
  | .check script => return checkResult e json script
  | .dump => return dumpResult e json
  | .help => return printed [Invocation.usage] true

/-- the run that the words of a command line ask for -/
def run (around : Surroundings m) (words : List String) : m RunResult := do
  match Invocation.ofWords words with
  | .error e => return refused e.message
  | .ok invocation =>
    if invocation.action = .help then return printed [Invocation.usage] true
    else
      match ← (act around invocation).run with
      | .ok result => return result
      | .error message => return refused message

end CommandLine
end ScopedStore
