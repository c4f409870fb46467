/-
What the command line prints: reports, checks and the contents of a store, as lines or as JSON.
-/
import ScopedStore.Config.Read
import ScopedStore.Engine

namespace ScopedStore

/-- a text with a line break after it -/
def asLine (text : String) : String := text ++ "\n"

/-! ## Lines -/

/-- the line for the outcome of a statement -/
def StatementOutcome.line (o : StatementOutcome) : String :=
  match o.status with
  | .applied _ (some value) => s!"[{o.index}] ok      {o.text} => {value}"
  | .applied _ none => s!"[{o.index}] ok      {o.text}"
  | .failed error => s!"[{o.index}] FAILED  {o.text}: {error.message}"
  | .notRun => s!"[{o.index}] skipped {o.text}"

/-- how a script went, in words -/
def ScriptStatus.text : ScriptStatus → String
  | .completed => "Completed"
  | .completedWithSkips skipped => s!"CompletedWithSkips \x7b skipped: {skipped} \x7d"
  | .completedWithErrors failed => s!"CompletedWithErrors \x7b failed: {failed} \x7d"
  | .aborted index => s!"Aborted \x7b at: {index} \x7d"

/-- the lines for a script -/
def ScriptReport.lines (r : ScriptReport) : List String :=
  r.outcomes.map StatementOutcome.line ++ r.autoSavepoint.toList.map ("savepoint " ++ ·) ++
    ["status: " ++ r.status.text]

/-- the lines for the contents of a store, in the order of the keys' texts -/
def Store.lines (s : Store) : List String := s.exportRaw.map fun (key, value) => s!"{key} = {value}"

/-- the lines for a script that was only read -/
def PreparedScript.lines (p : PreparedScript) : List String :=
  if p.errors.isEmpty then [s!"ok: {p.statements.length} statement(s)"]
  else p.errors.map fun (index, error) => s!"[{index}] {error.message}"

/-! ## JSON -/

/-- the members that tell what became of a statement -/
def StatementStatus.members : StatementStatus → List (String × Json)
  | .applied key value => [("status", .string "applied"), ("key", .string key.text), ("value", .ofOption value)]
  | .failed error => [("status", .string "failed"), ("error", .string error.message)]
  | .notRun => [("status", .string "not_run")]

/-- the outcome of a statement -/
def StatementOutcome.json (o : StatementOutcome) : Json :=
  Json.ofMembers ([("index", .ofNat o.index), ("text", .string o.text)] ++ o.status.members)

/-- the name of a policy in a configuration -/
def ErrorPolicy.name : ErrorPolicy → String
  | .abortRemaining => "abort_remaining"
  | .skipAndContinue => "skip_and_continue"
  | .collectAndReportAll => "collect_and_report_all"

/-- the outcomes of a script -/
def ScriptReport.json (r : ScriptReport) : Json :=
  Json.ofMembers [("policy", .string r.policy.name), ("outcomes", .array (r.outcomes.map StatementOutcome.json)),
    ("auto_savepoint", .ofOption r.autoSavepoint)]

/-- the contents of a store -/
def Store.json (s : Store) : Json := Json.ofMembers (s.exportRaw.map fun (key, value) => (key, .string value))

/-- a script that was only read -/
def PreparedScript.json (p : PreparedScript) : Json :=
  let error : Nat × StoreError → Json := fun (index, e) =>
    Json.ofMembers [("index", .ofNat index), ("error", .string e.message)]
  Json.ofMembers [("statements", .ofNat p.statements.length), ("errors", .array (p.errors.map error))]

end ScopedStore
