/-
Carrying out scripts, and what is reported of it.

`Store.execute` carries out the statements in order. Whether later ones still run after a failure is up to the error
policy. The report has one outcome for every statement.
-/
import ScopedStore.Store
import ScopedStore.Script.Plan

namespace ScopedStore

/-- what became of a statement -/
inductive StatementStatus where
  /-- carried out; the value is what the key then holds, and there is none after a clear -/
  | applied (key : Key) (value : Option String)
  | failed (error : StoreError)
  | notRun
  deriving DecidableEq

/-- a statement and what became of it -/
structure StatementOutcome where
  index : Nat
  text : String
  status : StatementStatus
  deriving DecidableEq

namespace StatementOutcome

/-- the error of a statement that failed -/
def error? (o : StatementOutcome) : Option StoreError :=
  match o.status with
  | .failed e => some e
  | _ => none

def isApplied (o : StatementOutcome) : Bool :=
  match o.status with
  | .applied _ _ => true
  | _ => false

end StatementOutcome

/-- how a script went as a whole -/
inductive ScriptStatus where
  | completed
  | completedWithSkips (skipped : Nat)
  | completedWithErrors (failed : Nat)
  | aborted (index : Nat)
  deriving DecidableEq

/-- the outcomes of a script -/
structure ScriptReport where
  policy : ErrorPolicy
  outcomes : List StatementOutcome
  /-- the savepoint that was made before the script -/
  autoSavepoint : Option String := none
  deriving DecidableEq

namespace ScriptReport

/-- the outcomes of the statements that failed -/
def failures (r : ScriptReport) : List StatementOutcome := r.outcomes.filter (·.error?.isSome)

/-- how many statements were carried out -/
def appliedCount (r : ScriptReport) : Nat := r.outcomes.countP (·.isApplied)

/-- how the script went as a whole -/
def status (r : ScriptReport) : ScriptStatus :=
  match r.failures with
  | [] => .completed
  | first :: rest =>
    match r.policy with
    | .abortRemaining => .aborted first.index
    | .skipAndContinue => .completedWithSkips (rest.length + 1)
    | .collectAndReportAll => .completedWithErrors (rest.length + 1)

/-- nothing failed, or the failures are tolerated -/
def succeeded (r : ScriptReport) : Bool :=
  match r.status with
  | .completed => true
  | .completedWithSkips _ => true
  | _ => false

end ScriptReport

namespace Store

open Attempt

/-- carries out a command; gives the value that its key then holds -/
def apply (time : Nat) (c : Command) : Attempt Store (Option String) :=
  let k := KeyRef.key c.key
  match c.kind, c.operand with
  | .clear, _ => do
    let _ ← clear time k
    return none
  | .set, some operand => do
    set time k operand.text
    return some operand.text
  | .inc, some (.number n) => do
    let raw ← increment time k n
    return some raw
  | .dec, some (.number n) => do
    let raw ← decrement time k n
    return some raw
  | .listAppend, some operand => do
    let raw ← listAppend time k operand.text
    return some raw
  | .setAppend, some operand => do
    let raw ← setAppend time k operand.text
    return some raw
  | kind, _ => fail (.semantic (.arity kind.spelling "an operand" 0))

/-- carries out a statement; a command that fails leaves its store to the next one -/
def applyStatement (s : Store) (time : Nat) (statement : PreparedStatement) : StatementStatus × Store :=
  match statement.command with
  | .error e => (.failed e, s)
  | .ok c =>
    match apply time c s with
    | (.ok value, s) => (.applied c.key value, s)
    | (.error e, s) => (.failed e, s)

/-- the status of a failed statement -/
def isFailure : StatementStatus → Bool
  | .failed _ => true
  | _ => false

/-- carries out statements in order; once `aborted`, none of them runs -/
def runStatements (policy : ErrorPolicy) (time : Nat) :
    Bool → Store → List PreparedStatement → List StatementOutcome × Store
  | _, s, [] => ([], s)
  | true, s, statement :: rest =>
    let (outcomes, s) := runStatements policy time true s rest
    (⟨statement.index, statement.text, .notRun⟩ :: outcomes, s)
  | false, s, statement :: rest =>
    let (status, s) := s.applyStatement time statement
    let (outcomes, s) := runStatements policy time (isFailure status && policy = .abortRemaining) s rest
    (⟨statement.index, statement.text, status⟩ :: outcomes, s)

/-- carries out a script; its changes are attributed to it -/
def execute (s : Store) (time : Nat) (script : PreparedScript) (policy : ErrorPolicy) : ScriptReport × Store :=
  let (previous, s) := s.swapSource .query
  let (outcomes, s) := runStatements policy time false s script.statements
  ({ policy, outcomes }, (s.swapSource previous).2)

end Store
end ScopedStore
