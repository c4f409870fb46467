/-
The engine: a store together with its savepoints and the command language of its configuration.

`Engine.perform` carries out one action, and `Engine.run` a sequence of them. Actions are computations on the engine; one
that fails leaves the engine as far as it has come. An action has one time, which its savepoint and all that it enters in
the history get; times are kept to be told, and nothing is decided by them.
-/
import ScopedStore.Script.Report
import ScopedStore.Savepoint

namespace ScopedStore

/-- a store with its savepoints -/
structure Engine where
  store : Store
  savepoints : Savepoints
  dialect : Dialect

namespace Engine

open Attempt

/-- an engine with an empty store; the configuration must be consistent, and `ids` gives the ids of its savepoints -/
def create (config : Config) (ids : Nat → String := SavepointInfo.numberedId) : Except ConfigError Engine := do
  let store ← Store.create config
  let dialect ← Dialect.ofConfig config
  return { store, savepoints := { policy := config.autoSavepoint, ids }, dialect }

/-- a computation on the store as one on the engine -/
def onStore {α : Type} (x : Attempt Store α) : Attempt Engine α := fun e =>
  let (result, store) := x e.store
  (result, { e with store })

@[simp] theorem onStore_eq {α : Type} {x : Attempt Store α} {e e' : Engine} {r : Except StoreError α} :
    onStore x e = (r, e') ↔ ∃ store, x e.store = (r, store) ∧ { e with store } = e' := by
  unfold onStore
  rcases x e.store with ⟨result, store⟩
  simp [and_assoc]

/-! ## Savepoints -/

/-- makes a savepoint of the current mapping -/
def saveWith (e : Engine) (time : Nat) (options : SaveOptions) : String × Engine :=
  let (id, savepoints) := e.savepoints.createManual e.store.data options time
  (id, { e with savepoints })

/-- makes a savepoint with a label -/
def save (e : Engine) (time : Nat) (label : String) : String × Engine := e.saveWith time { label := some label }

/-- the live savepoint with that id -/
def savepoint (e : Engine) (id : String) : Except StoreError Savepoint :=
  match e.savepoints.get? id with
  | some s => .ok s
  | none => .error (.unknownSavepoint id)

/-- goes back to the mapping of a savepoint, which is kept; counts the keys whose value changed -/
def restore (time : Nat) (id : String) : Attempt Engine Nat := do
  let found ← look (·.savepoint id)
  onStore (exchange (·.restoreMapping time found.snapshot))

/-- gives up a savepoint -/
def deleteSavepoint (id : String) : Attempt Engine SavepointInfo := do
  let removed ← look fun e => .ok (e.savepoints.remove id)
  match removed with
  | some (found, savepoints) =>
    change fun e => { e with savepoints }
    return found.info
  | none => fail (.unknownSavepoint id)

/-- what changed since a savepoint -/
def diffSavepoint (e : Engine) (id : String) : Except StoreError Diff := do
  let found ← e.savepoint id
  return Diff.between found.snapshot e.store.data

/-! ## Scripts -/

/-- reads and analyzes a script without carrying it out -/
def prepare (e : Engine) (script : String) : PreparedScript := e.dialect.prepare script

/-- makes the savepoint that the policy asks for before a script -/
def autoSavepoint (e : Engine) (time : Nat) (script : PreparedScript) : Option String × Engine :=
  let policy := e.savepoints.policy
  if !policy.enabled then (none, e)
  else if policy.excludeNoops && script.isNoop then (none, e)
  else
    let (id, savepoints) := e.savepoints.createAutomatic e.store.data time
    (id, { e with savepoints })

/-- carries out a script under an error policy -/
def runScriptWith (e : Engine) (time : Nat) (script : String) (policy : ErrorPolicy) : ScriptReport × Engine :=
  let prepared := e.prepare script
  let (id, e) := e.autoSavepoint time prepared
  let (report, store) := e.store.execute time prepared policy
  ({ report with autoSavepoint := id }, { e with store })

/-- carries out a script under the configured error policy -/
def runScript (e : Engine) (time : Nat) (script : String) : ScriptReport × Engine :=
  e.runScriptWith time script e.store.config.errorPolicy

/-! ## Actions -/

/-- everything that can change an engine, and the questions that can fail -/
inductive Action where
  | set (k : KeyRef) (raw : String)
  | setAs (k : KeyRef) (v : Scalar)
  | setList (k : KeyRef) (items : List String)
  | setSet (k : KeyRef) (items : List String)
  | clear (k : KeyRef)
  | clearWhere (p : Key → Bool)
  | clearScope (scope : String)
  | appendMap (entries : List (String × String)) (policy : ConflictPolicy)
  | importRaw (entries : List (String × String)) (policy : ConflictPolicy)
  | increment (k : KeyRef) (amount : Number)
  | decrement (k : KeyRef) (amount : Number)
  | listAppend (k : KeyRef) (item : String)
  | setAppend (k : KeyRef) (item : String)
  | subscribe (filter : EventFilter) (listener : Listener)
  | unsubscribe (handle : Nat)
  | historyFor (k : KeyRef)
  | save (options : SaveOptions)
  | restore (id : String)
  | deleteSavepoint (id : String)
  | diffSavepoint (id : String)
  | runScript (script : String) (policy : ErrorPolicy)
  | execute (script : PreparedScript) (policy : ErrorPolicy)

/-- what an action gives -/
inductive Answer where
  | unit
  | text (value : String)
  | prior (value : Option String)
  | count (n : Nat)
  | merged (summary : MergeSummary)
  | known (value : Bool)
  | entries (value : List Entry)
  | info (value : SavepointInfo)
  | diff (value : Diff)
  | report (value : ScriptReport)

/-- carries out an action -/
def attempt (time : Nat) : Action → Attempt Engine Answer
  | .set k raw => (fun _ => .unit) <$> onStore (Store.set time k raw)
  | .setAs k v => (fun _ => .unit) <$> onStore (Store.setAs time k v)
  | .setList k items => (fun _ => .unit) <$> onStore (Store.setList time k items)
  | .setSet k items => (fun _ => .unit) <$> onStore (Store.setSet time k items)
  | .clear k => .prior <$> onStore (Store.clear time k)
  | .clearWhere p => .count <$> onStore (exchange (·.clearWhere time p))
  | .clearScope scope => .count <$> onStore (Store.clearScope time scope)
  | .appendMap entries policy => .merged <$> onStore (Store.appendMap time entries policy)
  | .importRaw entries policy => .merged <$> onStore (Store.importRaw time entries policy)
  | .increment k amount => .text <$> onStore (Store.increment time k amount)
  | .decrement k amount => .text <$> onStore (Store.decrement time k amount)
  | .listAppend k item => .text <$> onStore (Store.listAppend time k item)
  | .setAppend k item => .text <$> onStore (Store.setAppend time k item)
  | .subscribe filter listener => .count <$> onStore (exchange (·.subscribe filter listener))
  | .unsubscribe handle => .known <$> onStore (exchange (·.unsubscribe handle))
  | .historyFor k => .entries <$> onStore (look (·.historyFor k))
  | .save options => .text <$> exchange (·.saveWith time options)
  | .restore id => .count <$> restore time id
  | .deleteSavepoint id => .info <$> deleteSavepoint id
  | .diffSavepoint id => .diff <$> look (·.diffSavepoint id)
  | .runScript script policy => .report <$> exchange (·.runScriptWith time script policy)
  | .execute script policy => .report <$> onStore (exchange (·.execute time script policy))

/-- how an action ends, and the engine that it leaves -/
def perform (e : Engine) (time : Nat) (a : Action) : Except StoreError Answer × Engine := attempt time a e

/-- carries out actions one after the other -/
def run (e : Engine) (actions : List (Nat × Action)) : Engine :=
  actions.foldl (fun e (time, a) => (e.perform time a).2) e

/-- an engine that was created from a configuration and has carried out some actions -/
inductive Reachable : Engine → Prop where
  | create {config : Config} {ids : Nat → String} {e : Engine} (h : create config ids = .ok e) : Reachable e
  | perform {e : Engine} (h : Reachable e) (time : Nat) (a : Action) : Reachable (e.perform time a).2

end Engine
end ScopedStore
