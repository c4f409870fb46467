/-
Scripts can be undone.

A script whose statements are all refused in advance leaves any store as it is (`execute_of_isNoop`). Before any other
one the policy is asked for a savepoint; the new savepoint has an id of its own, so it is found again after the script
(`Reachable.restore_automatic`), whatever the statements did and wherever they stopped.

Main result, `scripts_can_be_undone`: going back to the savepoint that a script reports gives the mapping from before the
script; there is such a savepoint unless the script is known to change nothing or the policy has no room left, and in the
last case the script runs all the same.
-/
import ScopedStore.Proofs.Confinement
import ScopedStore.Proofs.Policies
import ScopedStore.Proofs.Retention

namespace ScopedStore

/-! ## Scripts that change nothing -/

namespace Store

/-- statements that are refused in advance do nothing, whichever of them run -/
theorem state_runStatements_of_refused {l : List PreparedStatement} (h : ∀ x ∈ l, ¬x.command.isOk)
    (policy : ErrorPolicy) (time : Nat) (aborted : Bool) (s : Store) :
    (runStatements policy time aborted s l).2 = s := by
  induction l generalizing aborted with
  | nil => cases aborted <;> rfl
  | cons x l ih =>
    have hl := ih fun y hy => h y (List.mem_cons_of_mem x hy)
    cases aborted with
    | true => exact hl true
    | false =>
      cases hc : x.command with
      | ok c => exact absurd (by rw [hc]; rfl) (h x List.mem_cons_self)
      | error e =>
        rw [runStatements_cons, applyStatement_of_error hc]
        exact hl _

/-- **Scripts that can change nothing change nothing.** -/
theorem execute_of_isNoop {script : PreparedScript} (h : script.isNoop) (s : Store) (time : Nat)
    (policy : ErrorPolicy) : (s.execute time script policy).2 = s := by
  have hrefused : ∀ x ∈ script.statements, ¬x.command.isOk := by simpa [PreparedScript.isNoop] using h
  simp only [execute_eq, state_runStatements_of_refused hrefused]

end Store

/-! ## The savepoint before a script -/

namespace Engine

open Savepoints

variable {e : Engine}

theorem Reachable.numbered (h : Reachable e) (hids : Function.Injective e.savepoints.ids) :
    e.savepoints.Numbered := by
  induction h with
  | create h =>
    obtain ⟨-, keys, -, rfl⟩ := create_eq_ok.1 h
    exact ⟨nofun, .nil⟩
  | @perform e h time a ih =>
    have heffect := perform_effect h.inv.user time a
    have hids' : Function.Injective e.savepoints.ids := heffect.settled.ids ▸ hids
    exact heffect.numbered hids' (ih hids')

/-- what the policy decides about a script is what it decides about savepoints -/
theorem autoSavepoint_eq (henabled : e.savepoints.policy.enabled) {script : PreparedScript}
    (hscript : ¬script.isNoop ∨ ¬e.savepoints.policy.excludeNoops) (time : Nat) :
    e.autoSavepoint time script =
      let (id, savepoints) := e.savepoints.createAutomatic e.store.data time
      (id, { e with savepoints }) := by
  have hasked : ¬(e.savepoints.policy.excludeNoops && script.isNoop) := by
    rw [Bool.and_eq_true, not_and_or]
    exact hscript.symm
  simp only [autoSavepoint, henabled, hasked, Bool.not_true, Bool.false_eq_true, if_false]

/-- the savepoint that was made last leads back, whatever becomes of the store -/
theorem perform_restore_of_push {s : Savepoints} (h : s.Numbered) (hids : Function.Injective s.ids) {snapshot : Mapping}
    {kind : SavepointKind} {source : Source} {label : Option String} {metadata : Std.ExtTreeMap String String}
    {time : Nat} (he : e.savepoints = (s.push snapshot kind source label metadata time).2) (later : Nat) :
    e.perform later (.restore (s.ids s.created)) = (.ok (.count (e.store.restoreMapping later snapshot).1),
      { e with store := (e.store.restoreMapping later snapshot).2 }) := by
  have hlive := (h.push hids snapshot kind source label metadata time).get?_of_mem
    (List.mem_append_right _ (List.mem_singleton_self _))
  rw [← he] at hlive
  exact perform_restore hlive later

/-- **The new savepoint leads back**, whatever becomes of the store. -/
theorem Reachable.restore_automatic (h : Reachable e) (hids : Function.Injective e.savepoints.ids)
    (hadmits : e.savepoints.Admits) (time : Nat) :
    let made := e.savepoints.createAutomatic e.store.data time
    ∃ id, made.1 = some id ∧ ∀ (store : Store) (later : Nat), ∃ n back,
      Engine.perform { e with savepoints := made.2, store } later (.restore id) = (.ok (.count n), back) ∧
        back.store.data = e.store.data := by
  intro made
  have hmade : made = _ := createAutomatic_of_admits hadmits e.store.data time
  have hroom : Numbered { e.savepoints with live := evictTo e.savepoints.policy.maxCount e.savepoints.live } :=
    (h.numbered hids).of_sublist (evictTo_spec ..).1
  rw [hmade]
  exact ⟨_, rfl, fun store later => ⟨_, _, perform_restore_of_push hroom hids rfl later, rfl⟩⟩

end Engine

/-! ## Main result -/

open Engine Store

/-- **Scripts can be undone.** Take a reachable engine whose policy for savepoints is on and has a bound above zero, the
ids being pairwise distinct. Unless the script is known to change nothing and such scripts are excluded, it reports a
savepoint, provided that the policy prunes or is below its bound; and going back to that savepoint gives the mapping from
before the script. Where the policy has no room left, the savepoints stay as they are. In any case the script does to the
store what carrying it out does, with the same outcomes. A script that is known to change nothing leaves every store as
it is, mapping, history, listeners and all. -/
theorem scripts_can_be_undone {e : Engine} (h : Reachable e) (hids : Function.Injective e.savepoints.ids)
    (henabled : e.savepoints.policy.enabled) (hbound : 0 < e.savepoints.policy.maxCount) (time : Nat)
    (script : String) (policy : ErrorPolicy) :
    let prepared := e.prepare script
    let ran := e.runScriptWith time script policy
    let room := e.savepoints.policy.pruneOldest ∨ e.savepoints.automaticCount < e.savepoints.policy.maxCount
    (¬prepared.isNoop ∨ ¬e.savepoints.policy.excludeNoops →
      (room → ∃ id, ran.1.autoSavepoint = some id ∧ ∀ later, ∃ n back,
        ran.2.perform later (.restore id) = (.ok (.count n), back) ∧ back.store.data = e.store.data) ∧
      (¬room → ran.1.autoSavepoint = none ∧ ran.2.savepoints = e.savepoints)) ∧
    (ran.1.outcomes = (e.store.execute time prepared policy).1.outcomes ∧
      ran.2.store = (e.store.execute time prepared policy).2) ∧
    ∀ script : PreparedScript, script.isNoop → ∀ (s : Store) (time : Nat) (policy : ErrorPolicy),
      (s.execute time script policy).2 = s := by
  intro prepared ran room
  have hran : ran = _ := runScriptWith_eq e time script policy
  refine ⟨fun hscript => ⟨fun hroom => ?_, fun hfull => ?_⟩, ?_, fun script hnoop s time policy =>
    execute_of_isNoop hnoop s time policy⟩
  · rw [hran, autoSavepoint_eq henabled hscript]
    obtain ⟨id, hid, hback⟩ := h.restore_automatic hids ⟨henabled, hbound, hroom⟩ time
    exact ⟨id, hid, hback _⟩
  · rw [hran, autoSavepoint_eq henabled hscript,
      Savepoints.createAutomatic_of_not_admits fun hadmits => hfull hadmits.room]
    exact ⟨rfl, rfl⟩
  · exact ⟨outcomes_runScriptWith e time script policy, store_runScriptWith e time script policy⟩

/-- an engine whose only place for automatic savepoints is taken -/
def sampleTaken : Engine := (sample.perform 1 (.runScript "inc env:a 2" .abortRemaining)).2

/-- a script whose third statement fails -/
def failingScript : String := "set env:a 9223372036854775807; clear env:b; inc env:a 1; clear env:a"

/-- a script that stops in the middle makes room for its savepoint, by which it can be undone -/
theorem sample_scripts_can_be_undone :
    let ran := sampleTaken.runScriptWith 2 failingScript .abortRemaining
    Reachable sampleTaken ∧ sampleTaken.savepoints.policy.enabled ∧ 0 < sampleTaken.savepoints.policy.maxCount ∧
      sampleTaken.store.data.toList = [(⟨"env", "a"⟩, "2")] ∧
      ran.2.store.data.toList = [(⟨"env", "a"⟩, "9223372036854775807")] ∧ ran.1.status = .aborted 2 ∧
      ran.1.autoSavepoint = some "#1" ∧
      ∃ n back, ran.2.perform 3 (.restore "#1") = (.ok (.count n), back) ∧ back.store.data = sampleTaken.store.data := by
  have hr : Reachable sampleTaken := reachable_sample.perform 1 _
  have hids : sampleTaken.savepoints.ids = SavepointInfo.numberedId :=
    (reachable_sample.inv.settled_run [(1, .runScript "inc env:a 2" .abortRemaining)]).ids
  have htaken : sampleTaken.savepoints.policy.enabled ∧ 0 < sampleTaken.savepoints.policy.maxCount ∧
      sampleTaken.savepoints.policy.pruneOldest ∧ ¬(sampleTaken.prepare failingScript).isNoop := by decide +kernel
  obtain ⟨hon, hbound, hprunes, hworks⟩ := htaken
  have hran : let ran := sampleTaken.runScriptWith 2 failingScript .abortRemaining
      ran.2.store.data.toList = [(⟨"env", "a"⟩, "9223372036854775807")] ∧ ran.1.status = .aborted 2 ∧
        ran.1.autoSavepoint = some "#1" := by decide +kernel
  obtain ⟨hundo, -, -⟩ := scripts_can_be_undone hr (hids ▸ SavepointInfo.numberedId_injective) hon hbound 2
    failingScript .abortRemaining
  obtain ⟨id, hid, hback⟩ := (hundo (.inl hworks)).1 (.inl hprunes)
  obtain rfl : "#1" = id := Option.some.inj (hran.2.2.symm.trans hid)
  exact ⟨hr, hon, hbound, by decide +kernel, hran.1, hran.2.1, hran.2.2, hback 3⟩

end ScopedStore
