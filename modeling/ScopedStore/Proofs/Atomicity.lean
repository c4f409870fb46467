/-
Operations that fail change nothing.

Failing undoes nothing by itself, so an operation has to fail before its first change, or has to put back what it
changed. `Atomic` says that a computation does so, `Certain` that it never fails. Both are closed under the ways in
which operations are put together: reading first (`atomic_look_bind`), going on with something that cannot fail
(`Atomic.bind`), changing the source for a while (`Atomic.asSource`), acting on the store of an engine
(`Atomic.onStore`).

Main result, `failure_changes_nothing`: an action that fails leaves the engine as it was, mapping, history, savepoints,
subscriptions, calls and source alike; and a statement that fails leaves its store as it was to the next statement.
-/
import Mathlib.Tactic
import ScopedStore.Proofs.Statements

namespace ScopedStore

namespace Attempt

variable {σ α β : Type}

/-- a failure leaves the state as it was -/
def Atomic (x : Attempt σ α) : Prop := ∀ s e t, x s = (.error e, t) → t = s

/-- there is no failure -/
def Certain (x : Attempt σ α) : Prop := ∀ s e t, x s ≠ (.error e, t)

theorem certain_pure (a : α) : Certain (pure a : Attempt σ α) := by
  intro s e t h
  simp at h

theorem certain_change (f : σ → σ) : Certain (change f) := by
  intro s e t h
  simp at h

theorem certain_exchange (f : σ → α × σ) : Certain (exchange f) := by
  intro s e t h
  simp at h

theorem Certain.bind {x : Attempt σ α} {f : α → Attempt σ β} (hx : Certain x) (hf : ∀ a, Certain (f a)) :
    Certain (x >>= f) := by
  intro s e u h
  rcases bind_eq_error.1 h with h | ⟨a, t, -, h⟩
  · exact hx s e u h
  · exact hf a t e u h

theorem Certain.atomic {x : Attempt σ α} (hx : Certain x) : Atomic x := fun s e t h => absurd h (hx s e t)

theorem atomic_fail (e : StoreError) : Atomic (fail e : Attempt σ α) := fun _ _ _ h => (fail_eq.1 h).2.symm

theorem atomic_look (g : σ → Except StoreError α) : Atomic (look g) := fun _ _ _ h => (look_eq.1 h).2.symm

/-- what is read first changes nothing, so it does not matter how often -/
theorem atomic_look_bind {g : σ → Except StoreError α} {f : α → Attempt σ β} (hf : ∀ a, Atomic (f a)) :
    Atomic (look g >>= f) := by
  intro s e u h
  rcases bind_eq_error.1 h with h | ⟨a, t, hl, h⟩
  · exact atomic_look g s e u h
  · obtain ⟨-, rfl⟩ := look_eq.1 hl
    exact hf a s e u h

/-- after the first change, nothing may fail -/
theorem Atomic.bind {x : Attempt σ α} {f : α → Attempt σ β} (hx : Atomic x) (hf : ∀ a, Certain (f a)) :
    Atomic (x >>= f) := by
  intro s e u h
  rcases bind_eq_error.1 h with h | ⟨a, t, -, h⟩
  · exact hx s e u h
  · exact absurd h (hf a t e u)

theorem Atomic.map {x : Attempt σ α} (f : α → β) (hx : Atomic x) : Atomic (f <$> x) :=
  hx.bind fun a => certain_pure (f a)

/-- the source is put back after a failure -/
theorem Atomic.asSource {x : Attempt Store α} (source : Source) (hx : Atomic x) :
    Atomic (Store.asSource source x) := by
  intro s e t h
  obtain ⟨h1, rfl⟩ := Prod.mk.inj h
  have ht : (x { s with source }).2 = { s with source } := hx _ e _ (Prod.ext h1 rfl)
  simp only [Store.swapSource] at ht ⊢
  rw [ht]

theorem Atomic.onStore {x : Attempt Store α} (hx : Atomic x) : Atomic (Engine.onStore x) := by
  intro s e t h
  obtain ⟨h1, rfl⟩ := Prod.mk.inj h
  have ht : (x s.store).2 = s.store := hx _ e _ (Prod.ext h1 rfl)
  rw [ht]

end Attempt

open Attempt

/-! ## Operations on the store -/

namespace Store

theorem atomic_revise (time : Nat) (operation : Operation) (k : KeyRef)
    (f : Store → Key → Except StoreError String) : Atomic (revise time operation k f) :=
  atomic_look_bind fun _ => atomic_look_bind fun raw => ((certain_change _).bind fun _ => certain_pure raw).atomic

theorem atomic_set (time : Nat) (k : KeyRef) (raw : String) : Atomic (set time k raw) :=
  (atomic_revise time .set k _).bind fun _ => certain_pure ()

theorem atomic_setAs (time : Nat) (k : KeyRef) (v : Scalar) : Atomic (setAs time k v) :=
  atomic_look_bind fun raw => atomic_set time k raw

theorem atomic_setList (time : Nat) (k : KeyRef) (items : List String) : Atomic (setList time k items) :=
  atomic_look_bind fun k => atomic_look_bind fun raw => atomic_set time (.key k) raw

theorem atomic_setSet (time : Nat) (k : KeyRef) (items : List String) : Atomic (setSet time k items) :=
  atomic_look_bind fun k => atomic_look_bind fun raw => atomic_set time (.key k) raw

theorem atomic_clear (time : Nat) (k : KeyRef) : Atomic (clear time k) :=
  atomic_look_bind fun _ => (certain_exchange _).atomic

theorem atomic_clearScope (time : Nat) (scope : String) : Atomic (clearScope time scope) :=
  atomic_look_bind fun _ => (certain_exchange _).atomic

theorem atomic_appendMap (time : Nat) (entries : List (String × String)) (policy : ConflictPolicy) :
    Atomic (appendMap time entries policy) :=
  atomic_look_bind fun _ => ((certain_change _).bind fun _ => certain_pure _).atomic

theorem atomic_importRaw (time : Nat) (entries : List (String × String)) (policy : ConflictPolicy) :
    Atomic (importRaw time entries policy) :=
  (atomic_appendMap time entries policy).asSource .system

theorem atomic_transform (time : Nat) (operation : Operation) (k : KeyRef) (delta : Number) :
    Atomic (transform time operation k delta) := atomic_revise time operation k _

theorem atomic_decrement (time : Nat) (k : KeyRef) (amount : Number) : Atomic (decrement time k amount) := by
  unfold decrement
  cases amount.neg? with
  | some delta => exact atomic_transform time .decrement k delta
  | none => exact atomic_fail _

theorem atomic_listAppend (time : Nat) (k : KeyRef) (item : String) : Atomic (listAppend time k item) :=
  atomic_revise time .listAppend k _

theorem atomic_setAppend (time : Nat) (k : KeyRef) (item : String) : Atomic (setAppend time k item) :=
  atomic_revise time .setAppend k _

/-! ## Statements -/

/-- a command is one operation, and then gives its value -/
theorem atomic_apply (time : Nat) (c : Command) : Atomic (apply time c) := by
  unfold apply
  simp only
  split
  · exact (atomic_clear time _).bind fun _ => certain_pure none
  · exact (atomic_set time _ _).bind fun _ => certain_pure _
  · exact (atomic_transform time .increment _ _).bind fun raw => certain_pure (some raw)
  · exact (atomic_decrement time _ _).bind fun raw => certain_pure (some raw)
  · exact (atomic_listAppend time _ _).bind fun raw => certain_pure (some raw)
  · exact (atomic_setAppend time _ _).bind fun raw => certain_pure (some raw)
  · exact atomic_fail _

theorem applyStatement_of_failed {s t : Store} {time : Nat} {statement : PreparedStatement} {error : StoreError}
    (h : s.applyStatement time statement = (.failed error, t)) : t = s := by
  unfold applyStatement at h
  split at h
  · exact (Prod.mk.inj h).2.symm
  · rename_i c _
    split at h
    · simp at h
    · rename_i e u hu
      obtain ⟨-, rfl⟩ := Prod.mk.inj h
      exact atomic_apply time c s e u hu

/-- a statement with a failed outcome has run, on the store that the statements before it leave -/
theorem runStatements_of_failed {s : Store} {time : Nat} {policy : ErrorPolicy} {before after : List PreparedStatement}
    {x : PreparedStatement} {error : StoreError}
    (h : (runStatements policy time false s (before ++ x :: after)).1[before.length]?.map (·.status) =
      some (.failed error)) :
    (runStatements policy time false s (before ++ [x])).2 = (runStatements policy time false s before).2 := by
  have hl : (runStatements policy time false s before).1.length = before.length := length_runStatements ..
  rw [runStatements_append] at h ⊢
  simp only at h ⊢
  rw [List.getElem?_append_right (Nat.le_of_eq hl), hl, Nat.sub_self] at h
  cases hs : stops policy (runStatements policy time false s before).1 with
  | true => rw [hs, runStatements_true] at h; simp at h
  | false =>
    rw [hs, runStatements_cons] at h
    simp only [List.getElem?_cons_zero, Option.map_some, Option.some.injEq] at h
    rw [runStatements_cons]
    exact applyStatement_of_failed (Prod.ext h rfl)

end Store

/-! ## Actions -/

namespace Engine

theorem atomic_restore (time : Nat) (id : String) : Atomic (restore time id) :=
  atomic_look_bind fun _ => (certain_exchange _).atomic.onStore

theorem atomic_deleteSavepoint (id : String) : Atomic (deleteSavepoint id) := by
  refine atomic_look_bind fun removed => ?_
  cases removed with
  | some r => exact ((certain_change _).bind fun _ => certain_pure r.1.info).atomic
  | none => exact atomic_fail _

theorem atomic_attempt (time : Nat) (a : Action) : Atomic (attempt time a) := by
  cases a with
  | set k raw => exact (Store.atomic_set time k raw).onStore.map _
  | setAs k v => exact (Store.atomic_setAs time k v).onStore.map _
  | setList k items => exact (Store.atomic_setList time k items).onStore.map _
  | setSet k items => exact (Store.atomic_setSet time k items).onStore.map _
  | clear k => exact (Store.atomic_clear time k).onStore.map _
  | clearWhere p => exact (certain_exchange _).atomic.onStore.map _
  | clearScope scope => exact (Store.atomic_clearScope time scope).onStore.map _
  | appendMap entries policy => exact (Store.atomic_appendMap time entries policy).onStore.map _
  | importRaw entries policy => exact (Store.atomic_importRaw time entries policy).onStore.map _
  | increment k amount => exact (Store.atomic_transform time .increment k amount).onStore.map _
  | decrement k amount => exact (Store.atomic_decrement time k amount).onStore.map _
  | listAppend k item => exact (Store.atomic_listAppend time k item).onStore.map _
  | setAppend k item => exact (Store.atomic_setAppend time k item).onStore.map _
  | subscribe filter listener => exact (certain_exchange _).atomic.onStore.map _
  | unsubscribe handle => exact (certain_exchange _).atomic.onStore.map _
  | historyFor k => exact (atomic_look _).onStore.map _
  | save options => exact (certain_exchange _).atomic.map _
  | restore id => exact (atomic_restore time id).map _
  | deleteSavepoint id => exact (atomic_deleteSavepoint id).map _
  | diffSavepoint id => exact (atomic_look _).map _
  | runScript script policy => exact (certain_exchange _).atomic.map _
  | execute script policy => exact (certain_exchange _).atomic.onStore.map _

end Engine

/-! ## Main result -/

/-- **Failures change nothing.** An action that ends with an error leaves the engine as it was: mapping, history,
savepoints, subscriptions, calls of listeners, and the source of later changes. The same for a statement of a script
whose outcome is a failure: the store after the statements up to it is the store after those before it. -/
theorem failure_changes_nothing :
    (∀ (e e' : Engine) (time : Nat) (a : Engine.Action) (error : StoreError),
      e.perform time a = (.error error, e') → e' = e) ∧
    ∀ (s : Store) (time : Nat) (policy : ErrorPolicy) (before after : List PreparedStatement) (x : PreparedStatement)
      (error : StoreError),
      (Store.runStatements policy time false s (before ++ x :: after)).1[before.length]?.map (·.status) =
        some (.failed error) →
      (Store.runStatements policy time false s (before ++ [x])).2 =
        (Store.runStatements policy time false s before).2 :=
  ⟨fun e e' time a error h => Engine.atomic_attempt time a e error e' h,
    fun _ _ _ _ _ _ _ h => Store.runStatements_of_failed h⟩

/-- a store with the names `a` of one scope, in which the counter `env:a` is at its end -/
def fullCounter : Store where
  config := {}
  keys := ⟨.ofList ["env"], ⟨"a", .literal ['a']⟩⟩
  data := (∅ : Mapping).insert ⟨"env", "a"⟩ "9223372036854775807"

/-- a merge that fails at its second key while it acts as the system, and a counter that overflows in a script -/
theorem failed_merge_and_overflow_change_nothing :
    let e : Engine := ⟨fullCounter, { policy := {} }, ⟨{}, fullCounter.keys, ∅⟩⟩
    let increment : PreparedStatement := ⟨0, "inc env:a 1", .ok ⟨.inc, ⟨"env", "a"⟩, some (.number (.int 1))⟩⟩
    e.perform 0 (.importRaw [("env:a", "1"), ("prod:a", "2")] .overwrite) =
        (.error (.key (.unknownScope "prod")), e) ∧
      (Store.runStatements .skipAndContinue 0 false fullCounter ([] ++ [increment])).2 =
        (Store.runStatements .skipAndContinue 0 false fullCounter []).2 := by
  intro e increment
  constructor
  · have hm : (Store.importRaw 0 [("env:a", "1"), ("prod:a", "2")] .overwrite fullCounter).1 =
        .error (.key (.unknownScope "prod")) := by decide +kernel
    have hp : e.perform 0 (.importRaw [("env:a", "1"), ("prod:a", "2")] .overwrite) =
        (.error (.key (.unknownScope "prod")), { e with store := _ }) :=
      map_eq_error.2 (Engine.onStore_eq.2 ⟨_, Prod.ext hm rfl, rfl⟩)
    rw [hp, failure_changes_nothing.1 e _ 0 _ _ hp]
  · have ho : (Store.runStatements .skipAndContinue 0 false fullCounter ([] ++ [increment])).1[0]?.map (·.status) =
        some (.failed (.coercion (.overflow "9223372036854775807" "1"))) := by decide +kernel
    exact failure_changes_nothing.2 fullCounter 0 .skipAndContinue [] [] increment _ ho

end ScopedStore
