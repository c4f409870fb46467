/-
Operations on other keys.

`Store.Spares k x s` says that the computation leaves the value of `k` as it is in `s`. An operation does so when its
argument does not stand for `k`; a merge, when none of its entries writes the text of `k`; a script, when none of its
commands is about `k`; and going back to a savepoint, when the value there is the present one.

Main result, `getElem?_perform_of_spares`: an action that spares a key does not change its value.
-/
import ScopedStore.Proofs.KeyValidity
import ScopedStore.Proofs.Locality

namespace ScopedStore

open Attempt

namespace Store

variable {s t : Store} {k : Key} {time : Nat} {α β : Type}

/-- the computation does not change the value of the key -/
def Spares (k : Key) (x : Attempt Store α) (s : Store) : Prop := (x s).2.data[k]? = s.data[k]?

/-- changes of other keys do not change this one -/
theorem Tracks.getElem?_of_names (h : Tracks (Entry.Names (· ≠ k)) s t) : t.data[k]? = s.data[k]? := by
  obtain ⟨log, hl, hlog⟩ := h
  rw [hl.accounts.data]
  exact Mapping.getElem?_replay_of_untouched (fun x hx hk => hlog x hx k hk rfl) s.data

/-! ## Operations -/

theorem Spares.map {x : Attempt Store α} (hx : Spares k x s) (f : α → β) : Spares k (f <$> x) s := by
  unfold Spares
  rw [map_state]
  exact hx

/-- to look at the store changes nothing -/
theorem spares_look_bind {g : Store → Except StoreError α} {f : α → Attempt Store β}
    (h : ∀ a, g s = .ok a → Spares k (f a) s) : Spares k (look g >>= f) s := by
  unfold Spares
  cases hg : g s with
  | error e => rw [look_bind_of_error hg]
  | ok a =>
    rw [look_bind_of_ok hg]
    exact h a hg

theorem resolve_key_ne {k' : Key} (h : k' ≠ k) : s.resolve (.key k') ≠ .ok k :=
  fun hr => h (resolve_key_eq_ok hr).symm

section Arguments

variable {ref : KeyRef} (h : s.resolve ref ≠ .ok k)
include h

theorem spares_revise (operation : Operation) (f : Store → Key → Except StoreError String) :
    Spares k (revise time operation ref f) s := by
  refine Tracks.getElem?_of_names (tracks_revise fun k' raw hk _ k'' he => ?_)
  obtain rfl : k' = k'' := Option.some.inj he
  rintro rfl
  exact h hk

theorem spares_clear : Spares k (clear time ref) s := by
  refine Tracks.getElem?_of_names (tracks_clear fun k' prior hk k'' he => ?_)
  obtain rfl : k' = k'' := Option.some.inj he
  rintro rfl
  exact h hk

theorem spares_set (raw : String) : Spares k (set time ref raw) s := (spares_revise h .set _).map fun _ => ()

/-- a key that gets what an encoder makes is another one -/
theorem spares_setEncoded (encode : Store → Except StoreError String) :
    Spares k (do
      let k ← look (·.resolve ref)
      let raw ← look encode
      set time (.key k) raw) s := by
  refine spares_look_bind fun k' hk => spares_look_bind fun raw _ => spares_set (resolve_key_ne ?_) raw
  rintro rfl
  exact h hk

theorem spares_decrement (amount : Number) : Spares k (decrement time ref amount) s := by
  unfold decrement
  cases amount.neg? with
  | some delta => exact spares_revise h .decrement _
  | none => rfl

end Arguments

theorem spares_clearWhere {p : Key → Bool} (h : ¬p k) : Spares k (exchange (·.clearWhere time p)) s := by
  refine Tracks.getElem?_of_names (tracks_removeAll_of_forall (fun k' hk => ?_) s time)
  rintro rfl
  exact h (List.mem_filter.1 hk).2

theorem spares_clearScope {scope : String} (h : scope ≠ k.scope) : Spares k (clearScope time scope) s :=
  spares_look_bind fun _ _ => spares_clearWhere fun hk => h (of_decide_eq_true hk).symm

theorem spares_appendMap {entries : List (String × String)} (h : ∀ x ∈ entries, x.1 ≠ k.text)
    (policy : ConflictPolicy) : Spares k (appendMap time entries policy) s := by
  unfold Spares
  cases hp : s.planMerge policy ∅ entries with
  | error e => rw [appendMap_of_unplanned hp]
  | ok p =>
    rw [appendMap_of_planned hp]
    refine Tracks.getElem?_of_names (tracks_writeAll_of_forall (fun x hx => ?_) s time)
    rintro rfl
    exact h _ (mem_of_planMerge hp x hx).2 rfl

end Store

/-! ## Actions -/

namespace Engine

open Store

/-- the action is about other keys, or leaves this one with the value that it has -/
def Action.Spares (k : Key) (e : Engine) : Action → Prop
  | .set ref _ | .setAs ref _ | .setList ref _ | .setSet ref _ | .clear ref => e.store.resolve ref ≠ .ok k
  | .increment ref _ | .decrement ref _ | .listAppend ref _ | .setAppend ref _ => e.store.resolve ref ≠ .ok k
  | .clearWhere p => ¬p k
  | .clearScope scope => scope ≠ k.scope
  | .appendMap entries _ | .importRaw entries _ => ∀ x ∈ entries, x.1 ≠ k.text
  | .restore id => ∀ found, e.savepoints.get? id = some found → found.snapshot[k]? = e.store.data[k]?
  | .runScript script _ => k ∉ (e.prepare script).named
  | .execute script _ => k ∉ script.named
  | .subscribe _ _ | .unsubscribe _ | .historyFor _ | .save _ | .deleteSavepoint _ | .diffSavepoint _ => True

variable {e : Engine} {k : Key} {time : Nat} {a : Action}

theorem getElem?_perform_onStore {α : Type} {x : Attempt Store α} {f : α → Answer}
    (ha : attempt time a = f <$> onStore x) (hx : Store.Spares k x e.store) :
    (e.perform time a).2.store.data[k]? = e.store.data[k]? := by
  rw [perform_onStore ha]
  exact hx

/-- **A key that is spared keeps its value.** -/
theorem getElem?_perform_of_spares (h : a.Spares k e) (time : Nat) :
    (e.perform time a).2.store.data[k]? = e.store.data[k]? := by
  cases a with
  | set ref raw => exact getElem?_perform_onStore rfl (spares_set h raw)
  | setAs ref v => exact getElem?_perform_onStore rfl (spares_look_bind fun raw _ => spares_set h raw)
  | setList ref items => exact getElem?_perform_onStore rfl (spares_setEncoded h _)
  | setSet ref items => exact getElem?_perform_onStore rfl (spares_setEncoded h _)
  | clear ref => exact getElem?_perform_onStore rfl (spares_clear h)
  | clearWhere p => exact getElem?_perform_onStore rfl (spares_clearWhere h)
  | clearScope scope => exact getElem?_perform_onStore rfl (spares_clearScope h)
  | appendMap entries policy => exact getElem?_perform_onStore rfl (spares_appendMap h policy)
  | importRaw entries policy =>
    exact getElem?_perform_onStore rfl (spares_appendMap (s := { e.store with source := .system }) h policy)
  | increment ref amount => exact getElem?_perform_onStore rfl (spares_revise h .increment _)
  | decrement ref amount => exact getElem?_perform_onStore rfl (spares_decrement h amount)
  | listAppend ref item => exact getElem?_perform_onStore rfl (spares_revise h .listAppend _)
  | setAppend ref item => exact getElem?_perform_onStore rfl (spares_revise h .setAppend _)
  | subscribe filter listener => rfl
  | unsubscribe handle => rfl
  | historyFor ref => exact getElem?_perform_onStore rfl rfl
  | save options => rfl
  | restore id =>
    cases hf : e.savepoints.get? id with
    | none => rw [perform_restore_of_unknown hf]
    | some found =>
      rw [perform_restore hf]
      exact h found hf
  | deleteSavepoint id =>
    cases hr : e.savepoints.remove id with
    | none => rw [perform_deleteSavepoint_of_unknown hr]
    | some removed => rw [perform_deleteSavepoint hr]
  | diffSavepoint id =>
    have he : (e.perform time (.diffSavepoint id)).2 = e := map_state _ _ e
    rw [he]
  | runScript script policy =>
    change (e.runScriptWith time script policy).2.store.data[k]? = _
    rw [store_runScriptWith]
    exact getElem?_execute_of_unnamed h e.store time policy
  | execute script policy => exact getElem?_execute_of_unnamed h e.store time policy

end Engine
end ScopedStore
