/-
What operations do to a store, and actions to an engine.

`Tracks P s t` says that from `s` to `t` changes of keys are recorded, by entries that `P` holds of. `Logs` says of a
computation that it does nothing else, in the name of the store's source; it is closed under the ways in which operations
are put together.

Main result, `perform_effect`: an action records changes of keys, or adds or removes a listener, or restores, saves or
deletes a savepoint, or, as a script, makes a savepoint and then records changes. `Effect` says what each of these
leaves behind, and what the engine answers.
-/
import ScopedStore.Proofs.Trail
import ScopedStore.Engine

namespace ScopedStore

open Attempt

namespace Store

/-- from `s` to `t`, changes of keys are recorded, by entries that `P` holds of -/
def Tracks (P : Entry → Prop) (s t : Store) : Prop := ∃ log, Trail s log t ∧ ∀ x ∈ log, P x

namespace Tracks

variable {P : Entry → Prop} {s t u : Store}

theorem refl (P : Entry → Prop) (s : Store) : Tracks P s s := ⟨[], .nil s, by simp⟩

theorem trans (h : Tracks P s t) (h' : Tracks P t u) : Tracks P s u := by
  obtain ⟨l, hl, hs⟩ := h
  obtain ⟨l', hl', hs'⟩ := h'
  refine ⟨l ++ l', hl.append hl', fun x hx => ?_⟩
  rcases List.mem_append.1 hx with hx | hx
  · exact hs x hx
  · exact hs' x hx

theorem single {x : Entry} (h : Recorded s x t) (hx : P x) : Tracks P s t :=
  ⟨[x], .single h, fun _ hy => (List.mem_singleton.1 hy).symm ▸ hx⟩

theorem mono {Q : Entry → Prop} (h : Tracks P s t) (hq : ∀ x, P x → Q x) : Tracks Q s t :=
  h.elim fun log h => ⟨log, h.1, fun x hx => hq x (h.2 x hx)⟩

theorem frame (h : Tracks P s t) : Frame s t := h.elim fun _ h => h.1.frame

/-- the source before is put back, whatever it is -/
theorem asSource (previous : Source) (h : Tracks P s t) :
    Tracks P { s with source := previous } { t with source := previous } :=
  h.elim fun log h => ⟨log, h.1.asSource previous, h.2⟩

end Tracks

/-- changes are recorded that are all attributed to `source` -/
abbrev TracksAs (source : Source) (s t : Store) : Prop := Tracks (fun x => x.source = source) s t

/-- the computation records changes of keys under the source of the store, and does nothing else to it -/
def Logs {α : Type} (x : Attempt Store α) : Prop := ∀ s, TracksAs s.source s (x s).2

namespace Logs

variable {α β : Type} {x : Attempt Store α}

theorem pure (a : α) : Logs (pure a) := fun s => .refl _ s

theorem fail (e : StoreError) : Logs (fail e : Attempt Store α) := fun s => .refl _ s

theorem look (g : Store → Except StoreError α) : Logs (look g) := fun s => .refl _ s

theorem change {f : Store → Store} (h : ∀ s, TracksAs s.source s (f s)) : Logs (change f) := h

theorem exchange {f : Store → α × Store} (h : ∀ s, TracksAs s.source s (f s).2) : Logs (exchange f) := h

/-- what comes after a computation sees the same source -/
theorem bind {f : α → Attempt Store β} (hx : Logs x) (hf : ∀ a, Logs (f a)) : Logs (x >>= f) := by
  intro s
  have hs : TracksAs s.source s (x s).2 := hx s
  change TracksAs s.source s (Attempt.bind x f s).2
  unfold Attempt.bind
  rcases hr : x s with ⟨_ | a, t⟩ <;> rw [hr] at hs
  · exact hs
  · exact hs.trans (hs.frame.source ▸ hf a t)

theorem tracks_asSource (hx : Logs x) (source : Source) (s : Store) : TracksAs source s (asSource source x s).2 :=
  (hx { s with source }).asSource s.source

end Logs

/-! ## Single changes -/

theorem recorded_write (s : Store) (time : Nat) (operation : Operation) (k : Key) (raw : String) :
    Recorded s (s.history.entryOf ⟨s.source, time⟩ ⟨operation, some k, s.data[k]?, some raw⟩)
      (s.write time operation k raw) := .told rfl rfl rfl (.inr rfl)

theorem recorded_remove {s : Store} {k : Key} {prior : String} (h : s.data[k]? = some prior) (time : Nat) :
    Recorded s (s.history.entryOf ⟨s.source, time⟩ ⟨.clear, some k, some prior, none⟩) (s.remove time k prior) :=
  .told rfl rfl h.symm (.inl rfl)

theorem recorded_noteAbsent {s : Store} {k : Key} (h : s.data[k]? = none) (time : Nat) :
    Recorded s (s.history.entryOf ⟨s.source, time⟩ ⟨.clear, some k, none, none⟩) (s.noteAbsent time k) :=
  .noted rfl rfl h rfl rfl

/-! ## Loops -/

theorem tracks_removeAll (s : Store) (time : Nat) (ks : List Key) : TracksAs s.source s (s.removeAll time ks) := by
  induction ks generalizing s with
  | nil => exact .refl _ s
  | cons k ks ih =>
    unfold removeAll at ih ⊢
    rw [List.foldl_cons]
    split
    · rename_i prior h
      have hs : TracksAs s.source s (s.remove time k prior) := .single (recorded_remove h time) rfl
      exact hs.trans (ih (s.remove time k prior))
    · exact ih s

theorem tracks_writeAll (s : Store) (time : Nat) (plan : List (Key × String)) :
    TracksAs s.source s (s.writeAll time plan) := by
  induction plan generalizing s with
  | nil => exact .refl _ s
  | cons p plan ih =>
    have hs : TracksAs s.source s (s.write time .imported p.1 p.2) := .single (recorded_write s time .imported p.1 p.2) rfl
    exact hs.trans (ih (s.write time .imported p.1 p.2))

/-! ## Operations -/

/-- a clear is recorded with the value that the key had, or with none, or not at all -/
theorem tracks_clearKey {P : Entry → Prop} {s : Store} {time : Nat} {k : Key}
    (h : ∀ prior, P (s.history.entryOf ⟨s.source, time⟩ ⟨.clear, some k, prior, none⟩)) :
    Tracks P s (s.clearKey time k).2 := by
  unfold clearKey
  split
  · rename_i prior hk
    exact .single (recorded_remove hk time) (h (some prior))
  · rename_i hk
    dsimp only
    split
    · exact .single (recorded_noteAbsent hk time) (h none)
    · exact .refl P s

theorem clear_of_refused {s : Store} {k : KeyRef} {e : StoreError} (hk : s.resolve k = .error e) (time : Nat) :
    clear time k s = (.error e, s) := look_bind_of_error hk

theorem clear_of_accepted {s : Store} {k : KeyRef} {k' : Key} (hk : s.resolve k = .ok k') (time : Nat) :
    clear time k s = exchange (·.clearKey time k') s := look_bind_of_ok hk

theorem tracks_clear {P : Entry → Prop} {s : Store} {time : Nat} {k : KeyRef}
    (h : ∀ k' prior, s.resolve k = .ok k' → P (s.history.entryOf ⟨s.source, time⟩ ⟨.clear, some k', prior, none⟩)) :
    Tracks P s (clear time k s).2 := by
  cases hk : s.resolve k with
  | error e =>
    rw [clear_of_refused hk]
    exact .refl P s
  | ok k' =>
    rw [clear_of_accepted hk]
    exact tracks_clearKey fun prior => h k' prior hk

theorem revise_of_refused {s : Store} {k : KeyRef} {e : StoreError} (hk : s.resolve k = .error e) (time : Nat)
    (operation : Operation) (f : Store → Key → Except StoreError String) :
    revise time operation k f s = (.error e, s) := look_bind_of_error hk

/-- once the key is resolved, a revision works out a text and writes it -/
theorem revise_eq {s : Store} {k : KeyRef} {k' : Key} (hk : s.resolve k = .ok k') (time : Nat) (operation : Operation)
    (f : Store → Key → Except StoreError String) :
    revise time operation k f s =
      (look (f · k') >>= fun raw => change (·.write time operation k' raw) >>= fun _ => pure raw) s :=
  look_bind_of_ok hk

theorem revise_of_ok {s : Store} {k : KeyRef} {k' : Key} {f : Store → Key → Except StoreError String} {raw : String}
    (hk : s.resolve k = .ok k') (hf : f s k' = .ok raw) (time : Nat) (operation : Operation) :
    revise time operation k f s = (.ok raw, s.write time operation k' raw) :=
  (revise_eq hk time operation f).trans (look_bind_of_ok hf)

theorem revise_of_error {s : Store} {k : KeyRef} {k' : Key} {f : Store → Key → Except StoreError String}
    {e : StoreError} (hk : s.resolve k = .ok k') (hf : f s k' = .error e) (time : Nat) (operation : Operation) :
    revise time operation k f s = (.error e, s) :=
  (revise_eq hk time operation f).trans (look_bind_of_error hf)

/-- a revision of an accepted key fails just when no text can be worked out -/
theorem result_revise {s : Store} {k : KeyRef} {k' : Key} (hk : s.resolve k = .ok k') (time : Nat)
    (operation : Operation) (f : Store → Key → Except StoreError String) :
    (revise time operation k f s).1 = f s k' := by
  cases hf : f s k' with
  | ok raw => rw [revise_of_ok hk hf]
  | error e => rw [revise_of_error hk hf]

/-- a revision is recorded with the text that was worked out, unless there is none -/
theorem tracks_revise {P : Entry → Prop} {s : Store} {time : Nat} {operation : Operation} {k : KeyRef}
    {f : Store → Key → Except StoreError String}
    (h : ∀ k' raw, s.resolve k = .ok k' → f s k' = .ok raw →
      P (s.history.entryOf ⟨s.source, time⟩ ⟨operation, some k', s.data[k']?, some raw⟩)) :
    Tracks P s (revise time operation k f s).2 := by
  cases hk : s.resolve k with
  | error e =>
    rw [revise_of_refused hk]
    exact .refl P s
  | ok k' =>
    cases hf : f s k' with
    | error e =>
      rw [revise_of_error hk hf]
      exact .refl P s
    | ok raw =>
      rw [revise_of_ok hk hf]
      exact .single (recorded_write s time operation k' raw) (h k' raw hk hf)

theorem logs_revise (time : Nat) (operation : Operation) (k : KeyRef) (f : Store → Key → Except StoreError String) :
    Logs (revise time operation k f) := fun _ => tracks_revise fun _ _ _ _ => rfl

theorem logs_set (time : Nat) (k : KeyRef) (raw : String) : Logs (set time k raw) :=
  .bind (logs_revise time .set k _) fun _ => .pure ()

theorem logs_setAs (time : Nat) (k : KeyRef) (v : Scalar) : Logs (setAs time k v) :=
  .bind (.look _) fun raw => logs_set time k raw

theorem logs_setList (time : Nat) (k : KeyRef) (items : List String) : Logs (setList time k items) :=
  .bind (.look _) fun k => .bind (.look _) fun raw => logs_set time (.key k) raw

theorem logs_setSet (time : Nat) (k : KeyRef) (items : List String) : Logs (setSet time k items) :=
  .bind (.look _) fun k => .bind (.look _) fun raw => logs_set time (.key k) raw

theorem logs_clear (time : Nat) (k : KeyRef) : Logs (clear time k) := fun _ => tracks_clear fun _ _ _ => rfl

theorem logs_clearWhere (time : Nat) (p : Key → Bool) : Logs (exchange (·.clearWhere time p)) :=
  .exchange fun s => tracks_removeAll s time (s.data.keys.filter p)

theorem logs_clearScope (time : Nat) (scope : String) : Logs (clearScope time scope) :=
  .bind (.look _) fun _ => logs_clearWhere time _

theorem appendMap_of_unplanned {s : Store} {policy : ConflictPolicy} {entries : List (String × String)} {e : StoreError}
    (hp : s.planMerge policy ∅ entries = .error e) (time : Nat) : appendMap time entries policy s = (.error e, s) :=
  look_bind_of_error hp

theorem appendMap_of_planned {s : Store} {policy : ConflictPolicy} {entries : List (String × String)}
    {p : List (Key × String) × Nat} (hp : s.planMerge policy ∅ entries = .ok p) (time : Nat) :
    appendMap time entries policy s = (.ok ⟨p.1.length, p.2⟩, s.writeAll time p.1) := look_bind_of_ok hp

theorem logs_appendMap (time : Nat) (entries : List (String × String)) (policy : ConflictPolicy) :
    Logs (appendMap time entries policy) :=
  .bind (.look _) fun p => .bind (.change fun s => tracks_writeAll s time p.1) fun _ => .pure _

theorem logs_transform (time : Nat) (operation : Operation) (k : KeyRef) (delta : Number) :
    Logs (transform time operation k delta) := logs_revise time operation k _

theorem logs_decrement (time : Nat) (k : KeyRef) (amount : Number) : Logs (decrement time k amount) := by
  unfold decrement
  cases amount.neg? with
  | some delta => exact logs_transform time .decrement k delta
  | none => exact .fail _

/-! ## Scripts -/

theorem logs_apply (time : Nat) (c : Command) : Logs (apply time c) := by
  unfold apply
  simp only
  split
  · exact .bind (logs_clear time _) fun _ => .pure none
  · exact .bind (logs_set time _ _) fun _ => .pure _
  · exact .bind (logs_transform time .increment _ _) fun raw => .pure (some raw)
  · exact .bind (logs_decrement time _ _) fun raw => .pure (some raw)
  · exact .bind (logs_revise time .listAppend _ _) fun raw => .pure (some raw)
  · exact .bind (logs_revise time .setAppend _ _) fun raw => .pure (some raw)
  · exact .fail _

theorem applyStatement_of_error {statement : PreparedStatement} {e : StoreError} (h : statement.command = .error e)
    (s : Store) (time : Nat) : s.applyStatement time statement = (.failed e, s) := by rw [applyStatement, h]

/-- a statement does to the store what its command does -/
theorem state_applyStatement {statement : PreparedStatement} {c : Command} (h : statement.command = .ok c) (s : Store)
    (time : Nat) : (s.applyStatement time statement).2 = (apply time c s).2 := by
  simp only [applyStatement, h]
  rcases apply time c s with ⟨_ | value, t⟩ <;> rfl

theorem tracks_applyStatement (s : Store) (time : Nat) (statement : PreparedStatement) :
    TracksAs s.source s (s.applyStatement time statement).2 := by
  cases hc : statement.command with
  | error e =>
    rw [applyStatement_of_error hc]
    exact .refl _ s
  | ok c =>
    rw [state_applyStatement hc]
    exact logs_apply time c s

/-- what every statement keeps to, all of them together keep to; the store that a statement finds differs from the first
one only by what the statements before it have recorded -/
theorem tracks_runStatements {P : Entry → Prop} {s : Store} {time : Nat} {l : List PreparedStatement}
    (h : ∀ t, Frame s t → ∀ x ∈ l, Tracks P t (t.applyStatement time x).2) (policy : ErrorPolicy) (aborted : Bool) :
    Tracks P s (runStatements policy time aborted s l).2 := by
  induction l generalizing aborted s with
  | nil => cases aborted <;> exact .refl _ s
  | cons x l ih =>
    cases aborted with
    | true => exact ih (fun t ht y hy => h t ht y (List.mem_cons_of_mem x hy)) true
    | false =>
      have hx := h s (.refl s) x List.mem_cons_self
      exact hx.trans (ih (fun t ht y hy => h t (hx.frame.trans ht) y (List.mem_cons_of_mem x hy)) _)

/-- statements touch neither the configuration nor the source -/
theorem frame_runStatements (policy : ErrorPolicy) (time : Nat) (s : Store) (l : List PreparedStatement) :
    Frame s (runStatements policy time false s l).2 := by
  have h : Tracks (fun _ => True) s (runStatements policy time false s l).2 :=
    tracks_runStatements (fun t _ x _ => (tracks_applyStatement t time x).mono fun _ _ => trivial) policy false
  exact h.frame

/-- a script works as `query`, and puts the source back -/
theorem tracks_execute {P : Entry → Prop} {s : Store} {time : Nat} {script : PreparedScript}
    (h : ∀ t, Frame { s with source := .query } t → ∀ x ∈ script.statements, Tracks P t (t.applyStatement time x).2)
    (policy : ErrorPolicy) : Tracks P s (s.execute time script policy).2 :=
  (tracks_runStatements h policy false).asSource s.source

theorem tracksAs_execute (s : Store) (time : Nat) (script : PreparedScript) (policy : ErrorPolicy) :
    TracksAs .query s (s.execute time script policy).2 :=
  tracks_execute (fun t ht x _ => (show t.source = .query from ht.source) ▸ tracks_applyStatement t time x) policy

end Store

/-! ## Actions -/

namespace Engine

open Store

/-- to whom the changes of an action are attributed when it starts as the user -/
def Action.source : Action → Source
  | .importRaw _ _ => .system
  | .runScript _ _ => .query
  | .execute _ _ => .query
  | _ => .user

/-- what an action does to an engine, and what it answers -/
inductive Effect (e : Engine) (time : Nat) : Action → Except StoreError Answer → Engine → Prop where
  /-- changes of keys are recorded, or nothing happens -/
  | recorded {a : Action} {r : Except StoreError Answer} {store : Store} (h : TracksAs a.source e.store store) :
      Effect e time a r { e with store }
  | subscribed (filter : EventFilter) (listener : Listener) :
      Effect e time (.subscribe filter listener) (.ok (.count (e.store.subscribe filter listener).1))
        { e with store := (e.store.subscribe filter listener).2 }
  | unsubscribed (handle : Nat) :
      Effect e time (.unsubscribe handle) (.ok (.known (e.store.unsubscribe handle).1))
        { e with store := (e.store.unsubscribe handle).2 }
  | restored {id : String} {found : Savepoint} (live : e.savepoints.get? id = some found) (n : Nat) :
      Effect e time (.restore id) (.ok (.count n))
        { e with store := (e.store.restoreMapping time found.snapshot).2 }
  | saved (options : SaveOptions) :
      Effect e time (.save options) (.ok (.text (e.saveWith time options).1)) (e.saveWith time options).2
  | deleted {id : String} {found : Savepoint} {savepoints : Savepoints}
      (removed : e.savepoints.remove id = some (found, savepoints)) :
      Effect e time (.deleteSavepoint id) (.ok (.info found.info)) { e with savepoints }
  /-- a savepoint is made, or none, and then changes of keys are recorded -/
  | ran {script : String} {policy : ErrorPolicy} {report : ScriptReport} {savepoints : Savepoints} {store : Store}
      (made : (report.autoSavepoint, savepoints) = (none, e.savepoints) ∨
        (report.autoSavepoint, savepoints) = e.savepoints.createAutomatic e.store.data time)
      (h : TracksAs .query e.store store) :
      Effect e time (.runScript script policy) (.ok (.report report)) { e with savepoints, store }

/-- an action that only consists of a computation on the store gives its result, and changes the store alone -/
theorem perform_onStore {α : Type} {x : Attempt Store α} {f : α → Answer} {time : Nat} {a : Action}
    (ha : attempt time a = f <$> onStore x) (e : Engine) :
    e.perform time a = ((x e.store).1.map f, { e with store := (x e.store).2 }) := by
  have hon : onStore x e = ((x e.store).1, { e with store := (x e.store).2 }) := onStore_eq.2 ⟨_, rfl, rfl⟩
  refine Prod.ext ?_ ?_
  · rw [perform, ha, map_result, hon]
  · rw [perform, ha, map_state, hon]

/-- what a computation on the store records, an action that only consists of it records -/
theorem effect_onStore {α : Type} {x : Attempt Store α} {f : α → Answer} {e : Engine} {time : Nat} {a : Action}
    (ha : attempt time a = f <$> onStore x) (h : TracksAs a.source e.store (x e.store).2) :
    Effect e time a (e.perform time a).1 (e.perform time a).2 := by
  rw [perform_onStore ha]
  exact .recorded h

theorem perform_restore {e : Engine} {id : String} {found : Savepoint} (h : e.savepoints.get? id = some found)
    (time : Nat) :
    e.perform time (.restore id) = (.ok (.count (e.store.restoreMapping time found.snapshot).1),
      { e with store := (e.store.restoreMapping time found.snapshot).2 }) := by
  refine map_eq_ok.2 ⟨_, bind_eq_ok.2 ⟨found, e, look_eq.2 ⟨by rw [savepoint, h], rfl⟩, ?_⟩, rfl⟩
  exact onStore_eq.2 ⟨_, exchange_eq.2 ⟨rfl, rfl⟩, rfl⟩

theorem perform_restore_of_unknown {e : Engine} {id : String} (h : e.savepoints.get? id = none) (time : Nat) :
    e.perform time (.restore id) = (.error (.unknownSavepoint id), e) :=
  map_eq_error.2 (bind_eq_error.2 (.inl (look_eq.2 ⟨by rw [savepoint, h], rfl⟩)))

theorem perform_deleteSavepoint {e : Engine} {id : String} {found : Savepoint} {savepoints : Savepoints}
    (h : e.savepoints.remove id = some (found, savepoints)) (time : Nat) :
    e.perform time (.deleteSavepoint id) = (.ok (.info found.info), { e with savepoints }) := by
  refine map_eq_ok.2 ⟨_, bind_eq_ok.2 ⟨some (found, savepoints), e, look_eq.2 ⟨by rw [h], rfl⟩, ?_⟩, rfl⟩
  exact bind_eq_ok.2 ⟨(), _, change_eq.2 ⟨rfl, rfl⟩, pure_eq.2 ⟨rfl, rfl⟩⟩

theorem perform_deleteSavepoint_of_unknown {e : Engine} {id : String} (h : e.savepoints.remove id = none)
    (time : Nat) : e.perform time (.deleteSavepoint id) = (.error (.unknownSavepoint id), e) := by
  refine map_eq_error.2 (bind_eq_error.2 (.inr ⟨none, e, look_eq.2 ⟨by rw [h], rfl⟩, ?_⟩))
  exact fail_eq.2 ⟨rfl, rfl⟩

theorem effect_restore (e : Engine) (time : Nat) (id : String) :
    Effect e time (.restore id) (e.perform time (.restore id)).1 (e.perform time (.restore id)).2 := by
  cases hf : e.savepoints.get? id with
  | none =>
    rw [perform_restore_of_unknown hf]
    exact .recorded (.refl _ _)
  | some found =>
    rw [perform_restore hf]
    exact .restored hf _

theorem effect_deleteSavepoint (e : Engine) (time : Nat) (id : String) :
    Effect e time (.deleteSavepoint id) (e.perform time (.deleteSavepoint id)).1
      (e.perform time (.deleteSavepoint id)).2 := by
  cases hr : e.savepoints.remove id with
  | none =>
    rw [perform_deleteSavepoint_of_unknown hr]
    exact .recorded (.refl _ _)
  | some removed =>
    rw [perform_deleteSavepoint hr]
    exact .deleted hr

theorem effect_runScript (e : Engine) (time : Nat) (script : String) (policy : ErrorPolicy) :
    Effect e time (.runScript script policy) (e.perform time (.runScript script policy)).1
      (e.perform time (.runScript script policy)).2 := by
  change Effect e time _ (.ok (.report (e.runScriptWith time script policy).1)) (e.runScriptWith time script policy).2
  unfold runScriptWith autoSavepoint
  simp only
  have hs := tracksAs_execute e.store time (e.prepare script) policy
  split_ifs
  · exact .ran (.inl rfl) hs
  · exact .ran (.inl rfl) hs
  · exact .ran (.inr rfl) hs

/-- **Actions do nothing else.** -/
theorem perform_effect {e : Engine} (hu : e.store.source = .user) (time : Nat) (a : Action) :
    Effect e time a (e.perform time a).1 (e.perform time a).2 := by
  have logged {α : Type} {x : Attempt Store α} (h : Logs x) : TracksAs .user e.store (x e.store).2 := hu ▸ h e.store
  cases a with
  | set k raw => exact effect_onStore rfl (logged (logs_set time k raw))
  | setAs k v => exact effect_onStore rfl (logged (logs_setAs time k v))
  | setList k items => exact effect_onStore rfl (logged (logs_setList time k items))
  | setSet k items => exact effect_onStore rfl (logged (logs_setSet time k items))
  | clear k => exact effect_onStore rfl (logged (logs_clear time k))
  | clearWhere p => exact effect_onStore rfl (logged (logs_clearWhere time p))
  | clearScope scope => exact effect_onStore rfl (logged (logs_clearScope time scope))
  | appendMap entries policy => exact effect_onStore rfl (logged (logs_appendMap time entries policy))
  | importRaw entries policy =>
    exact effect_onStore rfl ((logs_appendMap time entries policy).tracks_asSource .system e.store)
  | increment k amount => exact effect_onStore rfl (logged (logs_transform time .increment k amount))
  | decrement k amount => exact effect_onStore rfl (logged (logs_decrement time k amount))
  | listAppend k item => exact effect_onStore rfl (logged (logs_revise time .listAppend k _))
  | setAppend k item => exact effect_onStore rfl (logged (logs_revise time .setAppend k _))
  | subscribe filter listener => exact .subscribed filter listener
  | unsubscribe handle => exact .unsubscribed handle
  | historyFor k => exact effect_onStore rfl (logged (.look _))
  | save options => exact .saved options
  | restore id => exact effect_restore e time id
  | deleteSavepoint id => exact effect_deleteSavepoint e time id
  | diffSavepoint id =>
    have he : (e.perform time (.diffSavepoint id)).2 = e := map_state _ _ e
    rw [he]
    exact .recorded (.refl _ _)
  | runScript script policy => exact effect_runScript e time script policy
  | execute script policy => exact effect_onStore rfl (tracksAs_execute e.store time script policy)

end Engine
end ScopedStore
