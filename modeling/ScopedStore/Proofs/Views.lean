/-
What engines do depends neither on clocks nor on listeners.

A `View` looks at times through a clock and puts other listeners in the place of those on the bus. What is seen of an engine
is all the rest of it, unchanged. A computation is `Blind` when what is seen before it decides what is seen after it: then
the view can be taken before it as well as after it. This is closed under the ways in which operations are put together.
`Engine.perform_seen`: every action is blind, and its answer is the same up to the times that it tells. So nothing reads a
time back, be it the action's own or that of an earlier entry.
-/
import ScopedStore.Proofs.Effect
import ScopedStore.Proofs.Mirror

namespace ScopedStore

/-- how times are seen, and which listeners are seen in the place of others -/
structure View where
  clock : Nat → Nat
  hear : Listener → Listener

variable {v : View}

/-! ## Times -/

/-- the entry with its time as a clock shows it -/
def Entry.clocked (clock : Nat → Nat) (x : Entry) : Entry := { x with time := clock x.time }

/-- what is known of a savepoint, with its time as a clock shows it -/
def SavepointInfo.clocked (clock : Nat → Nat) (x : SavepointInfo) : SavepointInfo := { x with time := clock x.time }

def Savepoint.clocked (clock : Nat → Nat) (x : Savepoint) : Savepoint := { x with info := x.info.clocked clock }

namespace History

/-- the history with the times of its entries as a clock shows them -/
def clocked (clock : Nat → Nat) (h : History) : History := { h with newest := h.newest.map (Entry.clocked clock) }

theorem clocked_append (clock : Nat → Nat) (h : History) (o : Origin) (c : Change) :
    (h.append o c).clocked clock = (h.clocked clock).append ⟨o.source, clock o.time⟩ c := by
  have hkeep : ∀ l : List Entry, (keep h.cap l).map (Entry.clocked clock) = keep h.cap (l.map (Entry.clocked clock)) := by
    intro l
    cases h.cap with
    | none => rfl
    | some n => exact List.map_take
  simp only [append, push, clocked, hkeep, List.map_cons]
  rfl

theorem clocked_forKey (clock : Nat → Nat) (h : History) (k : Key) :
    (h.clocked clock).forKey k = (h.forKey k).map (Entry.clocked clock) := by
  unfold forKey entries clocked
  rw [← List.map_reverse, List.filter_map]
  rfl

end History

namespace Savepoints

/-- the savepoints with their times as a clock shows them -/
def clocked (clock : Nat → Nat) (s : Savepoints) : Savepoints := { s with live := s.live.map (Savepoint.clocked clock) }

variable {clock : Nat → Nat} {s : Savepoints}

theorem clocked_push (snapshot : Mapping) (kind : SavepointKind) (source : Source) (label : Option String)
    (metadata : Std.ExtTreeMap String String) (time : Nat) :
    (s.clocked clock).push snapshot kind source label metadata (clock time) =
      ((s.push snapshot kind source label metadata time).1,
        (s.push snapshot kind source label metadata time).2.clocked clock) := by
  simp only [push, clocked, List.map_append, List.map_singleton]
  rfl

theorem countP_clocked (live : List Savepoint) :
    (live.map (Savepoint.clocked clock)).countP isAutomatic = live.countP isAutomatic := by
  rw [List.countP_map]
  rfl

theorem evictTo_clocked (max : Nat) (live : List Savepoint) :
    evictTo max (live.map (Savepoint.clocked clock)) = (evictTo max live).map (Savepoint.clocked clock) := by
  unfold evictTo
  rw [List.length_map]
  -- the turns are as many as there are savepoints at first, and each may take one away
  generalize List.range live.length = turns
  induction turns generalizing live with
  | nil => rfl
  | cons turn turns ih =>
    have herase : (live.map (Savepoint.clocked clock)).eraseP isAutomatic =
        (live.eraseP isAutomatic).map (Savepoint.clocked clock) := List.eraseP_map ..
    rw [List.foldl_cons, List.foldl_cons, countP_clocked, herase]
    split_ifs
    · exact ih _
    · exact ih live

theorem createAutomatic_clocked (snapshot : Mapping) (time : Nat) :
    (s.clocked clock).createAutomatic snapshot (clock time) =
      ((s.createAutomatic snapshot time).1, (s.createAutomatic snapshot time).2.clocked clock) := by
  have hcount : (s.clocked clock).automaticCount = s.automaticCount := countP_clocked s.live
  have hpolicy : (s.clocked clock).policy = s.policy := rfl
  have hlive : evictTo s.policy.maxCount (s.clocked clock).live =
      (evictTo s.policy.maxCount s.live).map (Savepoint.clocked clock) := evictTo_clocked ..
  unfold createAutomatic
  rw [hcount, hpolicy, hlive]
  split_ifs
  · rfl
  · rfl
  · exact congrArg (fun r : String × Savepoints => (some r.1, r.2))
      (clocked_push (s := { s with live := evictTo s.policy.maxCount s.live }) ..)

theorem get?_clocked (id : String) : (s.clocked clock).get? id = (s.get? id).map (Savepoint.clocked clock) :=
  List.find?_map ..

theorem remove_clocked (id : String) : (s.clocked clock).remove id =
    (s.remove id).map fun x => (x.1.clocked clock, x.2.clocked clock) := by
  have herase : (s.clocked clock).live.eraseP (·.info.id = id) =
      (s.live.eraseP (·.info.id = id)).map (Savepoint.clocked clock) := List.eraseP_map ..
  unfold remove
  rw [get?_clocked, herase, Option.map_map, Option.map_map]
  rfl

end Savepoints

/-! ## Listeners -/

/-- the subscription with another listener in the place of its own -/
def Subscription.heard (hear : Listener → Listener) (s : Subscription) : Subscription :=
  { s with listener := hear s.listener }

namespace EventBus

/-- the bus with other listeners in the place of its own -/
def heard (hear : Listener → Listener) (b : EventBus) : EventBus :=
  { b with subscriptions := b.subscriptions.map (Subscription.heard hear) }

/-- **A dispatch does the same to the bus, whatever the listeners do.** -/
theorem heard_dispatch (hear : Listener → Listener) (b : EventBus) (x : Event) :
    ((b.heard hear).dispatch x).2 = (b.dispatch x).2.heard hear := by
  unfold dispatch
  rw [deliverAll_snd, deliverAll_snd, heard, List.filter_map, List.map_map]
  rfl

theorem heard_unsubscribe (hear : Listener → Listener) (b : EventBus) (handle : Nat) :
    (b.heard hear).unsubscribe handle = ((b.unsubscribe handle).1, (b.unsubscribe handle).2.heard hear) := by
  simp only [unsubscribe, heard, List.any_map, List.filter_map]
  rfl

end EventBus

/-! ## Stores -/

namespace Store

/-- what is seen of the store -/
def seen (v : View) (s : Store) : Store := { s with history := s.history.clocked v.clock, bus := s.bus.heard v.hear }

variable {s : Store}

theorem seen_record (time : Nat) (operation : Operation) (k : Key) (prior new : Option String) :
    (s.seen v).record (v.clock time) operation k prior new = (s.record time operation k prior new).seen v := by
  simp only [record, seen, History.clocked_append, EventBus.heard_dispatch]

theorem seen_write (time : Nat) (operation : Operation) (k : Key) (raw : String) :
    (s.seen v).write (v.clock time) operation k raw = (s.write time operation k raw).seen v :=
  seen_record (s := { s with data := s.data.insert k raw }) ..

theorem seen_remove (time : Nat) (k : Key) (prior : String) :
    (s.seen v).remove (v.clock time) k prior = (s.remove time k prior).seen v :=
  seen_record (s := { s with data := s.data.erase k }) ..

theorem seen_clearKey (time : Nat) (k : Key) :
    (s.seen v).clearKey (v.clock time) k = ((s.clearKey time k).1, (s.clearKey time k).2.seen v) := by
  unfold clearKey
  have hdata : (s.seen v).data[k]? = s.data[k]? := rfl
  have hconfig : (s.seen v).config = s.config := rfl
  rw [hdata, hconfig]
  cases s.data[k]? with
  | some prior => exact congrArg (some prior, ·) (seen_remove time k prior)
  | none =>
    split_ifs
    · simp only [noteAbsent, seen, History.clocked_append]
    · rfl

theorem seen_removeAll (time : Nat) (ks : List Key) :
    (s.seen v).removeAll (v.clock time) ks = (s.removeAll time ks).seen v := by
  induction ks generalizing s with
  | nil => rfl
  | cons k ks ih =>
    unfold removeAll at ih ⊢
    rw [List.foldl_cons, List.foldl_cons]
    have hdata : (s.seen v).data[k]? = s.data[k]? := rfl
    rw [hdata]
    cases s.data[k]? with
    | some prior =>
      simp only
      rw [seen_remove]
      exact ih
    | none => exact ih

theorem seen_writeAll (time : Nat) (plan : List (Key × String)) :
    (s.seen v).writeAll (v.clock time) plan = (s.writeAll time plan).seen v := by
  induction plan generalizing s with
  | nil => rfl
  | cons p plan ih =>
    unfold writeAll at ih ⊢
    rw [List.foldl_cons, List.foldl_cons]
    simp only
    rw [seen_write]
    exact ih

theorem seen_restoreMapping (time : Nat) (mapping : Mapping) :
    (s.seen v).restoreMapping (v.clock time) mapping =
      ((s.restoreMapping time mapping).1, (s.restoreMapping time mapping).2.seen v) := by
  -- what is announced reaches the bus alone, one change after the other
  have hannounce : ∀ (changes : List (Key × Option String)) (b : EventBus),
      changes.foldl (announce s.source) (b.heard v.hear) = (changes.foldl (announce s.source) b).heard v.hear := by
    intro changes
    induction changes with
    | nil => exact fun _ => rfl
    | cons change changes ih =>
      intro b
      rw [List.foldl_cons, List.foldl_cons, announce, EventBus.heard_dispatch]
      exact ih _
  simp only [restoreMapping, seen, History.clocked_append, hannounce]

/-- plans are made from the keys alone -/
theorem seen_planMerge (policy : ConflictPolicy) (planned : Std.ExtTreeSet Key) (entries : List (String × String)) :
    (s.seen v).planMerge policy planned entries = s.planMerge policy planned entries := by
  induction entries generalizing planned with
  | nil => rfl
  | cons x entries ih =>
    unfold planMerge
    simp only [ih]
    rfl

end Store

/-! ## Computations -/

namespace Attempt

variable {α β : Type}

/-- a question is answered and changes nothing -/
theorem map_look {σ : Type} (f : α → β) (g : σ → Except StoreError α) (s : σ) :
    (f <$> look g) s = ((g s).map f, s) := Prod.ext (map_result ..) (map_state ..)

/-- whether the view is taken before the computation or after it makes no difference -/
def Blind (v : View) (x : Nat → Attempt Store α) : Prop :=
  ∀ time s, x (v.clock time) (s.seen v) = ((x time s).1, (x time s).2.seen v)

theorem blind_pure (a : α) : Blind v fun _ => pure a := fun _ _ => rfl

theorem blind_fail (e : StoreError) : Blind v fun _ => (fail e : Attempt Store α) := fun _ _ => rfl

/-- what is read must not be a time or a listener -/
theorem blind_look {g : Store → Except StoreError α} (h : ∀ s, g (s.seen v) = g s) : Blind v fun _ => look g :=
  fun _ s => congrArg (·, s.seen v) (h s)

theorem blind_change {f : Nat → Store → Store} (h : ∀ time s, f (v.clock time) (s.seen v) = (f time s).seen v) :
    Blind v fun time => change (f time) := by
  intro time s
  simp only [change, h time s]

theorem blind_exchange {f : Nat → Store → α × Store}
    (h : ∀ time s, f (v.clock time) (s.seen v) = ((f time s).1, (f time s).2.seen v)) :
    Blind v fun time => exchange (f time) := by
  intro time s
  simp only [exchange, h time s]

theorem Blind.bind {x : Nat → Attempt Store α} {f : Nat → α → Attempt Store β} (hx : Blind v x)
    (hf : ∀ a, Blind v (f · a)) : Blind v fun time => x time >>= f time := by
  intro time s
  simp only [Bind.bind, Attempt.bind, hx time s]
  rcases x time s with ⟨_ | a, t⟩
  · rfl
  · exact hf a time t

theorem Blind.asSource {x : Nat → Attempt Store α} (hx : Blind v x) (source : Source) :
    Blind v fun time => Store.asSource source (x time) := by
  intro time s
  have hs := hx time { s with source }
  simp only [Store.asSource, Store.swapSource]
  exact congrArg (fun r : Except StoreError α × Store => (r.1, { r.2 with source := s.source })) hs

end Attempt

/-! ## Operations -/

namespace Store

open Attempt

theorem blind_revise (operation : Operation) (k : KeyRef) {f : Store → Key → Except StoreError String}
    (hf : ∀ s k, f (s.seen v) k = f s k) : Blind v fun time => revise time operation k f :=
  (blind_look fun _ => rfl).bind fun k => (blind_look (hf · k)).bind fun raw =>
    (blind_change fun time _ => seen_write time operation k raw).bind fun _ => blind_pure raw

theorem blind_set (k : KeyRef) (raw : String) : Blind v fun time => set time k raw :=
  (blind_revise .set k fun _ _ => rfl).bind fun _ => blind_pure ()

theorem blind_setAs (k : KeyRef) (value : Scalar) : Blind v fun time => setAs time k value :=
  (blind_look fun _ => rfl).bind fun raw => blind_set k raw

theorem blind_setList (k : KeyRef) (items : List String) : Blind v fun time => setList time k items :=
  (blind_look fun _ => rfl).bind fun k => (blind_look fun _ => rfl).bind fun raw => blind_set (.key k) raw

theorem blind_setSet (k : KeyRef) (items : List String) : Blind v fun time => setSet time k items :=
  (blind_look fun _ => rfl).bind fun k => (blind_look fun _ => rfl).bind fun raw => blind_set (.key k) raw

theorem blind_clear (k : KeyRef) : Blind v fun time => clear time k :=
  (blind_look fun _ => rfl).bind fun k => blind_exchange fun time _ => seen_clearKey time k

theorem blind_clearWhere (p : Key → Bool) : Blind v fun time => exchange (·.clearWhere time p) :=
  blind_exchange fun time s => congrArg ((s.data.keys.filter p).length, ·) (seen_removeAll time _)

theorem blind_clearScope (scope : String) : Blind v fun time => clearScope time scope :=
  (blind_look fun _ => rfl).bind fun _ => blind_clearWhere _

theorem blind_appendMap (entries : List (String × String)) (policy : ConflictPolicy) :
    Blind v fun time => appendMap time entries policy :=
  (blind_look fun _ => seen_planMerge policy ∅ entries).bind fun p =>
    (blind_change fun time _ => seen_writeAll time p.1).bind fun _ => blind_pure _

theorem blind_transform (operation : Operation) (k : KeyRef) (delta : Number) :
    Blind v fun time => transform time operation k delta := blind_revise operation k fun _ _ => rfl

theorem blind_decrement (k : KeyRef) (amount : Number) : Blind v fun time => decrement time k amount := by
  unfold decrement
  cases amount.neg? with
  | some delta => exact blind_transform .decrement k delta
  | none => exact blind_fail _

theorem blind_listAppend (k : KeyRef) (item : String) : Blind v fun time => listAppend time k item :=
  blind_revise .listAppend k fun _ _ => rfl

theorem blind_setAppend (k : KeyRef) (item : String) : Blind v fun time => setAppend time k item :=
  blind_revise .setAppend k fun _ _ => rfl

/-! ## Scripts -/

theorem blind_apply (c : Command) : Blind v fun time => apply time c := by
  obtain ⟨kind, key, operand⟩ := c
  unfold apply
  simp only
  split
  · exact (blind_clear _).bind fun _ => blind_pure none
  · exact (blind_set _ _).bind fun _ => blind_pure _
  · exact (blind_transform .increment _ _).bind fun raw => blind_pure (some raw)
  · exact (blind_decrement _ _).bind fun raw => blind_pure (some raw)
  · exact (blind_listAppend _ _).bind fun raw => blind_pure (some raw)
  · exact (blind_setAppend _ _).bind fun raw => blind_pure (some raw)
  · exact blind_fail _

theorem seen_applyStatement (s : Store) (time : Nat) (x : PreparedStatement) :
    (s.seen v).applyStatement (v.clock time) x = ((s.applyStatement time x).1, (s.applyStatement time x).2.seen v) := by
  unfold applyStatement
  cases x.command with
  | error e => rfl
  | ok c =>
    simp only [blind_apply c time s]
    rcases apply time c s with ⟨_ | value, t⟩ <;> rfl

theorem seen_runStatements (policy : ErrorPolicy) (time : Nat) (aborted : Bool) (s : Store)
    (l : List PreparedStatement) :
    let run := runStatements policy time aborted s l
    runStatements policy (v.clock time) aborted (s.seen v) l = (run.1, run.2.seen v) := by
  induction l generalizing aborted s with
  | nil => cases aborted <;> rfl
  | cons x l ih =>
    cases aborted with
    | true => simp only [runStatements, ih]
    | false => simp only [runStatements, seen_applyStatement s time x, ih]

theorem seen_execute (s : Store) (time : Nat) (script : PreparedScript) (policy : ErrorPolicy) :
    (s.seen v).execute (v.clock time) script policy =
      ((s.execute time script policy).1, (s.execute time script policy).2.seen v) := by
  have hrun := seen_runStatements (v := v) policy time false { s with source := .query } script.statements
  simp only [execute, swapSource]
  exact congrArg (fun r : List StatementOutcome × Store =>
    (({ policy, outcomes := r.1 } : ScriptReport), { r.2 with source := s.source })) hrun

end Store

/-! ## Actions -/

namespace Engine

open Attempt Store

/-- what is seen of the engine -/
def seen (v : View) (e : Engine) : Engine :=
  { e with store := e.store.seen v, savepoints := e.savepoints.clocked v.clock }

/-- the answer with the times that it tells as a clock shows them -/
def Answer.clocked (clock : Nat → Nat) : Answer → Answer
  | .entries value => .entries (value.map (Entry.clocked clock))
  | .info value => .info (value.clocked clock)
  | answer => answer

/-- the action with another listener in the place of its own -/
def Action.heard (hear : Listener → Listener) : Action → Action
  | .subscribe filter listener => .subscribe filter (hear listener)
  | a => a

variable {e : Engine} {α : Type}

/-- a blind computation on the store is a blind action, when it answers without times -/
theorem seen_onStore {x : Nat → Attempt Store α} {f : α → Answer} (hx : Blind v x)
    (hf : ∀ a, (f a).clocked v.clock = f a) (time : Nat) :
    (f <$> onStore (x (v.clock time))) (e.seen v) =
      (((f <$> onStore (x time)) e).1.map (Answer.clocked v.clock), ((f <$> onStore (x time)) e).2.seen v) := by
  have hstore : onStore (x (v.clock time)) (e.seen v) = ((x time e.store).1, { e with store := (x time e.store).2 }.seen v) :=
    congrArg (fun r : Except StoreError α × Store => (r.1, { e.seen v with store := r.2 })) (hx time e.store)
  refine Prod.ext ?_ ?_
  · rw [map_result, map_result, hstore]
    change _ = ((x time e.store).1.map f).map _
    cases (x time e.store).1 with
    | error error => rfl
    | ok a => exact congrArg Except.ok (hf a).symm
  · rw [map_state, map_state, hstore]
    rfl

theorem seen_historyFor (time : Nat) (k : KeyRef) :
    (e.seen v).perform (v.clock time) (.historyFor k) =
      ((e.perform time (.historyFor k)).1.map (Answer.clocked v.clock), (e.perform time (.historyFor k)).2.seen v) := by
  have hperform : ∀ (e : Engine) time, e.perform time (.historyFor k) = ((e.store.historyFor k).map .entries, e) :=
    fun e _ => map_look Answer.entries (fun e : Engine => e.store.historyFor k) e
  have hresolve : (e.seen v).store.resolve k = e.store.resolve k := rfl
  rw [hperform, hperform]
  refine congrArg (·, e.seen v) ?_
  unfold historyFor
  rw [hresolve]
  cases e.store.resolve k with
  | error error => rfl
  | ok k =>
    exact congrArg (fun entries => Except.ok (Answer.entries entries)) (History.clocked_forKey v.clock e.store.history k)

theorem seen_saveWith (time : Nat) (options : SaveOptions) :
    (e.seen v).saveWith (v.clock time) options = ((e.saveWith time options).1, (e.saveWith time options).2.seen v) :=
  congrArg (fun r : String × Savepoints => (r.1, { e.seen v with savepoints := r.2 }))
    (Savepoints.clocked_push e.store.data .manual (options.source.getD .user) options.label options.metadata time)

theorem seen_restore (time : Nat) (id : String) :
    (e.seen v).perform (v.clock time) (.restore id) =
      ((e.perform time (.restore id)).1.map (Answer.clocked v.clock), (e.perform time (.restore id)).2.seen v) := by
  have hfound : (e.seen v).savepoints.get? id = (e.savepoints.get? id).map (Savepoint.clocked v.clock) :=
    Savepoints.get?_clocked id
  cases hget : e.savepoints.get? id with
  | none =>
    rw [hget, Option.map_none] at hfound
    rw [perform_restore_of_unknown hget, perform_restore_of_unknown hfound]
    rfl
  | some found =>
    rw [hget, Option.map_some] at hfound
    rw [perform_restore hget, perform_restore hfound]
    exact congrArg (fun r : Nat × Store => (Except.ok (Answer.count r.1), { e.seen v with store := r.2 }))
      (seen_restoreMapping time found.snapshot)

theorem seen_deleteSavepoint (time : Nat) (id : String) :
    (e.seen v).perform (v.clock time) (.deleteSavepoint id) =
      ((e.perform time (.deleteSavepoint id)).1.map (Answer.clocked v.clock),
        (e.perform time (.deleteSavepoint id)).2.seen v) := by
  have hremoved : (e.seen v).savepoints.remove id =
      (e.savepoints.remove id).map fun x => (x.1.clocked v.clock, x.2.clocked v.clock) := Savepoints.remove_clocked id
  cases hremove : e.savepoints.remove id with
  | none =>
    rw [hremove, Option.map_none] at hremoved
    rw [perform_deleteSavepoint_of_unknown hremove, perform_deleteSavepoint_of_unknown hremoved]
    rfl
  | some removed =>
    rw [hremove, Option.map_some] at hremoved
    rw [perform_deleteSavepoint hremove, perform_deleteSavepoint hremoved]
    rfl

theorem seen_diffSavepoint (time : Nat) (id : String) :
    (e.seen v).perform (v.clock time) (.diffSavepoint id) =
      ((e.perform time (.diffSavepoint id)).1.map (Answer.clocked v.clock),
        (e.perform time (.diffSavepoint id)).2.seen v) := by
  have hfound : (e.seen v).savepoints.get? id = (e.savepoints.get? id).map (Savepoint.clocked v.clock) :=
    Savepoints.get?_clocked id
  have hperform : ∀ (e : Engine) time, e.perform time (.diffSavepoint id) = ((e.diffSavepoint id).map .diff, e) :=
    fun e _ => map_look Answer.diff (fun e : Engine => e.diffSavepoint id) e
  rw [hperform, hperform]
  refine congrArg (·, e.seen v) ?_
  unfold diffSavepoint savepoint
  rw [hfound]
  cases e.savepoints.get? id <;> rfl

theorem seen_autoSavepoint (time : Nat) (script : PreparedScript) :
    (e.seen v).autoSavepoint (v.clock time) script =
      ((e.autoSavepoint time script).1, (e.autoSavepoint time script).2.seen v) := by
  have hpolicy : (e.seen v).savepoints.policy = e.savepoints.policy := rfl
  simp only [autoSavepoint, hpolicy]
  split_ifs
  · rfl
  · rfl
  · exact congrArg (fun r : Option String × Savepoints => (r.1, { e.seen v with savepoints := r.2 }))
      (Savepoints.createAutomatic_clocked e.store.data time)

theorem seen_runScriptWith (time : Nat) (script : String) (policy : ErrorPolicy) :
    (e.seen v).runScriptWith (v.clock time) script policy =
      ((e.runScriptWith time script policy).1, (e.runScriptWith time script policy).2.seen v) := by
  have hprepare : (e.seen v).prepare script = e.prepare script := rfl
  simp only [runScriptWith, hprepare, seen_autoSavepoint]
  rcases e.autoSavepoint time (e.prepare script) with ⟨id, e'⟩
  have hstore : (e'.seen v).store = e'.store.seen v := rfl
  simp only [hstore, seen_execute]
  rfl

/-- **An action sees neither times nor what listeners do.** -/
theorem perform_seen (e : Engine) (time : Nat) (a : Action) :
    (e.seen v).perform (v.clock time) (a.heard v.hear) =
      ((e.perform time a).1.map (Answer.clocked v.clock), (e.perform time a).2.seen v) := by
  cases a with
  -- most actions are computations on the store whose answers have no times in them
  | set k raw => exact seen_onStore (blind_set k raw) (fun _ => rfl) time
  | setAs k value => exact seen_onStore (blind_setAs k value) (fun _ => rfl) time
  | setList k items => exact seen_onStore (blind_setList k items) (fun _ => rfl) time
  | setSet k items => exact seen_onStore (blind_setSet k items) (fun _ => rfl) time
  | clear k => exact seen_onStore (blind_clear k) (fun _ => rfl) time
  | clearWhere p => exact seen_onStore (blind_clearWhere p) (fun _ => rfl) time
  | clearScope scope => exact seen_onStore (blind_clearScope scope) (fun _ => rfl) time
  | appendMap entries policy => exact seen_onStore (blind_appendMap entries policy) (fun _ => rfl) time
  | importRaw entries policy =>
    exact seen_onStore ((blind_appendMap entries policy).asSource .system) (fun _ => rfl) time
  | increment k amount => exact seen_onStore (blind_transform .increment k amount) (fun _ => rfl) time
  | decrement k amount => exact seen_onStore (blind_decrement k amount) (fun _ => rfl) time
  | listAppend k item => exact seen_onStore (blind_listAppend k item) (fun _ => rfl) time
  | setAppend k item => exact seen_onStore (blind_setAppend k item) (fun _ => rfl) time
  | subscribe filter listener =>
    refine Prod.ext rfl ?_
    simp only [Action.heard, perform, attempt, map_state]
    simp only [onStore, exchange, Store.subscribe, EventBus.subscribe, seen, Store.seen, EventBus.heard, List.map_append]
    rfl
  | unsubscribe handle =>
    exact congrArg (fun r : Bool × EventBus => (Except.ok (Answer.known r.1),
      { e.seen v with store := { e.store.seen v with bus := r.2 } })) (EventBus.heard_unsubscribe v.hear e.store.bus handle)
  | historyFor k => exact seen_historyFor time k
  | save options =>
    exact congrArg (fun r : String × Engine => (Except.ok (Answer.text r.1), r.2)) (seen_saveWith time options)
  | restore id => exact seen_restore time id
  | deleteSavepoint id => exact seen_deleteSavepoint time id
  | diffSavepoint id => exact seen_diffSavepoint time id
  | runScript script policy =>
    have hperform : ∀ (e : Engine) time, e.perform time (.runScript script policy) =
        (.ok (.report (e.runScriptWith time script policy).1), (e.runScriptWith time script policy).2) := fun _ _ => rfl
    have hheard : (Action.runScript script policy).heard v.hear = .runScript script policy := rfl
    rw [hheard, hperform, hperform, seen_runScriptWith]
    rfl
  | execute script policy =>
    have hexecute : Blind v fun time => exchange (·.execute time script policy) :=
      blind_exchange fun time s => seen_execute s time script policy
    exact seen_onStore hexecute (fun _ => rfl) time

end Engine
end ScopedStore
