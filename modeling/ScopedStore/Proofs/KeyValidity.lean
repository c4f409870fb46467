/-
Every key that an engine holds is a valid one.

`Store.Obeys` says that all keys in the mapping, the history and the told events of a store are accepted by its key rules.
A recorded change of an accepted key keeps it so (`Tracks.obeys`), and so does going back to a mapping with accepted keys
(`Obeys.restoreMapping`). `Heeds` says of a computation that it only records changes of accepted keys: arguments are
resolved first, and what is taken out was there.

Main result, `keys_are_valid`: in a reachable engine, every key in the mapping, in a retained entry, in a live savepoint
and in a told event has an allowed scope and a name that fits the pattern, and its text is read back as that key.
-/
import ScopedStore.Proofs.Confinement
import ScopedStore.Proofs.Isolation
import ScopedStore.Proofs.Mirror

namespace ScopedStore

open Attempt

/-- the entry is about a key that `P` holds of, or about none -/
def Entry.Names (P : Key → Prop) (x : Entry) : Prop := ∀ k, x.key = some k → P k

namespace Store

/-- `P` holds of every key in the mapping, in the retained history and in the events that were told -/
structure Holds (P : Key → Prop) (s : Store) : Prop where
  data : ∀ k ∈ s.data, P k
  history : ∀ x ∈ s.history.newest, x.Names P
  calls : ∀ c ∈ s.bus.calls, P c.event.key

/-- the keys of the store are accepted by its rules -/
def Obeys (s : Store) : Prop := s.Holds s.keys.Accepts

variable {P : Key → Prop} {s t : Store}

/-! ## Recorded changes -/

theorem mem_of_mem_assign {m : Mapping} {k k' : Key} {v : Option String} (h : k' ∈ m.assign k v) : k' = k ∨ k' ∈ m := by
  rw [← Std.ExtTreeMap.isSome_getElem?_iff_mem, Mapping.getElem?_assign] at h
  split_ifs at h with hk
  · exact .inl hk.symm
  · exact .inr (Std.ExtTreeMap.isSome_getElem?_iff_mem.1 h)

theorem names_of_mem_push {h : History} {x : Entry} (hh : ∀ y ∈ h.newest, y.Names P) (hx : x.Names P) :
    ∀ y ∈ (h.push x).newest, y.Names P := by
  intro y hy
  rcases List.mem_cons.1 (History.mem_of_mem_keep hy) with rfl | hy
  · exact hx
  · exact hh y hy

theorem holds_of_mem_calls {b b' : EventBus} {events : List Event} (h : b.Tells events b')
    (hb : ∀ c ∈ b.calls, P c.event.key) (he : ∀ x ∈ events, P x.key) : ∀ c ∈ b'.calls, P c.event.key := by
  intro c hc
  rw [h.calls] at hc
  rcases List.mem_append.1 hc with hc | hc
  · exact hb c hc
  · obtain ⟨x, hx, hc⟩ := List.mem_flatMap.1 hc
    obtain ⟨sub, -, rfl⟩ := List.mem_map.1 hc
    exact he x hx

theorem Recorded.holds {x : Entry} (h : Recorded s x t) (hx : x.Names P) (hs : s.Holds P) : t.Holds P := by
  cases h with
  | noted sequence key absent prior new => exact ⟨hs.data, names_of_mem_push hs.history hx, hs.calls⟩
  | @told k sequence key prior changed =>
    have hk : P k := hx k key
    refine ⟨fun k' hk' => ?_, names_of_mem_push hs.history hx, ?_⟩
    · rcases mem_of_mem_assign hk' with rfl | hk'
      · exact hk
      · exact hs.data k' hk'
    · exact holds_of_mem_calls (EventBus.tells_dispatch s.bus _) hs.calls (by simpa using hk)

theorem Tracks.holds (h : Tracks (Entry.Names P) s t) (hs : s.Holds P) : t.Holds P := by
  obtain ⟨log, hl, hlog⟩ := h
  induction hl with
  | nil s => exact hs
  | cons h _ ih =>
    exact ih (h.holds (hlog _ List.mem_cons_self) hs) fun x hx => hlog x (List.mem_cons_of_mem _ hx)

/-- going back to a mapping is told for keys of the mapping before or after -/
theorem Holds.restoreMapping (hs : s.Holds P) {mapping : Mapping} (hm : ∀ k ∈ mapping, P k) (time : Nat) :
    (s.restoreMapping time mapping).2.Holds P where
  data := hm
  history := names_of_mem_push hs.history nofun
  calls := by
    refine holds_of_mem_calls (tells_announce s.source (Mapping.changes s.data mapping) s.bus) hs.calls fun x hx => ?_
    obtain ⟨change, hc, rfl⟩ := List.mem_map.1 hx
    rcases Mapping.mem_or_mem_of_mem_changes hc with hk | hk
    · exact hs.data _ hk
    · exact hm _ hk

/-! ## Operations -/

/-- on a store that obeys its rules, the computation only records changes of keys that these accept -/
def Heeds {α : Type} (x : Attempt Store α) : Prop := ∀ s, s.Obeys → Tracks (Entry.Names s.keys.Accepts) s (x s).2

theorem Tracks.obeys (h : Tracks (Entry.Names s.keys.Accepts) s t) (hs : s.Obeys) : t.Obeys := by
  unfold Obeys
  rw [h.frame.keys]
  exact h.holds hs

namespace Heeds

variable {α β : Type} {x : Attempt Store α}

theorem pure (a : α) : Heeds (pure a) := fun s _ => .refl _ s

theorem look (g : Store → Except StoreError α) : Heeds (look g) := fun s _ => .refl _ s

theorem bind {f : α → Attempt Store β} (hx : Heeds x) (hf : ∀ a, Heeds (f a)) : Heeds (x >>= f) := by
  intro s hs
  have ht : Tracks (Entry.Names s.keys.Accepts) s (x s).2 := hx s hs
  change Tracks _ s (Attempt.bind x f s).2
  unfold Attempt.bind
  rcases hr : x s with ⟨_ | a, t⟩ <;> rw [hr] at ht
  · exact ht
  · exact ht.trans (ht.frame.keys ▸ hf a t (ht.obeys hs))

/-- the source is not looked at -/
theorem asSource (hx : Heeds x) (source : Source) : Heeds (asSource source x) := fun s hs =>
  (hx { s with source } ⟨hs.data, hs.history, hs.calls⟩).asSource s.source

end Heeds

theorem heeds_revise (time : Nat) (operation : Operation) (k : KeyRef) (f : Store → Key → Except StoreError String) :
    Heeds (revise time operation k f) := fun _ _ =>
  tracks_revise fun _ _ hk _ _ he => Option.some.inj he ▸ accepts_of_resolve hk

theorem heeds_set (time : Nat) (k : KeyRef) (raw : String) : Heeds (set time k raw) :=
  .bind (heeds_revise time .set k _) fun _ => .pure ()

theorem heeds_setAs (time : Nat) (k : KeyRef) (v : Scalar) : Heeds (setAs time k v) :=
  .bind (.look _) fun raw => heeds_set time k raw

theorem heeds_setList (time : Nat) (k : KeyRef) (items : List String) : Heeds (setList time k items) :=
  .bind (.look _) fun k => .bind (.look _) fun raw => heeds_set time (.key k) raw

theorem heeds_setSet (time : Nat) (k : KeyRef) (items : List String) : Heeds (setSet time k items) :=
  .bind (.look _) fun k => .bind (.look _) fun raw => heeds_set time (.key k) raw

theorem heeds_clear (time : Nat) (k : KeyRef) : Heeds (clear time k) := fun _ _ =>
  tracks_clear fun _ _ hk _ he => Option.some.inj he ▸ accepts_of_resolve hk

theorem tracks_removeAll_of_forall {ks : List Key} (hk : ∀ k ∈ ks, P k) (s : Store) (time : Nat) :
    Tracks (Entry.Names P) s (s.removeAll time ks) := by
  induction ks generalizing s with
  | nil => exact .refl _ s
  | cons k ks ih =>
    obtain ⟨hk, hks⟩ := List.forall_mem_cons.1 hk
    unfold removeAll at ih ⊢
    rw [List.foldl_cons]
    split
    · rename_i prior h
      have ht : Tracks (Entry.Names P) s (s.remove time k prior) :=
        .single (recorded_remove h time) fun _ he => Option.some.inj he ▸ hk
      exact ht.trans (ih hks (s.remove time k prior))
    · exact ih hks s

/-- what is taken out was there -/
theorem heeds_clearWhere (time : Nat) (p : Key → Bool) : Heeds (exchange (·.clearWhere time p)) := fun s hs =>
  tracks_removeAll_of_forall (fun k hk => hs.data k (Std.ExtTreeMap.mem_keys.1 (List.mem_filter.1 hk).1)) s time

theorem heeds_clearScope (time : Nat) (scope : String) : Heeds (clearScope time scope) :=
  .bind (.look _) fun _ => heeds_clearWhere time _

theorem tracks_writeAll_of_forall {plan : List (Key × String)} (hp : ∀ p ∈ plan, P p.1) (s : Store) (time : Nat) :
    Tracks (Entry.Names P) s (s.writeAll time plan) := by
  induction plan generalizing s with
  | nil => exact .refl _ s
  | cons p plan ih =>
    have ht : Tracks (Entry.Names P) s (s.write time .imported p.1 p.2) :=
      .single (recorded_write s time .imported p.1 p.2) fun _ he => Option.some.inj he ▸ hp p List.mem_cons_self
    exact ht.trans (ih (fun p' h => hp p' (List.mem_cons_of_mem p h)) _)

/-- what a plan writes is among the entries, under an accepted key -/
theorem mem_of_planMerge {policy : ConflictPolicy} {planned : Std.ExtTreeSet Key}
    {entries : List (String × String)} {plan : List (Key × String)} {kept : Nat}
    (h : s.planMerge policy planned entries = .ok (plan, kept)) :
    ∀ p ∈ plan, s.keys.Accepts p.1 ∧ (p.1.text, p.2) ∈ entries := by
  induction entries generalizing planned plan kept with
  | nil =>
    obtain ⟨rfl, -⟩ := Prod.mk.inj (Except.ok.inj h)
    exact nofun
  | cons entry entries ih =>
    have later {plan kept planned} (h : s.planMerge policy planned entries = .ok (plan, kept)) :
        ∀ p ∈ plan, s.keys.Accepts p.1 ∧ (p.1.text, p.2) ∈ entry :: entries :=
      fun p hp => (ih h p hp).imp_right (List.mem_cons_of_mem entry)
    obtain ⟨k, hk, h⟩ := Result.bind_eq_ok.1 h
    obtain ⟨htext, hk⟩ := KeyRules.parse_eq_ok.1 (Result.mapError_eq_ok.1 hk)
    simp only at h
    split at h
    · cases h
    · obtain ⟨rest, hrest, h⟩ := Result.bind_eq_ok.1 h
      obtain ⟨rfl, -⟩ := Prod.mk.inj (Except.ok.inj h)
      exact later hrest
    · obtain ⟨rest, hrest, h⟩ := Result.bind_eq_ok.1 h
      obtain ⟨rfl, -⟩ := Prod.mk.inj (Except.ok.inj h)
      exact List.forall_mem_cons.2 ⟨⟨hk, htext ▸ List.mem_cons_self⟩, later hrest⟩

theorem heeds_appendMap (time : Nat) (entries : List (String × String)) (policy : ConflictPolicy) :
    Heeds (appendMap time entries policy) := by
  intro s hs
  cases hp : s.planMerge policy ∅ entries with
  | error e =>
    rw [appendMap_of_unplanned hp]
    exact .refl _ s
  | ok p =>
    rw [appendMap_of_planned hp]
    exact tracks_writeAll_of_forall (fun p hp' => (mem_of_planMerge hp p hp').1) s time

theorem heeds_decrement (time : Nat) (k : KeyRef) (amount : Number) : Heeds (decrement time k amount) := by
  unfold decrement
  cases amount.neg? with
  | some delta => exact heeds_revise time .decrement k _
  | none => exact fun s _ => .refl _ s

/-! ## Scripts -/

theorem tracks_applyStatement_of_obeys (s : Store) (time : Nat) (statement : PreparedStatement) :
    Tracks (Entry.Names s.keys.Accepts) s (s.applyStatement time statement).2 := by
  cases hc : statement.command with
  | error e =>
    rw [applyStatement_of_error hc]
    exact .refl _ s
  | ok c =>
    rw [state_applyStatement hc]
    refine (tracks_apply (P := fun _ => True) fun _ _ => trivial).mono fun x hx k hk => ?_
    obtain ⟨k', hk', haccepts⟩ := hx.key
    exact Option.some.inj (hk'.symm.trans hk) ▸ haccepts

theorem heeds_execute (time : Nat) (script : PreparedScript) (policy : ErrorPolicy) :
    Heeds (exchange (·.execute time script policy)) := fun _ _ =>
  tracks_execute (fun _ ht x _ => ht.keys ▸ tracks_applyStatement_of_obeys _ time x) policy

end Store

/-! ## Actions -/

namespace Engine

open Store

/-- every key of the engine is accepted by the rules of its store -/
structure Obeys (e : Engine) : Prop where
  store : e.store.Obeys
  savepoints : ∀ x ∈ e.savepoints.live, ∀ k ∈ x.snapshot, e.store.keys.Accepts k

variable {e : Engine}

theorem obeys_onStore {α : Type} {x : Attempt Store α} {f : α → Answer} {time : Nat} {a : Action}
    (ha : attempt time a = f <$> onStore x) (hx : Heeds x) (h : e.store.Obeys) : (e.perform time a).2.store.Obeys := by
  rw [perform_onStore ha]
  exact (hx e.store h).obeys h

/-- **One action.** -/
theorem Obeys.store_perform (h : e.Obeys) (time : Nat) (a : Action) : (e.perform time a).2.store.Obeys := by
  cases a with
  | set k raw => exact obeys_onStore rfl (heeds_set time k raw) h.store
  | setAs k v => exact obeys_onStore rfl (heeds_setAs time k v) h.store
  | setList k items => exact obeys_onStore rfl (heeds_setList time k items) h.store
  | setSet k items => exact obeys_onStore rfl (heeds_setSet time k items) h.store
  | clear k => exact obeys_onStore rfl (heeds_clear time k) h.store
  | clearWhere p => exact obeys_onStore rfl (heeds_clearWhere time p) h.store
  | clearScope scope => exact obeys_onStore rfl (heeds_clearScope time scope) h.store
  | appendMap entries policy => exact obeys_onStore rfl (heeds_appendMap time entries policy) h.store
  | importRaw entries policy => exact obeys_onStore rfl ((heeds_appendMap time entries policy).asSource .system) h.store
  | increment k amount => exact obeys_onStore rfl (heeds_revise time .increment k _) h.store
  | decrement k amount => exact obeys_onStore rfl (heeds_decrement time k amount) h.store
  | listAppend k item => exact obeys_onStore rfl (heeds_revise time .listAppend k _) h.store
  | setAppend k item => exact obeys_onStore rfl (heeds_revise time .setAppend k _) h.store
  | subscribe filter listener => exact ⟨h.store.data, h.store.history, h.store.calls⟩
  | unsubscribe handle => exact ⟨h.store.data, h.store.history, h.store.calls⟩
  | historyFor k => exact obeys_onStore rfl (.look _) h.store
  | save options => exact h.store
  | restore id =>
    cases hf : e.savepoints.get? id with
    | none =>
      rw [perform_restore_of_unknown hf]
      exact h.store
    | some found =>
      rw [perform_restore hf]
      exact h.store.restoreMapping (h.savepoints found (List.mem_of_find?_eq_some hf)) time
  | deleteSavepoint id =>
    cases hr : e.savepoints.remove id with
    | none =>
      rw [perform_deleteSavepoint_of_unknown hr]
      exact h.store
    | some removed =>
      rw [perform_deleteSavepoint hr]
      exact h.store
  | diffSavepoint id =>
    have he : (e.perform time (.diffSavepoint id)).2 = e := map_state _ _ e
    rw [he]
    exact h.store
  | runScript script policy =>
    change (e.runScriptWith time script policy).2.store.Obeys
    rw [store_runScriptWith]
    exact (heeds_execute time _ policy e.store h.store).obeys h.store
  | execute script policy => exact obeys_onStore rfl (heeds_execute time script policy) h.store

/-- what is live holds the mapping of some moment, and in each of them the keys were accepted -/
theorem Reachable.obeys (h : Reachable e) : e.Obeys := by
  induction h with
  | create h =>
    obtain ⟨-, keys, -, rfl⟩ := create_eq_ok.1 h
    exact ⟨⟨by simp, nofun, nofun⟩, nofun⟩
  | @perform e h time a ih =>
    have heffect := perform_effect h.inv.user time a
    refine ⟨ih.store_perform time a, fun x hx k hk => ?_⟩
    rw [heffect.settled.keys]
    rcases heffect.live_cases hx with hx | ⟨-, hs, -⟩
    · exact ih.savepoints x hx k hk
    · exact ih.store.data k (hs ▸ hk)

/-! ## Main result -/

/-- the places where an engine has a key -/
inductive Mentions (e : Engine) (k : Key) : Prop where
  | held (h : k ∈ e.store.data)
  | recorded {x : Entry} (h : x ∈ e.store.history.entries) (key : x.key = some k)
  | saved {x : Savepoint} (live : x ∈ e.savepoints.live) (h : k ∈ x.snapshot)
  | told {c : Call} (h : c ∈ e.store.bus.calls) (key : c.event.key = k)

/-- the key is what the configuration asks for, and its text is read back -/
structure Admitted (e : Engine) (k : Key) : Prop where
  scope : k.scope ∈ e.store.config.allowedScopes
  name : k.name.toList ≠ [] ∧ ':' ∉ k.name.toList
  pattern : ∃ p, NamePattern.compile e.store.config.namePattern = some p ∧ p.accepts k.name
  parsed : e.store.keys.parse k.text = .ok k

theorem Inv.admitted_of_accepts (h : e.Inv) {k : Key} (hk : e.store.keys.Accepts k) : e.Admitted k := by
  obtain ⟨hp, hscopes⟩ := Config.keyRules_eq_ok.1 h.rules
  refine ⟨?_, hk.wellFormed.name, ⟨_, hp, hk.name⟩, KeyRules.parse_eq_ok.2 ⟨rfl, hk⟩⟩
  have hscope : e.store.keys.scopes.contains k.scope := hk.scope
  rw [hscopes] at hscope
  exact Std.ExtTreeSet.contains_iff_mem.1 hscope

end Engine

open Engine

/-- **Keys are valid.** In an engine that was created from a consistent configuration and has carried out any actions,
every key of the mapping, of a retained history entry, of a live savepoint and of an event that some listener was told is
of an allowed scope and has a name, without a colon, that fits the name pattern; and its text is read as that key. -/
theorem keys_are_valid {e : Engine} (h : Reachable e) (k : Key) (hk : e.Mentions k) : e.Admitted k := by
  refine h.inv.admitted_of_accepts ?_
  cases hk with
  | held hk => exact h.obeys.store.data k hk
  | recorded hx key => exact h.obeys.store.history _ (List.mem_reverse.1 hx) k key
  | saved live hk => exact h.obeys.savepoints _ live k hk
  | told hc key => exact key ▸ h.obeys.store.calls _ hc

/-- changes under the eyes of a listener: keys built elsewhere, of which two are refused, and the way back -/
def sampleKeyActions : List (Nat × Action) :=
  [(1, .subscribe .all fun _ _ => .completes), (2, .set (.key ⟨"env", "a"⟩) "5"), (3, .save {}),
    (4, .set (.key ⟨"root", "a"⟩) "1"), (5, .set (.key ⟨"env", "a:b"⟩) "1"), (6, .clear (.text "env:a")),
    (7, .restore "#0")]

theorem sample_keys_are_valid :
    let e := sample.run sampleKeyActions
    e.store.history.entries.map (·.key) = [some ⟨"env", "a"⟩, some ⟨"env", "a"⟩, none] ∧
      e.store.bus.calls.map (·.event.operation) = [.set, .clear, .restore] ∧ e.Admitted ⟨"env", "a"⟩ ∧
      ∀ c ∈ e.store.bus.calls, e.Admitted c.event.key := by
  intro e
  have hr : Reachable e := reachable_sample.run sampleKeyActions
  have hheld : (⟨"env", "a"⟩ : Key) ∈ e.store.data := by decide +kernel
  exact ⟨by decide +kernel, by decide +kernel, keys_are_valid hr _ (.held hheld), fun c hc =>
    keys_are_valid hr _ (.told hc rfl)⟩

end ScopedStore
