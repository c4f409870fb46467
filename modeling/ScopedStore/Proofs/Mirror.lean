/-
Events are enough to mirror the mapping.

`Mapping.follow` carries out what events tell, and `Mapping.restrict` is the part of a mapping that a filter covers.
`EventBus.Tells b events b'` says that from `b` to `b'` these events are told to every listener that covers them, and
nothing else happens to the bus. `Store.Tells s events t` adds that the events lead from the mapping of `s` to that of
`t`: so it is for recorded changes, told one at a time (`Trail.tells`), and for a restore, told key by key after a
comparison of two mappings (`tells_restoreMapping`).

Main result, `events_mirror_the_mapping`: a listener that starts from what it covers of the mapping and follows the events
that it receives, holds what it covers of the mapping after any actions; failures and clears of absent keys are not told.
-/
import ScopedStore.Proofs.Atomicity
import ScopedStore.Proofs.Changes
import ScopedStore.Proofs.Invariant
import ScopedStore.Proofs.KeyRules
import ScopedStore.Proofs.Result

namespace ScopedStore

/-! ## Following events -/

/-- the mapping after what an event tells -/
def Event.redo (m : Mapping) (x : Event) : Mapping := m.assign x.key x.new

namespace Mapping

/-- the mapping after what events tell, one after the other -/
def follow (m : Mapping) (events : List Event) : Mapping := events.foldl Event.redo m

/-- the part of a mapping that a filter covers -/
def restrict (m : Mapping) (f : EventFilter) : Mapping := m.filter fun k _ => f.covers k

@[simp] theorem follow_cons (m : Mapping) (x : Event) (events : List Event) :
    m.follow (x :: events) = Mapping.follow (x.redo m) events := rfl

theorem follow_append (m : Mapping) (l l' : List Event) : m.follow (l ++ l') = (m.follow l).follow l' :=
  List.foldl_append

theorem getElem?_restrict (m : Mapping) (f : EventFilter) (k : Key) :
    (m.restrict f)[k]? = if f.covers k then m[k]? else none := by
  rw [restrict, Std.ExtTreeMap.getElem?_filter']
  cases m[k]? <;> cases f.covers k <;> simp [Option.filter]

/-- a change of a key that the filter covers is a change of its part -/
theorem restrict_assign_of_covers {f : EventFilter} {k : Key} (h : f.covers k) (m : Mapping) (v : Option String) :
    (m.assign k v).restrict f = (m.restrict f).assign k v := by
  refine Std.ExtTreeMap.ext_getElem? fun k' => ?_
  rw [getElem?_restrict, getElem?_assign, getElem?_assign, getElem?_restrict]
  by_cases hk : k = k'
  · subst hk
    rw [if_pos h, if_pos rfl, if_pos rfl]
  · rw [if_neg hk, if_neg hk]

/-- a change of any other key is none -/
theorem restrict_assign_of_not_covers {f : EventFilter} {k : Key} (h : ¬f.covers k) (m : Mapping)
    (v : Option String) : (m.assign k v).restrict f = m.restrict f := by
  refine Std.ExtTreeMap.ext_getElem? fun k' => ?_
  rw [getElem?_restrict, getElem?_restrict, getElem?_assign]
  by_cases hk : k = k'
  · subst hk
    rw [if_neg h, if_neg h]
  · rw [if_neg hk]

/-- to follow the events that a filter covers is to follow all of them and to look at the part that it covers -/
theorem follow_filter_covers (f : EventFilter) (events : List Event) (m : Mapping) :
    (m.restrict f).follow (events.filter (f.covers ·.key)) = (m.follow events).restrict f := by
  induction events generalizing m with
  | nil => rfl
  | cons x events ih =>
    rw [follow_cons, ← ih (x.redo m)]
    by_cases h : f.covers x.key
    · rw [List.filter_cons, if_pos h, follow_cons, Event.redo, Event.redo, restrict_assign_of_covers h]
    · rw [List.filter_cons, if_neg h, Event.redo, restrict_assign_of_not_covers h]

end Mapping

/-! ## Buses -/

namespace EventBus

/-- the calls that tell an event to the listeners among these -/
def callsFor (subscriptions : List Subscription) (x : Event) : List Call :=
  (subscriptions.filter (·.filter.covers x.key)).map fun s => ⟨s.handle, x⟩

/-- from `b` to `b'`, events are told, each to every listener that covers its key -/
structure Tells (b : EventBus) (events : List Event) (b' : EventBus) : Prop where
  subscriptions : b'.subscriptions = b.subscriptions
  nextHandle : b'.nextHandle = b.nextHandle
  calls : b'.calls = b.calls ++ events.flatMap (callsFor b.subscriptions)

/-- handles are given out in turn, and no two listeners have the same one -/
structure Sound (b : EventBus) : Prop where
  distinct : b.subscriptions.Pairwise fun s s' => s.handle ≠ s'.handle
  given : ∀ s ∈ b.subscriptions, s.handle < b.nextHandle
  called : ∀ c ∈ b.calls, c.handle < b.nextHandle

variable {b b' b'' : EventBus} {events : List Event}

theorem Tells.refl (b : EventBus) : Tells b [] b := ⟨rfl, rfl, by simp⟩

theorem Tells.append {events' : List Event} (h : Tells b events b') (h' : Tells b' events' b'') :
    Tells b (events ++ events') b'' where
  subscriptions := h'.subscriptions.trans h.subscriptions
  nextHandle := h'.nextHandle.trans h.nextHandle
  calls := by rw [h'.calls, h.calls, h.subscriptions, List.flatMap_append, List.append_assoc]

theorem deliverAll_snd (x : Event) (l : List Subscription) (b : EventBus) :
    (deliverAll x l b).2 =
      { b with newestCalls := (l.map fun s => (⟨s.handle, x⟩ : Call)).reverse ++ b.newestCalls } := by
  induction l generalizing b with
  | nil => rfl
  | cons s l ih =>
    simp only [deliverAll, deliver, ih, List.map_cons, List.reverse_cons, List.append_assoc, List.singleton_append]

theorem tells_dispatch (b : EventBus) (x : Event) : Tells b [x] (b.dispatch x).2 := by
  unfold dispatch
  rw [deliverAll_snd]
  exact ⟨rfl, rfl, by simp [calls, callsFor]⟩

theorem Tells.sound (h : Tells b events b') (hs : b.Sound) : b'.Sound where
  distinct := h.subscriptions ▸ hs.distinct
  given := by
    rw [h.subscriptions, h.nextHandle]
    exact hs.given
  called c hc := by
    rw [h.calls] at hc
    rw [h.nextHandle]
    rcases List.mem_append.1 hc with hc | hc
    · exact hs.called c hc
    · obtain ⟨x, -, hx⟩ := List.mem_flatMap.1 hc
      obtain ⟨s, hm, rfl⟩ := List.mem_map.1 hx
      exact hs.given s (List.mem_filter.1 hm).1

theorem Sound.subscribe (hs : b.Sound) (filter : EventFilter) (listener : Listener) :
    (b.subscribe filter listener).2.Sound where
  distinct := by
    refine List.pairwise_append.2 ⟨hs.distinct, List.pairwise_singleton .., fun s hm s' hm' => ?_⟩
    obtain rfl := List.mem_singleton.1 hm'
    exact Nat.ne_of_lt (hs.given s hm)
  given s hm := by
    rcases List.mem_append.1 hm with hm | hm
    · exact Nat.lt_succ_of_lt (hs.given s hm)
    · obtain rfl := List.mem_singleton.1 hm
      exact Nat.lt_succ_self _
  called c hc := Nat.lt_succ_of_lt (hs.called c hc)

theorem Sound.unsubscribe (hs : b.Sound) (handle : Nat) : (b.unsubscribe handle).2.Sound where
  distinct := hs.distinct.filter _
  given s hm := hs.given s (List.mem_filter.1 hm).1
  called := hs.called

/-- a handle is enough to find its listener -/
theorem Sound.filter_handle (hs : b.Sound) {s : Subscription} (hm : s ∈ b.subscriptions) :
    b.subscriptions.filter (·.handle = s.handle) = [s] := by
  obtain ⟨before, after, hl⟩ := List.append_of_mem hm
  have hd := hs.distinct
  rw [hl] at hd ⊢
  obtain ⟨-, hafter, hbefore⟩ := List.pairwise_append.1 hd
  have hb : before.filter (·.handle = s.handle) = [] :=
    List.filter_eq_nil_iff.2 fun y hy => by simpa using hbefore y hy s List.mem_cons_self
  have ha : after.filter (·.handle = s.handle) = [] :=
    List.filter_eq_nil_iff.2 fun y hy => by simpa using ((List.pairwise_cons.1 hafter).1 y hy).symm
  rw [List.filter_append, List.filter_cons_of_pos (by simp), hb, ha, List.nil_append]

/-- of the calls about an event, the listener gets its own one, if it covers the event -/
theorem Sound.filter_callsFor (hs : b.Sound) {s : Subscription} (hm : s ∈ b.subscriptions) (x : Event) :
    ((callsFor b.subscriptions x).filter (·.handle = s.handle)).map Call.event =
      if s.filter.covers x.key then [x] else [] := by
  have hown : (b.subscriptions.filter (·.filter.covers x.key)).filter (·.handle = s.handle) =
      [s].filter (·.filter.covers x.key) := by
    rw [List.filter_filter, ← hs.filter_handle hm, List.filter_filter]
    exact List.filter_congr fun _ _ => Bool.and_comm ..
  rw [callsFor, List.filter_map, List.map_map]
  change List.map _ ((b.subscriptions.filter _).filter (·.handle = s.handle)) = _
  rw [hown]
  by_cases hc : s.filter.covers x.key
  · rw [List.filter_cons, if_pos hc, if_pos hc]
    rfl
  · rw [List.filter_cons, if_neg hc, if_neg hc]
    rfl

/-- **A listener receives the events that it covers**, each once and in order. -/
theorem Tells.received (h : Tells b events b') (hs : b.Sound) {s : Subscription} (hm : s ∈ b.subscriptions) :
    b'.received s.handle = b.received s.handle ++ events.filter (s.filter.covers ·.key) := by
  have hnew : ((events.flatMap (callsFor b.subscriptions)).filter (·.handle = s.handle)).map Call.event =
      events.filter (s.filter.covers ·.key) := by
    clear h
    induction events with
    | nil => rfl
    | cons x events ih =>
      rw [List.flatMap_cons, List.filter_append, List.map_append, ih, hs.filter_callsFor hm x]
      by_cases hc : s.filter.covers x.key
      · rw [if_pos hc, List.filter_cons, if_pos hc, List.singleton_append]
      · rw [if_neg hc, List.filter_cons, if_neg hc, List.nil_append]
  rw [EventBus.received, EventBus.received, h.calls, List.filter_append, List.map_append, hnew]

theorem Sound.received_of_new (hs : b.Sound) : b.received b.nextHandle = [] := by
  have hnone : b.calls.filter (·.handle = b.nextHandle) = [] :=
    List.filter_eq_nil_iff.2 fun c hc => by simpa using Nat.ne_of_lt (hs.called c hc)
  rw [received, hnone]
  rfl

end EventBus

/-! ## Stores -/

namespace Store

/-- from `s` to `t`, events are told that lead from the mapping of `s` to that of `t` -/
structure Tells (s : Store) (events : List Event) (t : Store) : Prop where
  bus : s.bus.Tells events t.bus
  data : t.data = s.data.follow events

variable {s t u : Store}

theorem Tells.append {events events' : List Event} (h : Tells s events t) (h' : Tells t events' u) :
    Tells s (events ++ events') u :=
  ⟨h.bus.append h'.bus, by rw [h'.data, h.data, Mapping.follow_append]⟩

/-- a recorded change is told, unless it changes nothing -/
theorem Recorded.tells {x : Entry} (h : Recorded s x t) : ∃ events, Tells s events t := by
  cases h with
  | noted => exact ⟨[], .refl _, rfl⟩
  | @told k => exact ⟨[⟨k, x.operation, x.new, x.source⟩], EventBus.tells_dispatch .., rfl⟩

theorem Trail.tells {log : List Entry} (h : Trail s log t) : ∃ events, Tells s events t := by
  induction h with
  | nil s => exact ⟨[], .refl _, rfl⟩
  | cons h _ ih =>
    obtain ⟨events, hs⟩ := h.tells
    obtain ⟨events', ht⟩ := ih
    exact ⟨events ++ events', hs.append ht⟩

theorem tells_announce (source : Source) (changes : List (Key × Option String)) (b : EventBus) :
    b.Tells (changes.map fun change => ⟨change.1, .restore, change.2, source⟩)
      (changes.foldl (announce source) b) := by
  induction changes generalizing b with
  | nil => exact .refl b
  | cons change changes ih => exact (EventBus.tells_dispatch b _).append (ih _)

/-- **A restore tells all differences.** -/
theorem tells_restoreMapping (s : Store) (time : Nat) (mapping : Mapping) :
    ∃ events, Tells s events (s.restoreMapping time mapping).2 := by
  refine ⟨_, tells_announce s.source (Mapping.changes s.data mapping) s.bus, ?_⟩
  change mapping = _
  rw [Mapping.follow, List.foldl_map]
  exact (Mapping.assignAll_changes s.data mapping).symm

/-- on the way from `s` to `t` the subscription stays, and the events that come to it lead from what it covers of the
mapping of `s` to what it covers of that of `t` -/
structure Mirrors (sub : Subscription) (s : Store) (events : List Event) (t : Store) : Prop where
  live : sub ∈ t.bus.subscriptions
  received : t.bus.received sub.handle = s.bus.received sub.handle ++ events
  data : t.data.restrict sub.filter = (s.data.restrict sub.filter).follow events

theorem Mirrors.append {sub : Subscription} {events events' : List Event} (h : Mirrors sub s events t)
    (h' : Mirrors sub t events' u) : Mirrors sub s (events ++ events') u where
  live := h'.live
  received := by rw [h'.received, h.received, List.append_assoc]
  data := by rw [h'.data, h.data, Mapping.follow_append]

theorem Tells.mirrors {events : List Event} (h : Tells s events t) (hs : s.bus.Sound) {sub : Subscription}
    (hm : sub ∈ s.bus.subscriptions) : Mirrors sub s (events.filter (sub.filter.covers ·.key)) t where
  live := h.bus.subscriptions ▸ hm
  received := h.bus.received hs hm
  data := by rw [h.data, Mapping.follow_filter_covers]

end Store

/-! ## Engines -/

namespace Engine

open Attempt Store

variable {e e' : Engine} {time : Nat} {a : Action} {r : Except StoreError Answer}

/-- an action tells what it changes, unless it is about listeners -/
theorem Effect.tells (h : Effect e time a r e') :
    (∃ events, Tells e.store events e'.store) ∨
      (∃ filter listener, e'.store = (e.store.subscribe filter listener).2) ∨
        ∃ handle, a = .unsubscribe handle ∧ e'.store = (e.store.unsubscribe handle).2 := by
  cases h with
  | recorded h => exact .inl (h.elim fun _ h => h.1.tells)
  | subscribed filter listener => exact .inr (.inl ⟨filter, listener, rfl⟩)
  | unsubscribed handle => exact .inr (.inr ⟨handle, rfl, rfl⟩)
  | @restored id found live n => exact .inl (tells_restoreMapping e.store time found.snapshot)
  | saved options => exact .inl ⟨[], .refl _, rfl⟩
  | deleted removed => exact .inl ⟨[], .refl _, rfl⟩
  | ran made h => exact .inl (h.elim fun _ h => h.1.tells)

theorem Effect.soundBus (hs : e.store.bus.Sound) (h : Effect e time a r e') : e'.store.bus.Sound := by
  rcases h.tells with ⟨events, h⟩ | ⟨filter, listener, h⟩ | ⟨handle, -, h⟩
  · exact h.bus.sound hs
  · exact h ▸ hs.subscribe filter listener
  · exact h ▸ hs.unsubscribe handle

theorem Effect.mirrors (hs : e.store.bus.Sound) (h : Effect e time a r e') {sub : Subscription}
    (hm : sub ∈ e.store.bus.subscriptions) (ha : a ≠ .unsubscribe sub.handle) :
    ∃ events, Mirrors sub e.store events e'.store := by
  rcases h.tells with ⟨events, ht⟩ | ⟨filter, listener, ht⟩ | ⟨handle, rfl, ht⟩
  · exact ⟨_, ht.mirrors hs hm⟩
  · rw [ht]
    exact ⟨[], List.mem_append_left _ hm, (List.append_nil _).symm, rfl⟩
  · have hne : sub.handle ≠ handle := fun he => ha (he ▸ rfl)
    rw [ht]
    exact ⟨[], List.mem_filter.2 ⟨hm, by simpa using hne⟩, (List.append_nil _).symm, rfl⟩

theorem Reachable.soundBus (h : Reachable e) : e.store.bus.Sound := by
  induction h with
  | create h =>
    obtain ⟨-, keys, -, rfl⟩ := create_eq_ok.1 h
    exact ⟨.nil, by simp, by simp [EventBus.calls]⟩
  | perform h time a ih => exact (perform_effect h.inv.user time a).soundBus ih

/-- **Runs are mirrored.** -/
theorem Reachable.mirrors_run (h : Reachable e) {sub : Subscription} (hm : sub ∈ e.store.bus.subscriptions)
    {actions : List (Nat × Action)} (ha : ∀ step ∈ actions, step.2 ≠ .unsubscribe sub.handle) :
    ∃ events, Mirrors sub e.store events (e.run actions).store := by
  induction actions generalizing e with
  | nil => exact ⟨[], hm, (List.append_nil _).symm, rfl⟩
  | cons step actions ih =>
    rw [run_cons]
    obtain ⟨events, hs⟩ := (perform_effect h.inv.user step.1 step.2).mirrors h.soundBus hm (ha step List.mem_cons_self)
    obtain ⟨events', ht⟩ := ih (h.perform step.1 step.2) hs.live fun step' h' => ha step' (List.mem_cons_of_mem step h')
    exact ⟨events ++ events', hs.append ht⟩

end Engine

/-! ## When nothing is told -/

namespace Store

open Attempt

theorem resolve_key_eq_ok {s : Store} {k k' : Key} (h : s.resolve (.key k) = .ok k') : k' = k :=
  (KeyRules.eq_of_resolve_key (Result.mapError_eq_ok.1 h)).symm

theorem clear_of_absent {s : Store} {k : KeyRef} {key : Key} (hk : s.resolve k = .ok key) (h : s.data[key]? = none)
    (time : Nat) :
    clear time k s = (.ok none, if s.config.recordNoopClears then s.noteAbsent time key else s) := by
  rw [clear_of_accepted hk]
  simp only [exchange, clearKey, h]

theorem bus_clear_of_absent {s : Store} {k : KeyRef} {key : Key} (hk : s.resolve k = .ok key)
    (h : s.data[key]? = none) (time : Nat) : (clear time k s).2.bus = s.bus := by
  rw [clear_of_absent hk h]
  dsimp only
  split_ifs <;> rfl

/-- in a script as well, a clear of an absent key is not told, nor one of a key that is refused -/
theorem bus_applyStatement_of_absent {s : Store} {statement : PreparedStatement} {c : Command}
    (hc : statement.command = .ok c) (hk : c.kind = .clear) (h : s.data[c.key]? = none) (time : Nat) :
    (s.applyStatement time statement).2.bus = s.bus := by
  obtain ⟨kind, key, operand⟩ := c
  obtain rfl : kind = .clear := hk
  have happly : apply time ⟨.clear, key, operand⟩ = (fun _ => none) <$> clear time (.key key) := rfl
  rw [state_applyStatement hc, happly, map_state]
  cases hr : s.resolve (.key key) with
  | error e =>
    rw [clear_of_refused hr]
  | ok key' =>
    obtain rfl := resolve_key_eq_ok hr
    exact bus_clear_of_absent hr h time

end Store

open Attempt Engine Store

/-- **Events mirror the mapping.** Let a listener, new or old, start from what its filter covers of the mapping of a
reachable engine, and follow the events that it receives. After any actions that do not take it off the bus, it holds what
its filter covers of the mapping then. Actions and statements that fail, and clears of keys that are absent, are not told
to anyone. -/
theorem events_mirror_the_mapping {e : Engine} (h : Reachable e) :
    (∀ time filter listener, ∃ handle after, e.perform time (.subscribe filter listener) = (.ok (.count handle), after) ∧
      ∀ actions : List (Nat × Action), (∀ step ∈ actions, step.2 ≠ .unsubscribe handle) →
        (e.store.data.restrict filter).follow ((after.run actions).store.bus.received handle) =
          (after.run actions).store.data.restrict filter) ∧
    (∀ sub ∈ e.store.bus.subscriptions, ∀ actions : List (Nat × Action),
      (∀ step ∈ actions, step.2 ≠ .unsubscribe sub.handle) →
        ∃ events, Mirrors sub e.store events (e.run actions).store) ∧
    (∀ time a error after, e.perform time a = (.error error, after) → after.store.bus = e.store.bus) ∧
    (∀ time k key, e.store.resolve k = .ok key → e.store.data[key]? = none →
      ∃ after, e.perform time (.clear k) = (.ok (.prior none), after) ∧ after.store.bus = e.store.bus) ∧
    ∀ (s : Store) (time : Nat) (statement : PreparedStatement),
      (∀ error t, s.applyStatement time statement = (.failed error, t) → t.bus = s.bus) ∧
      ∀ c, statement.command = .ok c → c.kind = .clear → s.data[c.key]? = none →
        (s.applyStatement time statement).2.bus = s.bus := by
  refine ⟨fun time filter listener => ?_, fun sub hm actions ha => h.mirrors_run hm ha, fun time a error after hf => ?_,
    fun time k key hk habsent => ?_, fun s time statement => ⟨fun error t hf => ?_, fun c hc hk habsent => ?_⟩⟩
  · refine ⟨_, _, rfl, fun actions ha => ?_⟩
    have hr : Reachable (e.perform time (.subscribe filter listener)).2 := h.perform time _
    have hm : (⟨e.store.bus.nextHandle, filter, listener⟩ : Subscription) ∈
        (e.perform time (.subscribe filter listener)).2.store.bus.subscriptions :=
      List.mem_append_right _ (List.mem_singleton_self _)
    obtain ⟨events, hev⟩ := hr.mirrors_run hm ha
    have hnew : (e.perform time (.subscribe filter listener)).2.store.bus.received e.store.bus.nextHandle = [] :=
      h.soundBus.received_of_new
    have hreceived := hev.received
    rw [hnew, List.nil_append] at hreceived
    exact (congrArg _ hreceived).trans hev.data.symm
  · rw [atomic_attempt time a e error after hf]
  · refine ⟨_, map_eq_ok.2 ⟨none, onStore_eq.2 ⟨_, clear_of_absent hk habsent time, rfl⟩, rfl⟩, ?_⟩
    have hb := bus_clear_of_absent hk habsent time
    rwa [clear_of_absent hk habsent] at hb
  · rw [applyStatement_of_failed hf]
  · exact bus_applyStatement_of_absent hc hk habsent time

/-- changes of two keys, a refused key, a script with a failure and a clear of an absent key, and the way back -/
def mirroredActions : List (Nat × Action) :=
  [(2, .set (.text "env:a") "5"), (3, .save {}), (4, .importRaw [("env:b", "x")] .overwrite),
    (5, .set (.text "root:a") "1"), (6, .runScript "inc env:a 2; clear env:c; inc env:b 1" .skipAndContinue),
    (7, .clear (.text "env:a")), (8, .restore "#0")]

/-- a listener on one key that never completes a call, and that key over a run -/
theorem sample_events_mirror_the_mapping :
    let a : Key := ⟨"env", "a"⟩
    let after := (sample.perform 1 (.subscribe (.key a) fun _ _ => .panics)).2
    let events := (after.run mirroredActions).store.bus.received 0
    events = [⟨a, .set, some "5", .user⟩, ⟨a, .increment, some "7", .query⟩, ⟨a, .clear, none, .user⟩,
        ⟨a, .restore, some "5", .user⟩] ∧
      (sample.store.data.restrict (.key a)).follow events = (after.run mirroredActions).store.data.restrict (.key a) ∧
      (after.perform 2 (.set (.text "root:a") "1")).2.store.bus = after.store.bus ∧
      (after.perform 2 (.clear (.key a))).2.store.bus = after.store.bus := by
  intro a after events
  have hr : Reachable after := reachable_sample.perform 1 _
  obtain ⟨handle, after', hp, hmirror⟩ := (events_mirror_the_mapping reachable_sample).1 1 (.key a) fun _ _ => .panics
  obtain rfl : after = after' := congrArg Prod.snd hp
  obtain rfl : 0 = handle := Answer.count.inj (Except.ok.inj (congrArg Prod.fst hp))
  obtain ⟨-, -, hfailed, habsent, -⟩ := events_mirror_the_mapping hr
  have herror : (Store.set 2 (.text "root:a") "1" after.store).1 = .error (.key (.unknownScope "root")) := by
    decide +kernel
  have hrefused : after.perform 2 (.set (.text "root:a") "1") =
      (.error (.key (.unknownScope "root")), { after with store := _ }) :=
    map_eq_error.2 (onStore_eq.2 ⟨_, Prod.ext herror rfl, rfl⟩)
  obtain ⟨cleared, hclear, hbus⟩ := habsent 2 (.key a) a (by decide +kernel) (by decide +kernel)
  refine ⟨by decide +kernel, hmirror mirroredActions (by simp [mirroredActions]), ?_, ?_⟩
  · rw [hrefused, hfailed 2 _ _ _ hrefused]
  · rw [hclear, hbus]

end ScopedStore
