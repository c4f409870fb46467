/-
Clears by a predicate.

Such a clear collects the keys that the predicate holds of, and takes them out one after the other. `Store.Clears`
says what that leaves behind: the pairs are gone and all others stay, and each pair is entered and told in turn. So
it is for one pair (`Store.clears_remove`), and then for all of them (`Store.clears_removeAll`), because to take out
one key leaves the others as they were found.

Main result, `clears_take_out_what_matches`: a clear by a predicate, or of an allowed scope, counts, takes out,
enters and tells exactly the pairs with a matching key, in key order; a savepoint from just before brings them back;
and a scope that is not allowed is refused.
-/
import ScopedStore.Proofs.Differences
import ScopedStore.Proofs.Undo
import ScopedStore.Proofs.Window

namespace ScopedStore

/-- the change that is entered when a pair is taken out -/
def Change.cleared (x : Key × String) : Change := ⟨.clear, some x.1, some x.2, none⟩

/-- the event that is told of it -/
def Event.cleared (source : Source) (x : Key × String) : Event := ⟨x.1, .clear, none, source⟩

/-! ## Matching pairs -/

namespace Mapping

/-- the pairs whose key the predicate holds of, in key order -/
def matching (m : Mapping) (p : Key → Bool) : List (Key × String) := m.toList.filter fun x => p x.1

variable {m : Mapping} {p : Key → Bool} {k : Key} {v : String}

theorem mem_matching : (k, v) ∈ m.matching p ↔ p k ∧ m[k]? = some v := by
  rw [matching, List.mem_filter, Std.ExtTreeMap.mem_toList_iff_getElem?_eq_some, and_comm]

theorem ordered_matching (m : Mapping) (p : Key → Bool) :
    (m.matching p).Pairwise fun x y => compare x.1 y.1 = .lt := Std.ExtTreeMap.ordered_keys_toList.filter _

theorem keys_matching (m : Mapping) (p : Key → Bool) : (m.matching p).map Prod.fst = m.keys.filter p := by
  rw [matching, ← Std.ExtTreeMap.map_fst_toList_eq_keys, List.filter_map]
  rfl

/-- a key is one of a matching pair when the predicate holds of it and it has a value -/
theorem mem_keys_matching : k ∈ (m.matching p).map Prod.fst ↔ p k ∧ m[k]?.isSome := by
  rw [keys_matching, List.mem_filter, Std.ExtTreeMap.mem_keys, Std.ExtTreeMap.isSome_getElem?_iff_mem, and_comm]

end Mapping

/-! ## Taking out pairs -/

namespace Store

/-- from `s` to `t`, the pairs `gone` are taken out of the mapping one after the other; each is entered and told -/
structure Clears (s : Store) (time : Nat) (gone : List (Key × String)) (t : Store) : Prop extends Frame s t where
  data : ∀ k, t.data[k]? = if k ∈ gone.map Prod.fst then none else s.data[k]?
  history : t.history = s.history.record (gone.map fun x => (⟨s.source, time⟩, .cleared x))
  bus : s.bus.Tells (gone.map (Event.cleared s.source)) t.bus

variable {s t u : Store} {time : Nat} {gone later : List (Key × String)}

theorem Clears.refl (s : Store) (time : Nat) : Clears s time [] s := ⟨.refl s, fun _ => rfl, rfl, .refl s.bus⟩

theorem Clears.append (h : Clears s time gone t) (h' : Clears t time later u) : Clears s time (gone ++ later) u where
  toFrame := h.toFrame.trans h'.toFrame
  data k := by
    simp only [h'.data, h.data, List.map_append, List.mem_append]
    by_cases hgone : k ∈ gone.map Prod.fst
    · simp only [hgone, true_or, if_true, ite_self]
    · simp only [hgone, false_or, if_false]
  history := by rw [h'.history, h.history, h.source, List.map_append, History.record_append]
  bus := by
    have hbus := h'.bus
    rw [h.source] at hbus
    rw [List.map_append]
    exact h.bus.append hbus

theorem clears_remove (s : Store) (time : Nat) (k : Key) (v : String) :
    Clears s time [(k, v)] (s.remove time k v) where
  toFrame := ⟨rfl, rfl, rfl⟩
  data k' := by
    have herase : (s.data.erase k)[k']? = if k = k' then none else s.data[k']? :=
      Mapping.getElem?_assign s.data k k' none
    refine herase.trans (if_congr ?_ rfl rfl)
    rw [List.map_singleton, List.mem_singleton, eq_comm]
  history := rfl
  bus := EventBus.tells_dispatch s.bus _

theorem removeAll_cons {k : Key} {v : String} (hk : s.data[k]? = some v) (time : Nat) (ks : List Key) :
    s.removeAll time (k :: ks) = (s.remove time k v).removeAll time ks := by
  rw [removeAll, List.foldl_cons, hk]
  rfl

/-- **Pairs of the mapping are taken out one after the other.** -/
theorem clears_removeAll (hkeys : (gone.map Prod.fst).Nodup) (hpairs : ∀ x ∈ gone, s.data[x.1]? = some x.2)
    (time : Nat) : Clears s time gone (s.removeAll time (gone.map Prod.fst)) := by
  induction gone generalizing s with
  | nil => exact .refl s time
  | cons x gone ih =>
    obtain ⟨hnew, hkeys⟩ := List.nodup_cons.1 hkeys
    obtain ⟨hx, hpairs⟩ := List.forall_mem_cons.1 hpairs
    have hfirst := clears_remove s time x.1 x.2
    have hrest : ∀ y ∈ gone, (s.remove time x.1 x.2).data[y.1]? = some y.2 := by
      intro y hy
      have hne : y.1 ≠ x.1 := fun he => hnew (he ▸ List.mem_map_of_mem hy)
      rw [hfirst.data, if_neg (by simpa using hne), hpairs y hy]
    rw [List.map_cons, removeAll_cons hx]
    exact hfirst.append (ih hkeys hrest)

/-! ## Clears by a predicate -/

/-- from `s` to `t`, what `p` holds of is cleared; `gone` are the pairs with such keys, in key order -/
structure ClearsWhere (s : Store) (time : Nat) (p : Key → Bool) (gone : List (Key × String)) (t : Store) : Prop extends
    Clears s time gone t where
  ordered : gone.Pairwise fun x y => compare x.1 y.1 = .lt
  pairs : ∀ k v, (k, v) ∈ gone ↔ p k ∧ s.data[k]? = some v
  left : ∀ k, t.data[k]? = if p k then none else s.data[k]?

theorem clearWhere_eq (s : Store) (time : Nat) (p : Key → Bool) :
    s.clearWhere time p = ((s.data.matching p).length, s.removeAll time ((s.data.matching p).map Prod.fst)) := by
  rw [clearWhere, ← Mapping.keys_matching, List.length_map]

/-- **A clear by a predicate takes out the matching pairs.** -/
theorem clearsWhere_clearWhere (s : Store) (time : Nat) (p : Key → Bool) :
    ClearsWhere s time p (s.data.matching p) (s.clearWhere time p).2 := by
  have hkeys : ((s.data.matching p).map Prod.fst).Nodup :=
    Key.nodup_of_ordered (Mapping.ordered_matching s.data p)
  have hclears := clears_removeAll hkeys (fun x hx => (Mapping.mem_matching.1 hx).2) time
  rw [clearWhere_eq]
  refine ⟨hclears, Mapping.ordered_matching s.data p, fun k v => Mapping.mem_matching, fun k => ?_⟩
  rw [hclears.data]
  by_cases hp : p k
  · cases hk : s.data[k]? with
    | none => rw [ite_self, ite_self]
    | some v => rw [if_pos (Mapping.mem_keys_matching.2 ⟨hp, hk ▸ rfl⟩), if_pos hp]
  · rw [if_neg fun hk => hp (Mapping.mem_keys_matching.1 hk).1, if_neg hp]

/-- to go back over a clear, every pair that was taken out is told with its value -/
theorem ClearsWhere.changes_back {p : Key → Bool} (h : ClearsWhere s time p gone t) :
    Mapping.changes t.data s.data = gone.map fun x => (x.1, some x.2) := by
  refine Key.ext_of_ordered (Mapping.ordered_changes t.data s.data) (List.pairwise_map.2 h.ordered) fun ⟨k, v⟩ => ?_
  rw [Mapping.mem_changes, h.left]
  constructor
  · rintro ⟨rfl, hne⟩
    by_cases hp : p k
    · rw [if_pos hp] at hne
      obtain ⟨value, hk⟩ := Option.ne_none_iff_exists'.1 hne.symm
      exact List.mem_map.2 ⟨(k, value), (h.pairs k value).2 ⟨hp, hk⟩, by rw [hk]⟩
    · exact absurd (if_neg hp) hne
  · intro hx
    obtain ⟨⟨k', value⟩, hgone, hx⟩ := List.mem_map.1 hx
    obtain ⟨rfl, rfl⟩ := Prod.mk.inj hx
    obtain ⟨hp, hk⟩ := (h.pairs k' value).1 hgone
    rw [if_pos hp]
    exact ⟨hk, nofun⟩

theorem ClearsWhere.count_back {p : Key → Bool} (h : ClearsWhere s time p gone t) (later : Nat) :
    (t.restoreMapping later s.data).1 = gone.length := by
  rw [restoreMapping, h.changes_back, List.length_map]

/-- a clear leaves no key that the predicate holds of -/
theorem ClearsWhere.filter_keys {p : Key → Bool} (h : ClearsWhere s time p gone t) : t.data.keys.filter p = [] := by
  refine List.filter_eq_nil_iff.2 fun k hk hp => ?_
  have hvalue := Std.ExtTreeMap.isSome_getElem?_iff_mem.2 (Std.ExtTreeMap.mem_keys.1 hk)
  rw [h.left, if_pos hp] at hvalue
  cases hvalue

end Store

/-! ## Clears of an engine -/

namespace Engine

open Attempt Store

variable {e : Engine} {a : Action} {p : Key → Bool} {time : Nat}

/-- the action is to clear what `p` holds of, by a predicate or by an allowed scope -/
inductive Action.Clears (config : Config) : Action → (Key → Bool) → Prop where
  | byPredicate (p : Key → Bool) : Clears config (.clearWhere p) p
  | byScope {scope : String} (allowed : scope ∈ config.allowedScopes) :
      Clears config (.clearScope scope) (·.scope = scope)

theorem Inv.allows_iff (h : e.Inv) (scope : String) :
    e.store.keys.allows scope ↔ scope ∈ e.store.config.allowedScopes := by
  rw [KeyRules.allows, (Config.keyRules_eq_ok.1 h.rules).2]
  exact Std.ExtTreeSet.contains_iff_mem

theorem perform_clearWhere (e : Engine) (time : Nat) (p : Key → Bool) :
    e.perform time (.clearWhere p) =
      (.ok (.count (e.store.clearWhere time p).1), { e with store := (e.store.clearWhere time p).2 }) := by
  have hwhere : e.perform time (.clearWhere p) = _ := perform_onStore rfl e
  exact hwhere

theorem perform_clearScope (h : e.Inv) {scope : String} (hs : scope ∈ e.store.config.allowedScopes) (time : Nat) :
    e.perform time (.clearScope scope) = e.perform time (.clearWhere (·.scope = scope)) := by
  have hstore : clearScope time scope e.store = exchange (·.clearWhere time (·.scope = scope)) e.store :=
    look_bind_of_ok (if_pos ((h.allows_iff scope).2 hs))
  have hscope : e.perform time (.clearScope scope) = _ := perform_onStore rfl e
  rw [hscope, hstore]
  exact (perform_clearWhere e time _).symm

theorem perform_clearScope_of_unknown (h : e.Inv) {scope : String} (hs : scope ∉ e.store.config.allowedScopes)
    (time : Nat) : e.perform time (.clearScope scope) = (.error (.key (.unknownScope scope)), e) := by
  have hstore : clearScope time scope e.store = (.error (.key (.unknownScope scope)), e.store) :=
    look_bind_of_error (if_neg fun ha => hs ((h.allows_iff scope).1 ha))
  have hscope : e.perform time (.clearScope scope) = _ := perform_onStore rfl e
  rw [hscope, hstore]
  rfl

/-- a clear counts the pairs that it takes out -/
theorem Inv.perform_clears (h : e.Inv) (ha : a.Clears e.store.config p) (time : Nat) :
    e.perform time a =
      (.ok (.count (e.store.data.matching p).length), { e with store := (e.store.clearWhere time p).2 }) := by
  have hwhere := perform_clearWhere e time p
  rw [clearWhere_eq] at hwhere ⊢
  cases ha with
  | byPredicate p => exact hwhere
  | byScope hs => exact (perform_clearScope h hs time).trans hwhere

end Engine

/-! ## Main result -/

open Engine Store

/-- **Clears take out what matches.** In a reachable engine, clear what a predicate holds of, or an allowed scope.
- The answer counts the pairs with such a key. They are gone and all others stay; each is entered as a clear with the
  value that it had, and told, in key order; a listener hears of those that it covers.
- When there are none, the store stays as it is.
- With a savepoint from just before, of an id that no other has, going back brings all of them back and counts them.
- No key of a cleared scope is left. A scope that is not allowed is refused, and nothing changes. -/
theorem clears_take_out_what_matches {e : Engine} (h : Reachable e) (time : Nat) :
    (∀ a p, Action.Clears e.store.config a p → ∃ gone after,
      e.perform time a = (.ok (.count gone.length), { e with store := after }) ∧
      e.store.ClearsWhere time p gone after ∧
      (∀ sub ∈ e.store.bus.subscriptions, after.bus.received sub.handle =
        e.store.bus.received sub.handle ++ (gone.map (Event.cleared .user)).filter (sub.filter.covers ·.key)) ∧
      (gone = [] → after = e.store) ∧
      (Function.Injective e.savepoints.ids → ∀ options, ∃ id saved,
        e.perform time (.save options) = (.ok (.text id), saved) ∧
        ∀ t later, ∃ back, (saved.perform t a).2.perform later (.restore id) = (.ok (.count gone.length), back) ∧
          back.store.data = e.store.data)) ∧
    ∀ scope,
      (scope ∈ e.store.config.allowedScopes → (e.perform time (.clearScope scope)).2.store.keysInScope scope = []) ∧
      (scope ∉ e.store.config.allowedScopes →
        e.perform time (.clearScope scope) = (.error (.key (.unknownScope scope)), e)) := by
  refine ⟨fun a p ha => ?_, fun scope => ⟨fun hs => ?_, fun hs => perform_clearScope_of_unknown h.inv hs time⟩⟩
  · have hclears := clearsWhere_clearWhere e.store time p
    refine ⟨_, _, h.inv.perform_clears ha time, hclears, fun sub hsub => ?_, fun hnone => ?_, fun hids options => ?_⟩
    · have hreceived := hclears.bus.received h.soundBus hsub
      rwa [h.inv.user] at hreceived
    · rw [clearWhere_eq, hnone]
      rfl
    · let made := e.savepoints.createManual e.store.data options time
      let saved : Engine := { e with savepoints := made.2 }
      have hsaved : saved.Inv := h.inv.perform time (.save options)
      refine ⟨made.1, saved, rfl, fun t later => ?_⟩
      rw [hsaved.perform_clears ha t, ← (clearsWhere_clearWhere e.store t p).count_back later]
      exact ⟨_, perform_restore_of_push (h.numbered hids) hids rfl later, rfl⟩
  · rw [h.inv.perform_clears (.byScope hs) time]
    exact (clearsWhere_clearWhere e.store time _).filter_keys

/-- three keys, and a listener for one of them -/
def threeKeys : Engine :=
  sample.run [(1, .subscribe (.key ⟨"env", "c"⟩) fun _ _ => .fails), (2, .set (.text "env:c") "3"),
    (3, .set (.text "env:a") "1"), (4, .set (.text "env:b") "2")]

/-- two of the keys are cleared, in key order, and brought back; a foreign scope is refused -/
theorem sample_clears_take_out_what_matches :
    let a : Key := ⟨"env", "a"⟩
    let b : Key := ⟨"env", "b"⟩
    let c : Key := ⟨"env", "c"⟩
    let p (k : Key) : Bool := k ≠ b
    (∃ after, threeKeys.perform 5 (.clearWhere p) = (.ok (.count 2), { threeKeys with store := after }) ∧
      after.data[a]? = none ∧ after.data[b]? = some "2" ∧ after.data[c]? = none ∧
      after.history = threeKeys.store.history.record
        [(⟨.user, 5⟩, ⟨.clear, some a, some "1", none⟩), (⟨.user, 5⟩, ⟨.clear, some c, some "3", none⟩)] ∧
      threeKeys.store.bus.Tells [⟨a, .clear, none, .user⟩, ⟨c, .clear, none, .user⟩] after.bus) ∧
    (∃ id saved back, threeKeys.perform 5 (.save {}) = (.ok (.text id), saved) ∧
      (saved.perform 6 (.clearWhere p)).2.perform 7 (.restore id) = (.ok (.count 2), back) ∧
      back.store.data = threeKeys.store.data) ∧
    threeKeys.perform 5 (.clearScope "root") = (.error (.key (.unknownScope "root")), threeKeys) := by
  intro a b c p
  have hreachable : Reachable threeKeys := reachable_sample.run _
  obtain ⟨hclears, hscope⟩ := clears_take_out_what_matches hreachable 5
  obtain ⟨gone, after, hperform, hwhere, -, -, hback⟩ := hclears _ _ (.byPredicate p)
  have hdata : threeKeys.store.data.toList = [(a, "1"), (b, "2"), (c, "3")] := by decide +kernel
  have hb : threeKeys.store.data[b]? = some "2" := by decide +kernel
  obtain rfl : gone = [(a, "1"), (c, "3")] := by
    refine Key.ext_of_ordered hwhere.ordered (by decide +kernel) fun ⟨k, v⟩ => ?_
    rw [hwhere.pairs, ← Std.ExtTreeMap.mem_toList_iff_getElem?_eq_some, hdata]
    have hne : a ≠ b ∧ c ≠ b := by decide
    grind
  have hids : threeKeys.savepoints.ids = SavepointInfo.numberedId := (reachable_sample.inv.settled_run _).ids
  obtain ⟨id, saved, hsave, hrestore⟩ := hback (hids ▸ SavepointInfo.numberedId_injective) {}
  obtain ⟨back, hrestore, hsame⟩ := hrestore 6 7
  have hhistory := hwhere.history
  have hbus := hwhere.bus
  rw [hreachable.inv.user] at hhistory hbus
  exact ⟨⟨after, hperform, hwhere.left a, (hwhere.left b).trans hb, hwhere.left c, hhistory, hbus⟩,
    ⟨id, saved, back, hsave, hrestore, hsame⟩, (hscope "root").2 (by decide +kernel)⟩

end ScopedStore
