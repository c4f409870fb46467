/-
Restores and differences.

Differences are listed by `Diff.between`, and told after a restore by `Mapping.changes`, which goes the other way and
keeps all of them in one list. `Diff.reverted` is what going back over differences does to each key. It is characterised
key by key (`Diff.mem_reverted`), as what is told is (`Mapping.mem_changes`), and neither lists a key twice, so that they
agree (`Mapping.changes_perm_reverted`).

Main result, `restores_agree_with_differences`: a restore counts and tells the differences from its savepoint, in key
order, and leaves none.
-/
import ScopedStore.Proofs.Mirror

namespace ScopedStore

namespace Diff

/-! ## Lists of differences -/

/-- what going back over differences does: new keys are taken out, and the others get their old values -/
def reverted (d : Diff) : List (Key × Option String) :=
  d.added.map (fun x => (x.1, none)) ++ d.removed.map (fun x => (x.1, some x.2)) ++
    d.changed.map (fun c => (c.key, some c.oldValue))

theorem length_reverted (d : Diff) : d.reverted.length = d.changeCount := by
  simp only [reverted, changeCount, List.length_append, List.length_map]

variable {old new : Mapping} {k : Key} {v : String}

theorem mem_added : (k, v) ∈ (between old new).added ↔ old[k]? = none ∧ new[k]? = some v := by
  rw [between, List.mem_filter, Std.ExtTreeMap.mem_toList_iff_getElem?_eq_some, Mapping.not_contains_iff, and_comm]

theorem mem_removed : (k, v) ∈ (between old new).removed ↔ old[k]? = some v ∧ new[k]? = none := by
  rw [between, List.mem_filter, Std.ExtTreeMap.mem_toList_iff_getElem?_eq_some, Mapping.not_contains_iff]

theorem change?_eq_some {c : ValueChange} :
    change? new k v = some c ↔ new[k]? = some c.newValue ∧ c.newValue ≠ v ∧ k = c.key ∧ v = c.oldValue := by
  obtain ⟨key, oldValue, newValue⟩ := c
  unfold change?
  cases new[k]? with
  | none => simp
  | some new =>
    by_cases h : new = v
    · simp only [if_pos h]
      grind
    · grind

theorem mem_changed {c : ValueChange} : c ∈ (between old new).changed ↔
    old[c.key]? = some c.oldValue ∧ new[c.key]? = some c.newValue ∧ c.newValue ≠ c.oldValue := by
  simp only [between, List.mem_filterMap, Prod.exists, change?_eq_some, Std.ExtTreeMap.mem_toList_iff_getElem?_eq_some]
  constructor
  · rintro ⟨k, v, hold, hnew, hne, rfl, rfl⟩
    exact ⟨hold, hnew, hne⟩
  · rintro ⟨hold, hnew, hne⟩
    exact ⟨c.key, c.oldValue, hold, hnew, hne, rfl, rfl⟩

/-- **Going back over the differences between two mappings concerns the keys that differ.** -/
theorem mem_reverted {v : Option String} :
    (k, v) ∈ (between old new).reverted ↔ old[k]? = v ∧ new[k]? ≠ v := by
  simp only [reverted, List.mem_append, List.mem_map, Prod.mk.injEq]
  constructor
  · rintro ((⟨⟨k', added⟩, hx, rfl, rfl⟩ | ⟨⟨k', removed⟩, hx, rfl, rfl⟩) | ⟨c, hc, rfl, rfl⟩)
    · obtain ⟨hold, hnew⟩ := mem_added.1 hx
      exact ⟨hold, hnew ▸ nofun⟩
    · obtain ⟨hold, hnew⟩ := mem_removed.1 hx
      exact ⟨hold, hnew ▸ nofun⟩
    · obtain ⟨hold, hnew, hne⟩ := mem_changed.1 hc
      exact ⟨hold, hnew ▸ fun h => hne (Option.some.inj h)⟩
  · rintro ⟨rfl, hne⟩
    cases hold : old[k]? with
    | none =>
      obtain ⟨added, hnew⟩ := Option.ne_none_iff_exists'.1 (hold ▸ hne)
      exact .inl (.inl ⟨(k, added), mem_added.2 ⟨hold, hnew⟩, rfl, rfl⟩)
    | some value =>
      cases hnew : new[k]? with
      | none => exact .inl (.inr ⟨(k, value), mem_removed.2 ⟨hold, hnew⟩, rfl, rfl⟩)
      | some value' =>
        have hvalues : value' ≠ value := fun h => hne (by rw [hold, hnew, h])
        exact .inr ⟨⟨k, value, value'⟩, mem_changed.2 ⟨hold, hnew, hvalues⟩, rfl, rfl⟩

/-! ## Order -/

theorem ordered_added (old new : Mapping) :
    (between old new).added.Pairwise fun x y => compare x.1 y.1 = .lt := Std.ExtTreeMap.ordered_keys_toList.filter _

theorem ordered_removed (old new : Mapping) :
    (between old new).removed.Pairwise fun x y => compare x.1 y.1 = .lt := Std.ExtTreeMap.ordered_keys_toList.filter _

theorem ordered_changed (old new : Mapping) :
    (between old new).changed.Pairwise fun c c' => compare c.key c'.key = .lt := by
  refine List.pairwise_filterMap.2 (Std.ExtTreeMap.ordered_keys_toList.imp fun {x y} hlt c hc c' hc' => ?_)
  obtain ⟨-, -, hx, -⟩ := change?_eq_some.1 hc
  obtain ⟨-, -, hy, -⟩ := change?_eq_some.1 hc'
  exact hx ▸ hy ▸ hlt

/-- no key is listed twice, be it in one of the lists or in two of them -/
theorem nodup_keys (old new : Mapping) : ((between old new).reverted.map Prod.fst).Nodup := by
  have hadded : ((between old new).added.map Prod.fst).Nodup :=
    Key.nodup_of_ordered (ordered_added old new)
  have hremoved : ((between old new).removed.map Prod.fst).Nodup :=
    Key.nodup_of_ordered (ordered_removed old new)
  have hchanged : ((between old new).changed.map ValueChange.key).Nodup :=
    Key.nodup_of_ordered (ordered_changed old new)
  have hkeys : (between old new).reverted.map Prod.fst = (between old new).added.map Prod.fst ++
      (between old new).removed.map Prod.fst ++ (between old new).changed.map ValueChange.key := by
    simp only [reverted, List.map_append, List.map_map, Function.comp_def]
  rw [hkeys, List.nodup_append, List.nodup_append]
  simp only [List.mem_append, List.mem_map]
  refine ⟨⟨hadded, hremoved, ?_⟩, hchanged, ?_⟩
  · rintro k ⟨⟨_, added⟩, hx, rfl⟩ k' ⟨⟨_, removed⟩, hy, rfl⟩ rfl
    cases (mem_added.1 hx).1.symm.trans (mem_removed.1 hy).1
  · rintro k (⟨⟨_, added⟩, hx, rfl⟩ | ⟨⟨_, removed⟩, hx, rfl⟩) k' ⟨c, hc, rfl⟩ rfl
    · cases (mem_added.1 hx).1.symm.trans (mem_changed.1 hc).1
    · cases (mem_removed.1 hx).2.symm.trans (mem_changed.1 hc).2.1

end Diff

/-- **Differences are told as they are listed**, in another order. -/
theorem Mapping.changes_perm_reverted (old new : Mapping) : (changes new old).Perm (Diff.between old new).reverted := by
  have hchanges : (changes new old).Nodup := by
    have hkeys : ((changes new old).map Prod.fst).Nodup :=
      Key.nodup_of_ordered (ordered_changes new old)
    exact hkeys.of_map
  -- neither list has a key twice, so it is enough that they have the same members
  refine (List.perm_ext_iff_of_nodup hchanges (Diff.nodup_keys old new).of_map).2 fun ⟨k, v⟩ => ?_
  rw [mem_changes, Diff.mem_reverted]

/-- between a mapping and itself there are no differences -/
theorem Diff.between_self (m : Mapping) : between m m = ⟨[], [], []⟩ := by
  have hperm := Mapping.changes_perm_reverted m m
  rw [Mapping.changes_self] at hperm
  have hnone : (between m m).reverted = [] := hperm.nil_eq.symm
  generalize between m m = d at hnone
  obtain ⟨added, removed, changed⟩ := d
  simp only [reverted, List.append_eq_nil_iff, List.map_eq_nil_iff] at hnone
  obtain ⟨⟨rfl, rfl⟩, rfl⟩ := hnone
  rfl

/-! ## Restores -/

/-- the event about a key that a restore gives another value, or takes out -/
def Event.restored (x : Key × Option String) : Event := ⟨x.1, .restore, x.2, .user⟩

namespace Store

/-- going back to `saved` leads from `s` to `t`: it is entered once, and told in key order for what differs, each key
once, as `told` has it -/
structure GoesBack (s : Store) (time : Nat) (saved : Mapping) (told : List (Key × Option String)) (t : Store) :
    Prop where
  data : t.data = saved
  history : t.history = s.history.append ⟨.user, time⟩ ⟨.restore, none, none, none⟩
  bus : s.bus.Tells (told.map Event.restored) t.bus
  listed : told.Perm (Diff.between saved s.data).reverted
  ordered : told.Pairwise fun x y => compare x.1 y.1 = .lt
  alters : ∀ {k : Key} {v : Option String}, (k, v) ∈ told ↔ t.data[k]? = v ∧ s.data[k]? ≠ v

theorem goesBack_restoreMapping {s : Store} (h : s.source = .user) (time : Nat) (saved : Mapping) :
    GoesBack s time saved (Mapping.changes s.data saved) (s.restoreMapping time saved).2 where
  data := rfl
  history := by rw [← h]; rfl
  bus := by
    have htells := tells_announce s.source (Mapping.changes s.data saved) s.bus
    rw [h] at htells
    unfold restoreMapping
    rw [h]
    exact htells
  listed := Mapping.changes_perm_reverted saved s.data
  ordered := Mapping.ordered_changes s.data saved
  alters := Mapping.mem_changes

theorem restoreMapping_self {s : Store} (h : s.source = .user) (time : Nat) :
    s.restoreMapping time s.data =
      (0, { s with history := s.history.append ⟨.user, time⟩ ⟨.restore, none, none, none⟩ }) := by
  unfold restoreMapping
  rw [Mapping.changes_self, h]
  rfl

end Store

namespace Engine

open Attempt

theorem perform_diffSavepoint {e : Engine} {id : String} {found : Savepoint} (h : e.savepoints.get? id = some found)
    (time : Nat) :
    e.perform time (.diffSavepoint id) = (.ok (.diff (Diff.between found.snapshot e.store.data)), e) := by
  refine map_eq_ok.2 ⟨_, look_eq.2 ⟨?_, rfl⟩, rfl⟩
  rw [diffSavepoint, savepoint, h]
  rfl

end Engine

/-! ## Main result -/

open Engine Store

/-- **Restores agree with differences.** Take a live savepoint of a reachable engine. The differences from it to the
current mapping are as many as going back to it counts, and going back tells the listeners, in key order and each key
once, that added keys are gone, and that removed and changed keys have their old values; these keys are the ones that
change, and each listener hears of those that it covers. Then there is no difference left, and going back once more
enters that in the history, counts nothing and tells no one. -/
theorem restores_agree_with_differences {e : Engine} (h : Reachable e) {id : String}
    (hlive : id ∈ e.savepoints.live.map (·.info.id)) (time : Nat) :
    ∃ found d told after, found ∈ e.savepoints.live ∧ found.info.id = id ∧
      d = Diff.between found.snapshot e.store.data ∧
      e.perform time (.diffSavepoint id) = (.ok (.diff d), e) ∧
      e.perform time (.restore id) = (.ok (.count d.changeCount), { e with store := after }) ∧
      GoesBack e.store time found.snapshot told after ∧
      (∀ sub ∈ e.store.bus.subscriptions, after.bus.received sub.handle =
        e.store.bus.received sub.handle ++ (told.map Event.restored).filter (sub.filter.covers ·.key)) ∧
      ∀ later, perform { e with store := after } later (.diffSavepoint id) =
          (.ok (.diff ⟨[], [], []⟩), { e with store := after }) ∧
        perform { e with store := after } later (.restore id) = (.ok (.count 0), { e with store := { after with
          history := after.history.append ⟨.user, later⟩ ⟨.restore, none, none, none⟩ } }) := by
  have hsome : (e.savepoints.get? id).isSome := by
    obtain ⟨x, hx, hid⟩ := List.mem_map.1 hlive
    exact List.find?_isSome.2 ⟨x, hx, by simpa using hid⟩
  obtain ⟨found, hfound⟩ := Option.isSome_iff_exists.1 hsome
  have hback := goesBack_restoreMapping h.inv.user time found.snapshot
  generalize hafter : (e.store.restoreMapping time found.snapshot).2 = after at hback
  have hcount : (e.store.restoreMapping time found.snapshot).1 =
      (Diff.between found.snapshot e.store.data).changeCount := by
    rw [← Diff.length_reverted, ← hback.listed.length_eq]
    rfl
  have hrestore := perform_restore hfound time
  rw [hcount, hafter] at hrestore
  have huser : after.source = .user := by rw [← hafter, ← h.inv.user]; rfl
  have hkept : { e with store := after }.savepoints.get? id = some found := hfound
  refine ⟨found, _, _, after, List.mem_of_find?_eq_some hfound, by simpa using List.find?_some hfound, rfl,
    perform_diffSavepoint hfound time, hrestore, hback, fun sub hsub => hback.bus.received h.soundBus hsub, fun later =>
    ⟨?_, ?_⟩⟩
  · rw [perform_diffSavepoint hkept later, hback.data, Diff.between_self]
  · rw [perform_restore hkept later, ← hback.data, restoreMapping_self huser later]

/-- the sample engine with a listener, something to go back to, and changes of all kinds since then -/
def changedSample : Engine :=
  sample.run [(1, .subscribe (.scope "env") fun _ _ => .fails), (2, .set (.text "env:b") "1"),
    (3, .set (.text "env:d") "2"), (4, .set (.text "env:e") "3"), (5, .save {}), (6, .set (.text "env:d") "4"),
    (7, .clear (.text "env:b")), (8, .set (.text "env:a") "5"), (9, .set (.text "env:c") "6")]

/-- what has changed -/
def sampleDiff : Diff :=
  ⟨[(⟨"env", "a"⟩, "5"), (⟨"env", "c"⟩, "6")], [(⟨"env", "b"⟩, "1")], [⟨⟨"env", "d"⟩, "2", "4"⟩]⟩

/-- keys that are gone, back, and back to their old value are told together, in key order -/
theorem sample_restores_agree_with_differences :
    changedSample.perform 10 (.diffSavepoint "#0") = (.ok (.diff sampleDiff), changedSample) ∧
      ∃ after, changedSample.perform 10 (.restore "#0") = (.ok (.count 4), { changedSample with store := after }) ∧
        changedSample.store.bus.Tells [⟨⟨"env", "a"⟩, .restore, none, .user⟩, ⟨⟨"env", "b"⟩, .restore, some "1", .user⟩,
          ⟨⟨"env", "c"⟩, .restore, none, .user⟩, ⟨⟨"env", "d"⟩, .restore, some "2", .user⟩] after.bus ∧
        ∃ again, perform { changedSample with store := after } 11 (.restore "#0") = (.ok (.count 0), again) ∧
          again.store.bus = after.bus := by
  have hreachable : Reachable changedSample := reachable_sample.run _
  have hlive : "#0" ∈ changedSample.savepoints.live.map (·.info.id) := by decide +kernel
  obtain ⟨found, d, told, after, -, -, rfl, hdiff, hrestore, hback, -, hlater⟩ :=
    restores_agree_with_differences hreachable hlive 10
  have hanswer : changedSample.diffSavepoint "#0" = .ok sampleDiff := by decide +kernel
  have hsame : Diff.between found.snapshot changedSample.store.data = sampleDiff := by
    have hresult : (changedSample.perform 10 (.diffSavepoint "#0")).1 =
        (changedSample.diffSavepoint "#0").map Answer.diff :=
      Attempt.map_result (Attempt.look (Engine.diffSavepoint · "#0")) Answer.diff changedSample
    rw [hdiff, hanswer] at hresult
    exact Answer.diff.inj (Except.ok.inj hresult)
  rw [hsame] at hdiff hrestore
  have hlisted := hback.listed
  rw [hsame] at hlisted
  have htold : told =
      [(⟨"env", "a"⟩, none), (⟨"env", "b"⟩, some "1"), (⟨"env", "c"⟩, none), (⟨"env", "d"⟩, some "2")] :=
    Key.eq_of_ordered hback.ordered (by decide +kernel) (hlisted.trans (by decide +kernel))
  have hbus := hback.bus
  rw [htold] at hbus
  exact ⟨hdiff, after, hrestore, hbus, _, (hlater 11).2, rfl⟩

end ScopedStore
