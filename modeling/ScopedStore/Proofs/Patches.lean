/-
Differences as patches.

`Diff.apply` carries differences out on a mapping, `Diff.swap` turns them round, and `Diff.keys` are the keys that they
name. What stands in the three lists is settled key by key in `Diff.mem_added`, `Diff.mem_removed` and `Diff.mem_changed`.
- `Diff.mem_keys`, `Diff.nodup_keys_between`: each key that differs is named, once, and no other key is.
- `Diff.apply_between`: the differences lead from one mapping to the other.
- `Diff.between_swap`: those of the way back are the same ones, turned round.

Main result, `differences_are_patches`.
-/
import Mathlib.Data.Set.Card
import ScopedStore.Proofs.Differences

namespace ScopedStore

namespace Diff

/-! ## Patches -/

/-- the keys that the differences name -/
def keys (d : Diff) : List Key := d.added.map Prod.fst ++ d.removed.map Prod.fst ++ d.changed.map ValueChange.key

/-- removed keys are taken out, changed keys get their new values, and added keys come in with theirs -/
def assignments (d : Diff) : List (Key × Option String) :=
  d.removed.map (fun x => (x.1, none)) ++ d.changed.map (fun c => (c.key, some c.newValue)) ++
    d.added.map fun x => (x.1, some x.2)

/-- the mapping after the differences -/
def apply (d : Diff) (m : Mapping) : Mapping := m.assignAll d.assignments

/-- the differences of the way back -/
def swap (d : Diff) : Diff := ⟨d.removed, d.added, d.changed.map fun c => ⟨c.key, c.newValue, c.oldValue⟩⟩

variable {old new : Mapping} {k : Key}

theorem length_keys (d : Diff) : d.keys.length = d.changeCount := by
  simp only [keys, changeCount, List.length_append, List.length_map]

theorem isEmpty_iff {d : Diff} : d.isEmpty = true ↔ d.keys = [] := by
  simp only [isEmpty, keys, Bool.and_eq_true, List.isEmpty_iff, List.append_eq_nil_iff, List.map_eq_nil_iff]

theorem keys_eq (d : Diff) : d.keys = d.reverted.map Prod.fst := by
  simp only [keys, reverted, List.map_append, List.map_map, Function.comp_def]

theorem nodup_keys_between (old new : Mapping) : (between old new).keys.Nodup := keys_eq _ ▸ nodup_keys old new

/-- **The keys that are named are those that differ.** -/
theorem mem_keys : k ∈ (between old new).keys ↔ old[k]? ≠ new[k]? := by
  rw [keys_eq, List.mem_map]
  constructor
  · rintro ⟨⟨k', v⟩, hk, rfl⟩
    obtain ⟨rfl, hne⟩ := mem_reverted.1 hk
    exact hne.symm
  · intro hne
    exact ⟨(k, old[k]?), mem_reverted.2 ⟨rfl, hne.symm⟩, rfl⟩

theorem assignments_swap (d : Diff) : d.swap.assignments.Perm d.reverted := by
  simp only [assignments, swap, reverted, List.map_map, Function.comp_def]
  rw [List.append_assoc, List.append_assoc]
  exact List.perm_append_comm.append_left _

/-! ## Turning round -/

theorem changed_swap_ordered (old new : Mapping) :
    (between old new).swap.changed.Pairwise fun c c' => compare c.key c'.key = .lt :=
  List.pairwise_map.2 (ordered_changed old new)

/-- the changes of values are the same ones, turned round: both lists are in key order, and have the same members -/
theorem changed_between_swap (old new : Mapping) : (between new old).changed = (between old new).swap.changed := by
  refine Key.ext_of_ordered (ordered_changed new old) (changed_swap_ordered old new) fun ⟨k, v, w⟩ => ?_
  simp only [swap, List.mem_map, mem_changed]
  constructor
  · rintro ⟨hnew, hold, hne⟩
    exact ⟨⟨k, w, v⟩, ⟨hold, hnew, Ne.symm hne⟩, rfl⟩
  · rintro ⟨⟨k', w', v'⟩, ⟨hold, hnew, hne⟩, heq⟩
    obtain ⟨rfl, rfl, rfl⟩ := ValueChange.mk.inj heq
    exact ⟨hnew, hold, Ne.symm hne⟩

/-- **The differences of the way back** are the same ones, turned round. -/
theorem between_swap (old new : Mapping) : between new old = (between old new).swap := by
  have hchanged := changed_between_swap old new
  have hadded : (between new old).added = (between old new).swap.added := rfl
  have hremoved : (between new old).removed = (between old new).swap.removed := rfl
  generalize between new old = d at hchanged hadded hremoved ⊢
  obtain ⟨added, removed, changed⟩ := d
  rw [Diff.mk.injEq]
  exact ⟨hadded, hremoved, hchanged⟩

/-! ## Carrying out -/

theorem assignments_perm (old new : Mapping) : (between old new).assignments.Perm (between new old).reverted := by
  have hperm := assignments_swap (between new old)
  rwa [← between_swap new old] at hperm

/-- **The differences lead from one mapping to the other.** -/
theorem apply_between (old new : Mapping) : (between old new).apply old = new := by
  have hperm := assignments_perm old new
  have hnodup : ((between old new).assignments.map Prod.fst).Nodup :=
    (hperm.map Prod.fst).nodup_iff.2 (nodup_keys new old)
  exact Mapping.assignAll_eq hnodup fun k v => hperm.mem_iff.trans mem_reverted

theorem isEmpty_between : (between old new).isEmpty = true ↔ old = new := by
  rw [isEmpty_iff, List.eq_nil_iff_forall_not_mem]
  constructor
  · intro h
    exact Std.ExtTreeMap.ext_getElem? fun k => not_not.1 (mt mem_keys.2 (h k))
  · rintro rfl k hk
    exact mem_keys.1 hk rfl

theorem changeCount_between (old new : Mapping) :
    (between old new).changeCount = {k : Key | old[k]? ≠ new[k]?}.ncard := by
  have hset : {k : Key | old[k]? ≠ new[k]?} = ((between old new).keys.toFinset : Set Key) := by
    ext k
    simp only [List.coe_toFinset, Set.mem_ofPred_eq, mem_keys]
  rw [hset, Set.ncard_coe_finset, List.toFinset_card_of_nodup (nodup_keys_between old new), length_keys]

end Diff

open Diff

/-- **Differences are patches.** Let two mappings be given.
- To carry out their differences on the first one gives the second, and to carry them out turned round on the second one
  gives the first.
- Each of the three lists is in key order, with each key once, and no key stands in two of them. They have the values of
  both mappings, as these are.
- The keys that are named are those that differ; so there are no differences just between a mapping and itself, and they
  are as many as there are such keys.
- The differences of the way back are the same ones, turned round. -/
theorem differences_are_patches (old new : Mapping) :
    let d := between old new
    d.apply old = new ∧ d.swap.apply new = old ∧
      (d.added.Pairwise fun x y => compare x.1 y.1 = .lt) ∧ (d.removed.Pairwise fun x y => compare x.1 y.1 = .lt) ∧
      (d.changed.Pairwise fun c c' => compare c.key c'.key = .lt) ∧ d.keys.Nodup ∧
      (∀ k v, (k, v) ∈ d.added ↔ old[k]? = none ∧ new[k]? = some v) ∧
      (∀ k v, (k, v) ∈ d.removed ↔ old[k]? = some v ∧ new[k]? = none) ∧
      (∀ k v w, ⟨k, v, w⟩ ∈ d.changed ↔ old[k]? = some v ∧ new[k]? = some w ∧ w ≠ v) ∧
      (∀ k, k ∈ d.keys ↔ old[k]? ≠ new[k]?) ∧ (d.isEmpty = true ↔ old = new) ∧
      d.changeCount = {k : Key | old[k]? ≠ new[k]?}.ncard ∧ between new old = d.swap := by
  intro d
  have hback : d.swap.apply new = old := by
    rw [← between_swap old new]
    exact apply_between new old
  exact ⟨apply_between old new, hback, ordered_added old new, ordered_removed old new, ordered_changed old new,
    nodup_keys_between old new, fun k v => mem_added, fun k v => mem_removed, fun k v w => mem_changed, fun k => mem_keys,
    isEmpty_between, changeCount_between old new, between_swap old new⟩

end ScopedStore
