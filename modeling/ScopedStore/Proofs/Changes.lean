/-
From one mapping to another.

`Mapping.changes` goes through the new mapping (`updated`), then through the old one (`dropped`), and sorts what the two
passes have found. They are sorted by insertion (`sortByKey_eq`), which keeps what it is given and puts it in order; no key
is found twice (`nodup_found`), so that the order is strict. `Mapping.assignAll` gives keys their values one after the
other.
- `Mapping.mem_changes`, `Mapping.ordered_changes`: the keys that differ are told with their new values, in key order and
  each key once.
- `Mapping.assignAll_eq`: any list that tells just these leads from one mapping to the other, in whatever order.
-/
import Mathlib.Data.List.Sort
import Mathlib.Tactic
import ScopedStore.Proofs.Trail

namespace ScopedStore

/-! ## Key order -/

namespace Key

variable {α : Type} {key : α → Key} {l l' : List α}

/-- a list in key order has each key once -/
theorem nodup_of_ordered (h : l.Pairwise fun x y => compare (key x) (key y) = .lt) : (l.map key).Nodup := by
  refine List.pairwise_map.2 (h.imp fun hlt heq => ?_)
  rw [heq, Std.ReflOrd.compare_self] at hlt
  cases hlt

/-- the order of keys leaves no choice -/
theorem eq_of_ordered (h : l.Pairwise fun x y => compare (key x) (key y) = .lt)
    (h' : l'.Pairwise fun x y => compare (key x) (key y) = .lt) (hperm : l.Perm l') : l = l' := by
  refine hperm.eq_of_pairwise (fun x y _ _ hlt hgt => ?_) h h'
  rw [Std.OrientedOrd.eq_swap, hgt] at hlt
  cases hlt

/-- in key order, there is one list with given members -/
theorem ext_of_ordered (h : l.Pairwise fun x y => compare (key x) (key y) = .lt)
    (h' : l'.Pairwise fun x y => compare (key x) (key y) = .lt) (hmem : ∀ x, x ∈ l ↔ x ∈ l') : l = l' := by
  have hnodup : l.Nodup := (nodup_of_ordered h).of_map
  have hnodup' : l'.Nodup := (nodup_of_ordered h').of_map
  exact eq_of_ordered h h' ((List.perm_ext_iff_of_nodup hnodup hnodup').2 hmem)

end Key

namespace Mapping

/-! ## Assignments -/

section Assignments

variable {l : List (Key × Option String)} {k : Key}

theorem getElem?_assign (m : Mapping) (k k' : Key) (v : Option String) :
    (m.assign k v)[k']? = if k = k' then v else m[k']? := by
  by_cases h : k = k'
  · subst h
    cases v <;> simp [assign]
  · rw [if_neg h, getElem?_assign_of_ne v h]

/-- gives keys their values, or takes them out, one after the other -/
def assignAll (m : Mapping) (l : List (Key × Option String)) : Mapping := l.foldl (fun m x => m.assign x.1 x.2) m

theorem getElem?_assignAll_of_not_mem (h : k ∉ l.map Prod.fst) (m : Mapping) : (m.assignAll l)[k]? = m[k]? := by
  induction l generalizing m with
  | nil => rfl
  | cons x l ih =>
    obtain ⟨hx, hl⟩ := not_or.1 (mt List.mem_cons.2 h)
    exact (ih hl (m.assign x.1 x.2)).trans (getElem?_assign_of_ne x.2 (Ne.symm hx))

/-- where no key is assigned twice, each assignment stands -/
theorem getElem?_assignAll_of_mem {v : Option String} (hn : (l.map Prod.fst).Nodup) (h : (k, v) ∈ l) (m : Mapping) :
    (m.assignAll l)[k]? = v := by
  induction l generalizing m with
  | nil => cases h
  | cons x l ih =>
    obtain ⟨hx, hl⟩ := List.nodup_cons.1 hn
    rcases List.mem_cons.1 h with rfl | h
    · refine (getElem?_assignAll_of_not_mem hx _).trans ?_
      rw [getElem?_assign, if_pos rfl]
    · exact ih hl h (m.assign x.1 x.2)

/-- **To give the keys that differ their new values leads from one mapping to the other**, in whatever order. -/
theorem assignAll_eq {old new : Mapping} (hn : (l.map Prod.fst).Nodup)
    (hl : ∀ k v, (k, v) ∈ l ↔ new[k]? = v ∧ old[k]? ≠ v) : old.assignAll l = new := by
  refine Std.ExtTreeMap.ext_getElem? fun k => ?_
  by_cases h : old[k]? = new[k]?
  · have hfree : k ∉ l.map Prod.fst := by
      intro hk
      obtain ⟨⟨k, v⟩, hmem, rfl⟩ := List.mem_map.1 hk
      obtain ⟨rfl, hne⟩ := (hl k v).1 hmem
      exact hne h
    rw [getElem?_assignAll_of_not_mem hfree, h]
  · exact getElem?_assignAll_of_mem hn ((hl k _).2 ⟨rfl, h⟩) old

end Assignments

/-! ## Sorting -/

section Sorting

variable {l : List (Key × Option String)}

/-- the key of `x` does not come after that of `y` -/
def NotAfter (x y : Key × Option String) : Prop := (compare x.1 y.1).isLE

instance : DecidableRel NotAfter := fun x y => inferInstanceAs (Decidable ((compare x.1 y.1).isLE = true))

instance : IsTrans (Key × Option String) NotAfter := ⟨fun _ _ _ => Std.TransCmp.isLE_trans⟩

instance : Std.Total NotAfter where
  total x y := by
    unfold NotAfter
    rw [Std.OrientedOrd.eq_swap (a := y.1)]
    cases compare x.1 y.1 <;> decide

theorem insertByKey_eq (x : Key × Option String) (l : List (Key × Option String)) :
    insertByKey x l = l.orderedInsert NotAfter x := by
  induction l with
  | nil => rfl
  | cons y l ih =>
    rw [insertByKey, ih]
    rfl

/-- **Keys are sorted by insertion.** -/
theorem sortByKey_eq (l : List (Key × Option String)) : sortByKey l = l.insertionSort NotAfter := by
  induction l with
  | nil => rfl
  | cons x l ih => rw [List.insertionSort_cons, ← ih, ← insertByKey_eq, sortByKey, List.foldr_cons, sortByKey]

theorem perm_sortByKey (l : List (Key × Option String)) : (sortByKey l).Perm l := by
  rw [sortByKey_eq]
  exact List.perm_insertionSort NotAfter l

theorem sorted_sortByKey (l : List (Key × Option String)) : (sortByKey l).Pairwise NotAfter := by
  rw [sortByKey_eq]
  exact List.pairwise_insertionSort NotAfter l

/-- where no key stands twice, sorting puts them in key order -/
theorem ordered_sortByKey (hn : (l.map Prod.fst).Nodup) :
    (sortByKey l).Pairwise fun x y => compare x.1 y.1 = .lt := by
  have hkeys : ((sortByKey l).map Prod.fst).Nodup := ((perm_sortByKey l).map Prod.fst).nodup_iff.2 hn
  refine ((sorted_sortByKey l).and (List.pairwise_map.1 hkeys)).imp fun {x y} ⟨hle, hne⟩ => ?_
  cases hc : compare x.1 y.1 with
  | lt => rfl
  | eq => exact absurd (Std.LawfulEqOrd.eq_of_compare hc) hne
  | gt =>
    rw [NotAfter, hc] at hle
    cases hle

end Sorting

/-! ## Changes -/

section Changes

variable {old new : Mapping} {k : Key} {v : Option String}

theorem not_contains_iff {m : Mapping} : (!m.contains k) = true ↔ m[k]? = none := by
  rw [Std.ExtTreeMap.contains_eq_isSome_getElem?, Bool.not_eq_true', Option.isSome_eq_false_iff,
    Option.isNone_iff_eq_none]

/-- the first pass finds the keys that differ and are there in the end -/
theorem mem_updated : (k, v) ∈ updated old new ↔ (new[k]? = v ∧ old[k]? ≠ v) ∧ v ≠ none := by
  simp only [updated, List.mem_filterMap, Prod.exists, Std.ExtTreeMap.mem_toList_iff_getElem?_eq_some]
  constructor
  · rintro ⟨k', w, hnew, h⟩
    split_ifs at h with hold
    obtain ⟨rfl, rfl⟩ := Prod.mk.inj (Option.some.inj h)
    exact ⟨⟨hnew, hold⟩, nofun⟩
  · rintro ⟨⟨hnew, hold⟩, hv⟩
    obtain ⟨w, rfl⟩ := Option.ne_none_iff_exists'.1 hv
    exact ⟨k, w, hnew, if_pos hold⟩

/-- the second pass finds the keys that differ and are gone -/
theorem mem_dropped : (k, v) ∈ dropped old new ↔ (new[k]? = v ∧ old[k]? ≠ v) ∧ v = none := by
  simp only [dropped, List.mem_filterMap]
  constructor
  · rintro ⟨k', hold, h⟩
    split_ifs at h with hnew
    obtain ⟨rfl, rfl⟩ := Prod.mk.inj (Option.some.inj h)
    exact ⟨⟨not_contains_iff.1 hnew, by simpa using hold⟩, rfl⟩
  · rintro ⟨⟨hnew, hold⟩, rfl⟩
    exact ⟨k, by simpa using hold, if_pos (not_contains_iff.2 hnew)⟩

theorem ordered_updated (old new : Mapping) : (updated old new).Pairwise fun x y => compare x.1 y.1 = .lt := by
  refine List.pairwise_filterMap.2 (Std.ExtTreeMap.ordered_keys_toList.imp ?_)
  rintro ⟨k, v⟩ ⟨k', v'⟩ hlt x hx y hy
  dsimp only at hx hy
  split_ifs at hx hy
  obtain rfl := Option.some.inj hx
  obtain rfl := Option.some.inj hy
  exact hlt

theorem ordered_dropped (old new : Mapping) : (dropped old new).Pairwise fun x y => compare x.1 y.1 = .lt := by
  refine List.pairwise_filterMap.2 (Std.ExtTreeMap.ordered_keys.imp fun {k k'} hlt x hx y hy => ?_)
  split_ifs at hx hy
  obtain rfl := Option.some.inj hx
  obtain rfl := Option.some.inj hy
  exact hlt

/-- no key is found twice, be it in one of the passes or in both -/
theorem nodup_found (old new : Mapping) : ((updated old new ++ dropped old new).map Prod.fst).Nodup := by
  rw [List.map_append, List.nodup_append]
  refine ⟨Key.nodup_of_ordered (ordered_updated old new), Key.nodup_of_ordered (ordered_dropped old new), ?_⟩
  intro k hk k' hk' heq
  subst heq
  obtain ⟨⟨k, v⟩, hv, rfl⟩ := List.mem_map.1 hk
  obtain ⟨⟨k', w⟩, hw, hkeys⟩ := List.mem_map.1 hk'
  obtain rfl : k' = k := hkeys
  obtain ⟨⟨rfl, -⟩, hthere⟩ := mem_updated.1 hv
  obtain ⟨⟨hnew, -⟩, hgone⟩ := mem_dropped.1 hw
  exact hthere (hnew.trans hgone)

/-- **The keys that differ are told, with their new values.** -/
theorem mem_changes : (k, v) ∈ changes old new ↔ new[k]? = v ∧ old[k]? ≠ v := by
  rw [changes, (perm_sortByKey _).mem_iff, List.mem_append, mem_updated, mem_dropped, ← and_or_left]
  exact and_iff_left (ne_or_eq v none)

/-- a key that differs is a key of one of the mappings -/
theorem mem_or_mem_of_mem_changes (h : (k, v) ∈ changes old new) : k ∈ old ∨ k ∈ new := by
  obtain ⟨rfl, hne⟩ := mem_changes.1 h
  by_contra hno
  obtain ⟨hold, hnew⟩ := not_or.1 hno
  exact hne (by rw [Std.ExtTreeMap.getElem?_eq_none hold, Std.ExtTreeMap.getElem?_eq_none hnew])

/-- **They are told in key order**, and each key once. -/
theorem ordered_changes (old new : Mapping) : (changes old new).Pairwise fun x y => compare x.1 y.1 = .lt :=
  ordered_sortByKey (nodup_found old new)

theorem changes_self (m : Mapping) : changes m m = [] :=
  List.eq_nil_iff_forall_not_mem.2 fun _ hx => (mem_changes.1 hx).2 (mem_changes.1 hx).1

/-- **What is told leads from one mapping to the other.** -/
theorem assignAll_changes (old new : Mapping) : old.assignAll (changes old new) = new :=
  assignAll_eq (Key.nodup_of_ordered (ordered_changes old new)) fun _ _ => mem_changes

/-- a mapping with a key that stays, one that goes and one whose value changes, and what is told on the way to another -/
example :
    let old : Mapping := (((∅ : Mapping).insert ⟨"env", "b"⟩ "1").insert ⟨"env", "d"⟩ "2").insert ⟨"env", "e"⟩ "3"
    let new : Mapping := (((∅ : Mapping).insert ⟨"env", "e"⟩ "3").insert ⟨"env", "d"⟩ "4").insert ⟨"env", "a"⟩ "5"
    updated old new = [(⟨"env", "a"⟩, some "5"), (⟨"env", "d"⟩, some "4")] ∧ dropped old new = [(⟨"env", "b"⟩, none)] ∧
      changes old new = [(⟨"env", "a"⟩, some "5"), (⟨"env", "b"⟩, none), (⟨"env", "d"⟩, some "4")] := by
  decide +kernel

end Changes

end Mapping
end ScopedStore
