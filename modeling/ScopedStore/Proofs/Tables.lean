/-
Tables that are filled entry by entry, each entry under its name.

Of the entries under one name the last one stays (`Table.getElem?_fill`). Where entries under one name never differ, the
table has what any of them says (`Table.getElem?_fill_eq_some`), and where no two have the same name it has all of them
(`Table.toList_fill_perm`).
-/
import Mathlib.Tactic
import Std.Data.ExtTreeMap.Lemmas

namespace ScopedStore.Table

variable {α β : Type}

/-- the table of entries that are filed under `f` with the value `g` -/
def fill (f : α → String) (g : α → β) (entries : List α) : Std.ExtTreeMap String β :=
  entries.foldl (fun t x => t.insert (f x) (g x)) ∅

variable {f : α → String} {g : α → β} {entries : List α} {name : String} {value : β}

/-- a table lists no key twice -/
theorem nodup_toList {κ : Type} [Ord κ] [Std.TransOrd κ] [Std.LawfulEqOrd κ] (t : Std.ExtTreeMap κ β) :
    (t.toList.map Prod.fst).Nodup := by
  rw [Std.ExtTreeMap.map_fst_toList_eq_keys]
  exact Std.ExtTreeMap.nodup_keys

/-- when no two entries have the same name, at most one of them has a given one -/
theorem filter_eq_toList_find? {κ : Type} [DecidableEq κ] {f : α → κ} (hdistinct : (entries.map f).Nodup) (name : κ) :
    entries.filter (f · = name) = (entries.find? (f · = name)).toList := by
  induction entries with
  | nil => rfl
  | cons x entries ih =>
    rw [List.map_cons, List.nodup_cons] at hdistinct
    obtain ⟨hnew, hrest⟩ := hdistinct
    by_cases hx : f x = name
    · have hnone : entries.filter (f · = name) = [] := by
        refine List.filter_eq_nil_iff.2 fun y hy hname => hnew ?_
        rw [hx, ← of_decide_eq_true hname]
        exact List.mem_map_of_mem hy
      simp [hx, hnone]
    · simpa [hx] using ih hrest

/-- under each name a table lists the value that it has there -/
theorem filter_toList (t : Std.ExtTreeMap String β) (name : String) :
    (t.toList.filter (·.1 = name)).map Prod.snd = t[name]?.toList := by
  rw [filter_eq_toList_find? (nodup_toList t)]
  cases hfind : t.toList.find? (·.1 = name) with
  | none =>
    have hnone : t[name]? = none := by
      refine Option.eq_none_iff_forall_ne_some.2 fun value hvalue => ?_
      exact List.find?_eq_none.1 hfind (name, value) (Std.ExtTreeMap.mem_toList_iff_getElem?_eq_some.2 hvalue) (by simp)
    rw [hnone]
    rfl
  | some x =>
    obtain ⟨name', value⟩ := x
    obtain rfl : name' = name := by simpa using List.find?_some hfind
    have hvalue : t[name']? = some value :=
      Std.ExtTreeMap.mem_toList_iff_getElem?_eq_some.1 (List.mem_of_find?_eq_some hfind)
    rw [hvalue]
    rfl

theorem fill_concat (f : α → String) (g : α → β) (entries : List α) (x : α) :
    fill f g (entries ++ [x]) = (fill f g entries).insert (f x) (g x) := List.foldl_concat ..

theorem getElem?_fill (f : α → String) (g : α → β) (entries : List α) (name : String) :
    (fill f g entries)[name]? = (entries.reverse.find? (f · = name)).map g := by
  induction entries using List.reverseRecOn with
  | nil => exact Std.ExtTreeMap.getElem?_empty
  | append_singleton entries x ih =>
    rw [fill_concat, Std.ExtTreeMap.getElem?_insert, ih, List.reverse_concat, List.find?_cons]
    by_cases hx : f x = name <;> simp [hx]

theorem getElem?_fill_eq_some (hagree : ∀ x ∈ entries, ∀ y ∈ entries, f x = f y → g x = g y) :
    (fill f g entries)[name]? = some value ↔ ∃ x ∈ entries, f x = name ∧ g x = value := by
  rw [getElem?_fill]
  constructor
  · intro h
    obtain ⟨x, hfind, hvalue⟩ := Option.map_eq_some_iff.1 h
    exact ⟨x, List.mem_reverse.1 (List.mem_of_find?_eq_some hfind), by simpa using List.find?_some hfind, hvalue⟩
  · rintro ⟨x, hx, rfl, rfl⟩
    have hsome : (entries.reverse.find? (f · = f x)).isSome :=
      List.find?_isSome.2 ⟨x, List.mem_reverse.2 hx, by simp⟩
    obtain ⟨y, hfind⟩ := Option.isSome_iff_exists.1 hsome
    have hy : y ∈ entries := List.mem_reverse.1 (List.mem_of_find?_eq_some hfind)
    -- the entry that is found may be another one, which says the same
    have hname : f y = f x := by simpa using List.find?_some hfind
    rw [hfind, Option.map_some, hagree y hy x hx hname]

theorem toList_fill_perm (hdistinct : (entries.map f).Nodup) :
    (fill f g entries).toList.Perm (entries.map fun x => (f x, g x)) := by
  have hagree : ∀ x ∈ entries, ∀ y ∈ entries, f x = f y → g x = g y := fun x hx y hy hname =>
    congrArg g (List.inj_on_of_nodup_map hdistinct hx hy hname)
  have hentries : ((entries.map fun x => (f x, g x)).map Prod.fst).Nodup := by rwa [List.map_map]
  refine (List.perm_ext_iff_of_nodup (nodup_toList _).of_map hentries.of_map).2 fun ⟨name, value⟩ => ?_
  rw [Std.ExtTreeMap.mem_toList_iff_getElem?_eq_some, getElem?_fill_eq_some hagree, List.mem_map]
  simp only [Prod.mk.injEq]

end ScopedStore.Table
