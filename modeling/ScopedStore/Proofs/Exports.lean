/-
Exports, and importing them back.

`Store.exportRaw_perm`: an export lists the texts of the keys with their values, each key once, because keys that the
rules accept never share a text. So it gives every key the value that the key has (`Store.given_exportRaw`), and a merge
of it, into nothing or into the mapping it was made of, comes to that mapping (`Store.Merges.copy_eq_of_export`). Whether
the merge is refused is up to the keys that are there already (`Merge.run_of_free`, `Merge.run_of_present`,
`Merge.run_of_conflict`).

Main result, `exports_are_imported_back`: a fresh store of the same configuration takes over the whole mapping, whatever
the policy, and after that the same export changes nothing more.
-/
import ScopedStore.Proofs.KeyValidity
import ScopedStore.Proofs.Merging
import ScopedStore.Proofs.Tables

namespace ScopedStore

/-! ## Exports -/

namespace Store

variable {s t : Store} {k : Key} {raw value : String}

theorem mem_data_of_eq_some (h : s.data[k]? = some value) : k ∈ s.data :=
  Std.ExtTreeMap.isSome_getElem?_iff_mem.1 (by rw [h]; rfl)

/-- keys that the rules accept never share a text -/
theorem Obeys.eq_of_text_eq (h : s.Obeys) {k' : Key} (hk' : k' ∈ s.data) (htext : k.text = k'.text) : k = k' :=
  Key.eq_of_text_eq htext (h.data k' hk').wellFormed

/-- **An export has one pair a key**, its text with its value. -/
theorem exportRaw_perm (h : s.Obeys) : s.exportRaw.Perm (s.data.toList.map fun x => (x.1.text, x.2)) := by
  refine Table.toList_fill_perm (f := fun x : Key × String => x.1.text) (g := Prod.snd) ?_
  have htexts : ((s.data.toList.map Prod.fst).map Key.text).Nodup := by
    refine (Table.nodup_toList s.data).map_on fun k hk k' hk' htext => ?_
    rw [Std.ExtTreeMap.map_fst_toList_eq_keys] at hk'
    exact h.eq_of_text_eq (Std.ExtTreeMap.mem_keys.1 hk') htext
  rwa [List.map_map] at htexts

theorem mem_exportRaw (h : s.Obeys) :
    (raw, value) ∈ s.exportRaw ↔ ∃ k : Key, k.text = raw ∧ s.data[k]? = some value := by
  rw [(exportRaw_perm h).mem_iff]
  simp only [List.mem_map, Prod.exists, Prod.mk.injEq, Std.ExtTreeMap.mem_toList_iff_getElem?_eq_some]
  constructor
  · rintro ⟨k, value, hk, htext, rfl⟩
    exact ⟨k, htext, hk⟩
  · rintro ⟨k, htext, hk⟩
    exact ⟨k, value, hk, htext, rfl⟩

theorem length_exportRaw (h : s.Obeys) : s.exportRaw.length = s.data.size := by
  rw [(exportRaw_perm h).length_eq, List.length_map, Std.ExtTreeMap.length_toList]

/-- no text is listed twice -/
theorem distinct_exportRaw (s : Store) : (s.exportRaw.map Prod.fst).Nodup := Table.nodup_toList s.data.byText

/-- what an export lists is read back as keys that the mapping has -/
theorem parse_of_mem_exportRaw (h : s.Obeys) (hx : (raw, value) ∈ s.exportRaw) :
    ∃ k, s.keys.parse raw = .ok k ∧ s.data[k]? = some value := by
  obtain ⟨k, rfl, hk⟩ := (mem_exportRaw h).1 hx
  have haccepts : s.keys.Accepts k := h.data k (mem_data_of_eq_some hk)
  exact ⟨k, KeyRules.parse_eq_ok.2 ⟨rfl, haccepts⟩, hk⟩

/-- a text that is listed is read as the key that has it -/
theorem parse_eq_ok_iff_of_mem (h : s.Obeys) {x : String × String} (hx : x ∈ s.exportRaw) :
    s.keys.parse x.1 = .ok k ↔ x.1 = k.text := by
  obtain ⟨k', hparse, hk'⟩ := parse_of_mem_exportRaw h hx
  have htext : x.1 = k'.text := (KeyRules.parse_eq_ok.1 hparse).1
  rw [hparse, Except.ok.injEq, htext]
  constructor
  · rintro rfl
    rfl
  · intro heq
    exact (h.eq_of_text_eq (mem_data_of_eq_some hk') heq.symm).symm

/-- under the text of a key stands its own value -/
theorem getElem?_byText (h : s.Obeys) (k : Key) : s.data.byText[k.text]? = s.data[k]? := by
  refine Option.ext fun value => ?_
  have hlisted : (k.text, value) ∈ s.exportRaw ↔ s.data.byText[k.text]? = some value :=
    Std.ExtTreeMap.mem_toList_iff_getElem?_eq_some
  rw [← hlisted, mem_exportRaw h]
  constructor
  · rintro ⟨k', htext, hk'⟩
    rwa [h.eq_of_text_eq (mem_data_of_eq_some hk') htext.symm]
  · intro hk
    exact ⟨k, rfl, hk⟩

/-- **An export gives each key the value that it has**, once, and no value to any other key. -/
theorem given_exportRaw (h : s.Obeys) (k : Key) : s.keys.given s.exportRaw k = s.data[k]?.toList := by
  have hread : ∀ x ∈ s.exportRaw, decide (s.keys.parse x.1 = .ok k) = decide (x.1 = k.text) := fun x hx =>
    decide_eq_decide.2 (parse_eq_ok_iff_of_mem h hx)
  calc s.keys.given s.exportRaw k = (s.exportRaw.filter (·.1 = k.text)).map Prod.snd := by
        rw [KeyRules.given, List.filter_congr hread]
    _ = s.data.byText[k.text]?.toList := Table.filter_toList s.data.byText k.text
    _ = s.data[k]?.toList := by rw [getElem?_byText h]

end Store

/-! ## Merges that are not refused -/

namespace Merge

variable {rules : KeyRules} {policy : ConflictPolicy} {m : Merge} {entries : List (String × String)}

/-- entries about different keys that are not there yet are all written -/
theorem run_of_free (hfree : ∀ x ∈ entries, ∃ k, rules.parse x.1 = .ok k ∧ m.copy[k]? = none)
    (hdistinct : (entries.map Prod.fst).Nodup) : ∃ m', m.run rules policy entries = .ok m' ∧ m'.kept = m.kept := by
  induction entries generalizing m with
  | nil => exact ⟨m, rfl, rfl⟩
  | cons x entries ih =>
    obtain ⟨hx, hentries⟩ := List.forall_mem_cons.1 hfree
    obtain ⟨hnew, hdistinct⟩ := List.nodup_cons.1 hdistinct
    obtain ⟨k, hk, hcopy⟩ := hx
    rw [run_cons, step_of_ok hk, place_of_absent hcopy]
    refine ih (m := m.write k x.2) (fun y hy => ?_) hdistinct
    obtain ⟨k', hk', hcopy'⟩ := hentries y hy
    refine ⟨k', hk', ?_⟩
    -- another text is another key
    have hne : k ≠ k' := by
      rintro rfl
      have htext : x.1 = y.1 := (KeyRules.parse_eq_ok.1 hk).1.trans (KeyRules.parse_eq_ok.1 hk').1.symm
      exact hnew (htext ▸ List.mem_map_of_mem hy)
    rw [getElem?_write, if_neg hne, hcopy']

/-- entries about keys that are there all give way, or are all written -/
theorem run_of_present (hpresent : ∀ x ∈ entries, ∃ k, rules.parse x.1 = .ok k ∧ m.copy[k]?.isSome) :
    m.run rules .keepExisting entries = .ok { m with kept := m.kept + entries.length } ∧
      ∃ m', m.run rules .overwrite entries = .ok m' ∧ m'.kept = m.kept := by
  induction entries generalizing m with
  | nil => exact ⟨rfl, m, rfl, rfl⟩
  | cons x entries ih =>
    obtain ⟨⟨k, hk, hcopy⟩, hentries⟩ := List.forall_mem_cons.1 hpresent
    obtain ⟨prior, hprior⟩ := Option.isSome_iff_exists.1 hcopy
    constructor
    · rw [run_cons, step_of_ok hk, place_of_present hprior]
      refine ((ih (m := { m with kept := m.kept + 1 }) hentries).1).trans ?_
      rw [List.length_cons, Nat.add_assoc, Nat.add_comm 1]
    · rw [run_cons, step_of_ok hk, place_of_present hprior]
      refine (ih (m := m.write k x.2) fun y hy => ?_).2
      obtain ⟨k', hk', hcopy'⟩ := hentries y hy
      refine ⟨k', hk', ?_⟩
      rw [getElem?_write]
      split_ifs
      · rfl
      · exact hcopy'

/-- where conflicts are errors, the first entry about a key that is there is refused -/
theorem run_of_conflict {x : String × String} {k : Key} (hk : rules.parse x.1 = .ok k) (hcopy : m.copy[k]?.isSome)
    (entries : List (String × String)) :
    m.run rules .errorOnConflict (x :: entries) = .error (.conflict x.1) := by
  obtain ⟨prior, hprior⟩ := Option.isSome_iff_exists.1 hcopy
  rw [run_cons, step_of_ok hk, place_of_present hprior, (KeyRules.parse_eq_ok.1 hk).1]
  rfl

end Merge

namespace Store

open Attempt

variable {s t : Store} {policy : ConflictPolicy} {entries : List (String × String)} {m : Merge}

/-- an import is a merge as the system -/
theorem importRaw_of_ok (h : Merge.run s.keys policy (.start s.data) entries = .ok m) (time : Nat) :
    ∃ t, importRaw time entries policy s = (.ok ⟨m.written.length, m.kept⟩, t) ∧ t.keys = s.keys ∧ t.data = m.copy := by
  have hmerge := appendMap_of_ok (s := { s with source := .system }) h time
  refine ⟨{ commit { s with source := .system } time m with source := s.source }, ?_, rfl, rfl⟩
  simp only [importRaw, asSource, swapSource, hmerge]

theorem importRaw_of_error {e : StoreError} (h : Merge.run s.keys policy (.start s.data) entries = .error e)
    (time : Nat) : importRaw time entries policy s = (.error e, s) := by
  have hmerge := appendMap_of_error (s := { s with source := .system }) h time
  simp only [importRaw, asSource, swapSource, hmerge]

/-- merged into nothing, or into the mapping that it was made of, an export comes to that mapping -/
theorem Merges.copy_eq_of_export {time : Nat} (h : Merges t time policy s.exportRaw m) (hs : s.Obeys)
    (hkeys : t.keys = s.keys) (hdata : t.data = ∅ ∨ t.data = s.data) : m.copy = s.data := by
  refine Std.ExtTreeMap.ext_getElem? fun k => ?_
  have hgiven : t.keys.given s.exportRaw k = s.data[k]?.toList := hkeys ▸ given_exportRaw hs k
  by_cases hpolicy : policy = .overwrite
  · rw [h.overwrites hpolicy, hgiven]
    rcases hdata with hdata | hdata <;> cases hk : s.data[k]? <;> simp [hdata, hk]
  · rw [h.keeps hpolicy, hgiven]
    rcases hdata with hdata | hdata <;> cases hk : s.data[k]? <;> simp [hdata, hk]

/-! ## Fresh stores -/

/-- a store is created empty, from a consistent configuration -/
theorem create_eq_ok {config : Config} : create config = .ok s ↔ config.validate = .ok () ∧
    ∃ keys, config.keyRules = .ok keys ∧ s = { config, keys, history := { cap := config.historyMaxEntries } } := by
  unfold create
  constructor
  · intro h
    obtain ⟨_, hvalid, h⟩ := Result.bind_eq_ok.1 h
    obtain ⟨keys, hkeys, h⟩ := Result.bind_eq_ok.1 h
    exact ⟨hvalid, keys, hkeys, (Except.ok.inj h).symm⟩
  · rintro ⟨hvalid, keys, hkeys, rfl⟩
    exact Result.bind_eq_ok.2 ⟨(), hvalid, Result.bind_eq_ok.2 ⟨keys, hkeys, rfl⟩⟩

/-! ## Imports of exports -/

/-- when no pair gives way, all of them are written, and the mapping is taken over -/
theorem importRaw_exportRaw (hs : s.Obeys) (hkeys : t.keys = s.keys) (hdata : t.data = ∅ ∨ t.data = s.data)
    (hm : Merge.run t.keys policy (.start t.data) s.exportRaw = .ok m) (hkept : m.kept = 0) (time : Nat) :
    ∃ u, importRaw time s.exportRaw policy t = (.ok ⟨s.data.size, 0⟩, u) ∧ u.keys = s.keys ∧ u.data = s.data := by
  have hmerges : Merges t time policy s.exportRaw m := merges_run hm time
  have hwritten : m.written.length = s.data.size := by
    rw [← length_exportRaw hs, ← hmerges.counted, hkept, Nat.add_zero]
  obtain ⟨u, himport, hu, hcopy⟩ := importRaw_of_ok hm time
  rw [hwritten, hkept] at himport
  exact ⟨u, himport, hu.trans hkeys, hcopy.trans (hmerges.copy_eq_of_export hs hkeys hdata)⟩

/-- into a store that has no key yet, all pairs are written -/
theorem importRaw_exportRaw_of_empty (hs : s.Obeys) (hkeys : t.keys = s.keys) (hdata : t.data = ∅) (time : Nat)
    (policy : ConflictPolicy) : ∃ u, importRaw time s.exportRaw policy t = (.ok ⟨s.data.size, 0⟩, u) ∧
      u.keys = s.keys ∧ u.data = s.data := by
  have hfree : ∀ x ∈ s.exportRaw, ∃ k, t.keys.parse x.1 = .ok k ∧ (Merge.start t.data).copy[k]? = none := by
    rintro ⟨raw, value⟩ hx
    obtain ⟨k, hk, -⟩ := parse_of_mem_exportRaw hs hx
    refine ⟨k, hkeys ▸ hk, ?_⟩
    rw [Merge.start, hdata, Std.ExtTreeMap.getElem?_empty]
  have hrun : ∃ m, Merge.run t.keys policy (.start t.data) s.exportRaw = .ok m ∧ m.kept = 0 :=
    Merge.run_of_free hfree s.distinct_exportRaw
  obtain ⟨m, hm, hkept⟩ := hrun
  exact importRaw_exportRaw hs hkeys (.inl hdata) hm hkept time

/-- the store has the mapping of `s`, and importing the export of `s` does not change that -/
structure Reproduces (s t : Store) : Prop where
  data : t.data = s.data
  keep : ∀ time, ∃ u, importRaw time s.exportRaw .keepExisting t = (.ok ⟨0, s.data.size⟩, u) ∧ u.data = s.data
  overwrite : ∀ time, ∃ u, importRaw time s.exportRaw .overwrite t = (.ok ⟨s.data.size, 0⟩, u) ∧ u.data = s.data
  /-- where conflicts are errors, the first pair is refused, if there is one -/
  refuse : ∀ time, s.data ≠ ∅ → ∃ x, s.exportRaw.head? = some x ∧
    importRaw time s.exportRaw .errorOnConflict t = (.error (.conflict x.1), t)
  /-- there is nothing to be refused -/
  nothing : ∀ time, s.data = ∅ → importRaw time s.exportRaw .errorOnConflict t = (.ok ⟨0, 0⟩, t)

theorem reproduces_of_data_eq (hs : s.Obeys) (hkeys : t.keys = s.keys) (hdata : t.data = s.data) :
    Reproduces s t := by
  have hpresent : ∀ x ∈ s.exportRaw, ∃ k, t.keys.parse x.1 = .ok k ∧ (Merge.start t.data).copy[k]?.isSome := by
    rintro ⟨raw, value⟩ hx
    obtain ⟨k, hk, hvalue⟩ := parse_of_mem_exportRaw hs hx
    refine ⟨k, hkeys ▸ hk, ?_⟩
    rw [Merge.start, hdata, hvalue]
    rfl
  obtain ⟨hkeep, m, hm, hkept⟩ := Merge.run_of_present hpresent
  refine ⟨hdata, fun time => ?_, fun time => ?_, fun time hne => ?_, fun time hempty => ?_⟩
  · obtain ⟨u, himport, -, hcopy⟩ := importRaw_of_ok hkeep time
    rw [length_exportRaw hs, Merge.start, Nat.zero_add] at himport
    exact ⟨u, himport, hcopy.trans hdata⟩
  · obtain ⟨u, himport, -, hu⟩ := importRaw_exportRaw hs hkeys (.inr hdata) hm hkept time
    exact ⟨u, himport, hu⟩
  · cases hexport : s.exportRaw with
    | nil =>
      have hsize : s.data.size = 0 := by rw [← length_exportRaw hs, hexport, List.length_nil]
      exact absurd (Std.ExtTreeMap.eq_empty_iff_size_eq_zero.2 hsize) hne
    | cons x entries =>
      obtain ⟨k, hk, hcopy⟩ := hpresent x (hexport ▸ List.mem_cons_self)
      exact ⟨x, rfl, importRaw_of_error (Merge.run_of_conflict hk hcopy entries) time⟩
  · have hexport : s.exportRaw = [] := by
      rw [← List.length_eq_zero_iff, length_exportRaw hs, hempty, Std.ExtTreeMap.size_empty]
    rw [hexport]
    rfl

end Store

/-! ## Main result -/

open Engine Store

/-- **Exports are imported back.** The store of an engine that was created and has carried out any actions exports one
pair for each of its keys, because its keys have different texts. From its configuration another store can be created, and
whatever the policy, importing the export there writes every pair, and gives that store the same mapping. To import the
export once more changes nothing in the mapping, and where conflicts are errors it is refused, unless it is empty. -/
theorem exports_are_imported_back {e : Engine} (h : Reachable e) :
    (∀ k ∈ e.store.data, ∀ k' ∈ e.store.data, k.text = k'.text → k = k') ∧
      e.store.exportRaw.length = e.store.data.size ∧
      (∀ raw value, (raw, value) ∈ e.store.exportRaw ↔ ∃ k : Key, k.text = raw ∧ e.store.data[k]? = some value) ∧
      ∃ fresh, Store.create e.store.config = .ok fresh ∧ ∀ time policy, ∃ t,
        importRaw time e.store.exportRaw policy fresh = (.ok ⟨e.store.data.size, 0⟩, t) ∧ Reproduces e.store t := by
  have hs : e.store.Obeys := h.obeys.store
  refine ⟨fun k _ k' hk' htext => hs.eq_of_text_eq hk' htext, length_exportRaw hs, fun raw value => mem_exportRaw hs, ?_⟩
  obtain ⟨fresh, hfresh, hkeys, hempty⟩ :
      ∃ fresh, Store.create e.store.config = .ok fresh ∧ fresh.keys = e.store.keys ∧ fresh.data = ∅ :=
    ⟨_, Store.create_eq_ok.2 ⟨h.consistent, e.store.keys, h.inv.rules, rfl⟩, rfl, rfl⟩
  refine ⟨fresh, hfresh, fun time policy => ?_⟩
  obtain ⟨t, himport, hkeys, hdata⟩ := importRaw_exportRaw_of_empty hs hkeys hempty time policy
  exact ⟨t, himport, reproduces_of_data_eq hs hkeys hdata⟩

/-- `sampleConfig` with two scopes, of which one starts like the other -/
def twinConfig : Config := { sampleConfig with allowedScopes := .ofList ["a", "a1"] }

/-- the key rules of `twinConfig` -/
def twinKeys : KeyRules := { sampleKeys with scopes := twinConfig.allowedScopes }

/-- the engine that `twinConfig` describes -/
def twin : Engine where
  store := { config := twinConfig, keys := twinKeys }
  savepoints := { policy := twinConfig.autoSavepoint }
  dialect := .ofRules twinConfig twinKeys

theorem reachable_twin : Reachable twin := by
  have hvalid : twinConfig.validate = .ok () := by decide +kernel
  have hkeys : twinConfig.keyRules = .ok twinKeys :=
    Config.keyRules_eq_ok.2 ⟨(Config.keyRules_eq_ok.1 reachable_sample.inv.rules).1, rfl⟩
  exact .create (Engine.create_eq_ok.2 ⟨hvalid, twinKeys, hkeys, rfl⟩)

/-- keys whose texts are in the opposite order -/
def twinActions : List (Nat × Action) := [(1, .set (.key ⟨"a", "x"⟩) "1"), (2, .set (.key ⟨"a1", "x"⟩) "2")]

theorem twin_exports_are_imported_back :
    let s := (twin.run twinActions).store
    s.data.toList = [(⟨"a", "x"⟩, "1"), (⟨"a1", "x"⟩, "2")] ∧ s.exportRaw = [("a1:x", "2"), ("a:x", "1")] ∧
      ∃ fresh t, Store.create s.config = .ok fresh ∧
        importRaw 3 s.exportRaw .errorOnConflict fresh = (.ok ⟨2, 0⟩, t) ∧ t.data = s.data ∧
        importRaw 4 s.exportRaw .errorOnConflict t = (.error (.conflict "a1:x"), t) := by
  intro s
  have hr : Reachable (twin.run twinActions) := reachable_twin.run twinActions
  have hexport : s.exportRaw = [("a1:x", "2"), ("a:x", "1")] := by decide +kernel
  have hsize : s.data.size = 2 := by decide +kernel
  refine ⟨by decide +kernel, hexport, ?_⟩
  obtain ⟨-, -, -, fresh, hfresh, himport⟩ := exports_are_imported_back hr
  obtain ⟨t, ht, hreproduces⟩ := himport 3 .errorOnConflict
  have hne : s.data ≠ ∅ := fun hempty => by simp [hempty] at hsize
  obtain ⟨x, hx, hrefused⟩ := hreproduces.refuse 4 hne
  obtain rfl : ("a1:x", "2") = x := Option.some.inj ((congrArg List.head? hexport).symm.trans hx)
  exact ⟨fresh, t, hfresh, hsize ▸ ht, hreproduces.data, hrefused⟩

end ScopedStore
