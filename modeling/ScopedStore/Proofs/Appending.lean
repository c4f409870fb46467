/-
Adding items one by one.

Lists and sets are treated as one: a `CompoundKind` says which items are kept (`CompoundKind.keep`), which action adds
one item (`Action.append`) and which one gives all of them (`Action.put`).
- `CompoundNotation.not_refuses_of_decodeList`: what was read from a text can be written again.
- `Store.append_of_refuses`, `Store.append_of_not_refuses`: one append, by the item and by what the key held.
- `Engine.run_appends`: after appends to an absent key, it has the raw text of all items together.
- `Engine.run_again`: an item that was added to a set can be added again without a change.
- `appends_add_items`: all of this for lists and sets of a reachable engine. `empty_text_empties_a_set` is the one case
  in which a set loses an item.
-/
import ScopedStore.Proofs.CompoundText
import ScopedStore.Proofs.Invariant
import ScopedStore.Proofs.KeyRules

namespace ScopedStore

/-! ## Items that cannot be written -/

namespace CompoundNotation

/-- the item holds the delimiter, and nothing marks it -/
def Refuses (n : CompoundNotation) (item : String) : Prop :=
  ∃ delimiter, n = .delimited delimiter none ∧ delimiter ∈ item.toList

variable {n : CompoundNotation} {items : List String}

/-- a list can be written when each of its items can -/
theorem exists_encodeList : (∃ raw, n.encodeList items = .ok raw) ↔ ∀ x ∈ items, ¬n.Refuses x := by
  cases h : n.encodeList items with
  | ok raw =>
    simp only [Except.ok.injEq, exists_eq', true_iff]
    rintro x hx ⟨delimiter, rfl, hd⟩
    obtain ⟨y, hy⟩ : ∃ y, items.find? (delimiter ∈ ·.toList) = some y :=
      Option.isSome_iff_exists.1 (List.find?_isSome.2 ⟨x, hx, decide_eq_true hd⟩)
    rw [encodeList_eq_error.2 ⟨delimiter, y, rfl, hy, rfl⟩] at h
    cases h
  | error err =>
    obtain ⟨delimiter, item, hn, hitem, -⟩ := encodeList_eq_error.1 h
    simp only [reduceCtorEq, exists_false, false_iff, not_forall, not_not]
    exact ⟨item, List.mem_of_find?_eq_some hitem, delimiter, hn, by simpa using List.find?_some hitem⟩

/-- without an escape, the items are the pieces between the delimiters -/
theorem splitItems_none (delimiter : Char) (cs : List Char) :
    splitItems delimiter none cs = some (Text.pieces delimiter cs) := by
  induction cs with
  | nil => rfl
  | cons c cs ih =>
    by_cases hc : c = delimiter
    · subst hc
      rw [splitItems_delimiter (Option.some_ne_none c).symm, ih]
      simp [Text.pieces]
    · obtain ⟨piece, rest, hp, hpc⟩ := Text.pieces_eq_head_tail delimiter c cs hc
      rw [splitItems_plain hc (Option.some_ne_none c).symm, ih, hp, hpc]
      rfl

/-- items that do not start with an empty one are all read back -/
theorem readBack_of_head? (h : n ≠ .jsonArray → items.head? ≠ some "") : n.readBack items = items :=
  if_neg fun ⟨hn, hitems⟩ => h hn (hitems ▸ rfl)

/-- **What was read from a text can be written again.** -/
theorem not_refuses_of_decodeList {raw : String} (h : n.decodeList raw = .ok items) : ∀ x ∈ items, ¬n.Refuses x := by
  rintro x hx ⟨delimiter, rfl, hd⟩
  unfold decodeList at h
  split_ifs at h with hraw
  · obtain rfl := Except.ok.inj h
    cases hx
  · simp only [splitItems_none, Except.ok.injEq] at h
    subst h
    obtain ⟨piece, hpiece, rfl⟩ := List.mem_map.1 hx
    rw [String.toList_ofList] at hd
    exact Text.separator_notMem_of_mem_pieces hpiece hd

end CompoundNotation

/-! ## Lists and sets as one -/

namespace CompoundKind

/-- the items that are kept: a set keeps first occurrences -/
def keep : CompoundKind → List String → List String
  | .list, items => items
  | .set, items => Text.dedupe items

/-- how an append is recorded -/
def operation : CompoundKind → Operation
  | .list => .listAppend
  | .set => .setAppend

variable {kind : CompoundKind} {items : List String} {x : String}

@[simp] theorem mem_keep : x ∈ kind.keep items ↔ x ∈ items := by
  cases kind with
  | list => rfl
  | set => exact Text.mem_dedupe

@[simp] theorem keep_keep : kind.keep (kind.keep items) = kind.keep items := by
  cases kind with
  | list => rfl
  | set => exact Text.dedupe_dedupe items

theorem keep_keep_append : kind.keep (kind.keep items ++ [x]) = kind.keep (items ++ [x]) := by
  cases kind with
  | list => rfl
  | set => exact Text.dedupe_dedupe_append items x

/-- the first item is always kept -/
theorem head?_keep : (kind.keep items).head? = items.head? := by
  cases kind with
  | list => rfl
  | set =>
    rw [keep, Text.dedupe_eq_eraseDups]
    cases items with
    | nil => rfl
    | cons x items => rw [List.eraseDups_cons]; rfl

end CompoundKind

/-! ## One append -/

namespace Store

open Attempt

/-- the items of that kind in a raw text, which may be absent -/
def contents (s : Store) (kind : CompoundKind) (old : Option String) : Except StoreError (List String) :=
  (s.listOf old).map kind.keep

theorem contents_list (s : Store) (old : Option String) : s.contents .list old = s.listOf old := by
  unfold contents
  cases s.listOf old <;> rfl

theorem contents_set (s : Store) (old : Option String) : s.contents .set old = s.setOf old := by
  cases old with
  | none => rfl
  | some raw =>
    simp only [contents, listOf, setOf, CompoundNotation.decodeSet]
    cases s.compound.decodeList raw <;> rfl

/-- what is written is what is read back -/
theorem contents_of_encodeList {s : Store} (hn : s.compound.Admitted) {kind : CompoundKind} {items : List String}
    {raw : String} (h : s.compound.encodeList (kind.keep items) = .ok raw) :
    s.contents kind (some raw) = .ok (s.compound.readBack (kind.keep items)) := by
  cases kind with
  | list =>
    rw [contents_list, listOf, CompoundNotation.decodeList_encodeList hn h]
    rfl
  | set =>
    rw [contents_set, setOf, CompoundNotation.decodeSet_encodeSet hn h]
    rfl

/-- a list or set that was read holds what it keeps -/
theorem keep_of_contents {s : Store} {kind : CompoundKind} {old : Option String} {items : List String}
    (h : s.contents kind old = .ok items) : kind.keep items = items := by
  obtain ⟨list, -, rfl⟩ := Result.map_eq_ok.1 h
  exact CompoundKind.keep_keep

/-- items of a list or set can be written again -/
theorem not_refuses_of_contents {s : Store} {kind : CompoundKind} {old : Option String} {items : List String}
    (h : s.contents kind old = .ok items) : ∀ x ∈ items, ¬s.compound.Refuses x := by
  obtain ⟨list, hlist, rfl⟩ := Result.map_eq_ok.1 h
  intro x hx
  rw [CompoundKind.mem_keep] at hx
  cases old with
  | none =>
    obtain rfl := Except.ok.inj hlist
    cases hx
  | some raw => exact CompoundNotation.not_refuses_of_decodeList (Result.mapError_eq_ok.1 hlist) x hx

variable {s : Store} {k : KeyRef} {key : Key}

theorem getList_eq (hk : s.resolve k = .ok key) : s.getList k = s.contents .list s.data[key]? := by
  rw [contents_list, getList, getRaw, hk]
  rfl

theorem getSet_eq (hk : s.resolve k = .ok key) : s.getSet k = s.contents .set s.data[key]? := by
  rw [contents_set, getSet, getRaw, hk]
  rfl

/-- adds an item to a list or set -/
def append (time : Nat) : CompoundKind → KeyRef → String → Attempt Store String
  | .list => listAppend time
  | .set => setAppend time

/-- gives a key a list or set -/
def put (time : Nat) : CompoundKind → KeyRef → List String → Attempt Store Unit
  | .list => setList time
  | .set => setSet time

/-- the raw text of a list or set with one more item -/
def appended (kind : CompoundKind) (x : String) (s : Store) (key : Key) : Except StoreError String := do
  let items ← s.contents kind s.data[key]?
  (s.compound.encodeList (kind.keep (items ++ [x]))).mapError .coercion

theorem append_eq_revise (time : Nat) (kind : CompoundKind) (k : KeyRef) (x : String) :
    append time kind k x = revise time kind.operation k (appended kind x) := by
  cases kind with
  | list =>
    unfold appended
    simp only [contents_list]
    rfl
  | set =>
    unfold appended
    simp only [contents_set]
    rfl

theorem appended_eq {kind : CompoundKind} {items : List String} (hitems : s.contents kind s.data[key]? = .ok items)
    (x : String) :
    appended kind x s key = (s.compound.encodeList (kind.keep (items ++ [x]))).mapError .coercion := by
  rw [appended, hitems]
  rfl

/-- **An append fails when the item is refused**, whatever was there before; the store stays as it is. -/
theorem append_of_refuses {kind : CompoundKind} {items : List String} {x : String} (hk : s.resolve k = .ok key)
    (hitems : s.contents kind s.data[key]? = .ok items) (hx : s.compound.Refuses x) (time : Nat) :
    ∃ error, append time kind k x s = (.error error, s) := by
  cases hraw : s.compound.encodeList (kind.keep (items ++ [x])) with
  | ok raw =>
    refine absurd hx (CompoundNotation.exists_encodeList.1 ⟨raw, hraw⟩ x ?_)
    simp
  | error err =>
    refine ⟨.coercion err, ?_⟩
    rw [append_eq_revise]
    exact revise_of_error hk ((appended_eq hitems x).trans (by rw [hraw]; rfl)) time kind.operation

/-- **Any other append gives the key the text of its items and the new one.** -/
theorem append_of_not_refuses {kind : CompoundKind} {items : List String} {x : String} (hk : s.resolve k = .ok key)
    (hitems : s.contents kind s.data[key]? = .ok items) (hx : ¬s.compound.Refuses x) :
    ∃ raw, s.compound.encodeList (kind.keep (items ++ [x])) = .ok raw ∧
      ∀ time, append time kind k x s = (.ok raw, s.write time kind.operation key raw) := by
  have hall : ∀ y ∈ kind.keep (items ++ [x]), ¬s.compound.Refuses y := by
    intro y hy
    rw [CompoundKind.mem_keep, List.mem_append, List.mem_singleton] at hy
    rcases hy with hy | rfl
    · exact not_refuses_of_contents hitems y hy
    · exact hx
  obtain ⟨raw, hraw⟩ := CompoundNotation.exists_encodeList.2 hall
  refine ⟨raw, hraw, fun time => ?_⟩
  rw [append_eq_revise]
  exact revise_of_ok hk ((appended_eq hitems x).trans (Result.mapError_eq_ok.2 hraw)) time kind.operation

/-- the raw text of a list or set -/
def written (kind : CompoundKind) (items : List String) (s : Store) : Except StoreError String :=
  (s.compound.encodeList (kind.keep items)).mapError .coercion

theorem put_of_ok {kind : CompoundKind} {items : List String} {raw : String} (hk : s.resolve k = .ok key)
    (hraw : s.compound.encodeList (kind.keep items) = .ok raw) (time : Nat) :
    put time kind k items s = (.ok (), s.write time .set key raw) := by
  have hkey : s.resolve (.key key) = .ok key :=
    Result.mapError_eq_ok.2 (KeyRules.resolve_key (KeyRules.accepts_of_resolve (Result.mapError_eq_ok.1 hk)))
  have hset : set time (.key key) raw s = (.ok (), s.write time .set key raw) :=
    bind_eq_ok.2 ⟨raw, _, revise_of_ok hkey rfl time .set, rfl⟩
  have hwritten : written kind items s = .ok raw := Result.mapError_eq_ok.2 hraw
  have hput : put time kind k items s = (look (written kind items) >>= fun raw => set time (.key key) raw) s := by
    cases kind with
    | list => exact look_bind_of_ok hk
    | set => exact look_bind_of_ok hk
  exact hput.trans ((look_bind_of_ok hwritten).trans hset)

theorem data_write (s : Store) (time : Nat) (operation : Operation) (key : Key) (raw : String) :
    (s.write time operation key raw).data[key]? = some raw := Std.ExtTreeMap.getElem?_insert_self

end Store

namespace Engine

open Attempt

/-- the action that adds an item to a list or set -/
def Action.append : CompoundKind → KeyRef → String → Action
  | .list => .listAppend
  | .set => .setAppend

/-- the action that gives a key a list or set -/
def Action.put : CompoundKind → KeyRef → List String → Action
  | .list => .setList
  | .set => .setSet

variable {e : Engine} {k : KeyRef} {key : Key} {kind : CompoundKind} {items : List String} {x : String}

theorem Settled.compound {e' : Engine} (h : Settled e e') : e'.store.compound = e.store.compound :=
  congrArg Config.compoundNotation h.config

theorem perform_append {time : Nat} {r : Except StoreError String} {s : Store}
    (h : Store.append time kind k x e.store = (r, s)) :
    e.perform time (.append kind k x) = (r.map .text, { e with store := s }) := by
  have hp : e.perform time (.append kind k x) = (.text <$> onStore (Store.append time kind k x)) e := by
    cases kind <;> rfl
  rw [hp]
  cases r with
  | ok raw => exact map_eq_ok.2 ⟨raw, onStore_eq.2 ⟨s, h, rfl⟩, rfl⟩
  | error error => exact map_eq_error.2 (onStore_eq.2 ⟨s, h, rfl⟩)

theorem perform_put {time : Nat} {s : Store} (h : Store.put time kind k items e.store = (.ok (), s)) :
    e.perform time (.put kind k items) = (.ok .unit, { e with store := s }) := by
  have hp : e.perform time (.put kind k items) = ((fun _ => .unit) <$> onStore (Store.put time kind k items)) e := by
    cases kind <;> rfl
  rw [hp]
  exact map_eq_ok.2 ⟨(), onStore_eq.2 ⟨s, h, rfl⟩, rfl⟩

theorem perform_append_of_not_refuses (hk : e.store.resolve k = .ok key)
    (hitems : e.store.contents kind e.store.data[key]? = .ok items) (hx : ¬e.store.compound.Refuses x) :
    ∃ raw, e.store.compound.encodeList (kind.keep (items ++ [x])) = .ok raw ∧ ∀ time,
      e.perform time (.append kind k x) =
        (.ok (.text raw), { e with store := e.store.write time kind.operation key raw }) := by
  obtain ⟨raw, hraw, happend⟩ := Store.append_of_not_refuses hk hitems hx
  exact ⟨raw, hraw, fun time => perform_append (happend time)⟩

/-- an append fails when the item is refused, and then leaves the engine as it was -/
theorem perform_append_of_refuses (hk : e.store.resolve k = .ok key)
    (hitems : e.store.contents kind e.store.data[key]? = .ok items) (hx : e.store.compound.Refuses x) (time : Nat) :
    ∃ error, e.perform time (.append kind k x) = (.error error, e) := by
  obtain ⟨error, happend⟩ := Store.append_of_refuses hk hitems hx time
  exact ⟨error, perform_append happend⟩

/-- **Appends fail for what the item holds, not for what the key holds.** -/
theorem append_fails_iff (hk : e.store.resolve k = .ok key)
    (hitems : e.store.contents kind e.store.data[key]? = .ok items) (time : Nat) :
    (∃ error, (e.perform time (.append kind k x)).1 = .error error) ↔ e.store.compound.Refuses x := by
  constructor
  · rintro ⟨error, herror⟩
    by_contra hx
    obtain ⟨raw, -, happend⟩ := perform_append_of_not_refuses hk hitems hx
    rw [happend time] at herror
    cases herror
  · intro hx
    obtain ⟨error, happend⟩ := perform_append_of_refuses hk hitems hx time
    exact ⟨error, congrArg Prod.fst happend⟩

/-- what a key holds after an append -/
theorem contents_of_append (hn : e.store.compound.Admitted) (hk : e.store.resolve k = .ok key)
    (hitems : e.store.contents kind e.store.data[key]? = .ok items) {time : Nat} {answer : Answer} {e' : Engine}
    (h : e.perform time (.append kind k x) = (.ok answer, e')) :
    e'.store.resolve k = .ok key ∧ e'.store.contents kind e'.store.data[key]? =
      .ok (e.store.compound.readBack (kind.keep (items ++ [x]))) := by
  by_cases hx : e.store.compound.Refuses x
  · obtain ⟨error, happend⟩ := perform_append_of_refuses hk hitems hx time
    rw [happend] at h
    cases congrArg Prod.fst h
  · obtain ⟨raw, hraw, happend⟩ := perform_append_of_not_refuses hk hitems hx
    obtain ⟨-, rfl⟩ := Prod.mk.inj ((happend time).symm.trans h)
    refine ⟨hk, ?_⟩
    rw [Store.data_write]
    exact Store.contents_of_encodeList hn hraw

/-! ## Many appends -/

/-- one more append: as long as the items do not start with an empty one, all of them are kept -/
theorem append_to_items (hn : e.store.compound.Admitted) (hk : e.store.resolve k = .ok key)
    (hitems : e.store.contents kind e.store.data[key]? = .ok (kind.keep items)) (hx : ¬e.store.compound.Refuses x)
    (hhead : e.store.compound ≠ .jsonArray → (items ++ [x]).head? ≠ some "") (time : Nat) :
    let after := (e.perform time (.append kind k x)).2
    after.store.contents kind after.store.data[key]? = .ok (kind.keep (items ++ [x])) ∧
      ∃ raw, e.store.compound.encodeList (kind.keep (items ++ [x])) = .ok raw ∧ after.store.data[key]? = some raw := by
  intro after
  obtain ⟨raw, hraw, happend⟩ := perform_append_of_not_refuses hk hitems hx
  have hdata : after.store.data[key]? = some raw := by
    simp only [after, happend time]
    exact Store.data_write ..
  have hread : e.store.compound.readBack (kind.keep (items ++ [x])) = kind.keep (items ++ [x]) := by
    refine CompoundNotation.readBack_of_head? fun hj => ?_
    rw [CompoundKind.head?_keep]
    exact hhead hj
  have hcontents := (contents_of_append hn hk hitems (happend time)).2
  rw [CompoundKind.keep_keep_append] at hraw hcontents
  rw [hread] at hcontents
  exact ⟨by simpa only [after, happend time] using hcontents, raw, hraw, hdata⟩

/-- **Appending one by one is giving all at once**, for a key that is absent. -/
theorem run_appends (hi : Inv e) (hn : e.store.compound.Admitted) (hk : e.store.resolve k = .ok key)
    (habsent : e.store.data[key]? = none) (kind : CompoundKind) (steps : List (Nat × String))
    (hall : ∀ step ∈ steps, ¬e.store.compound.Refuses step.2)
    (hhead : e.store.compound ≠ .jsonArray → (steps.map Prod.snd).head? ≠ some "") :
    let after := e.run (steps.map fun step => (step.1, .append kind k step.2))
    after.store.contents kind after.store.data[key]? = .ok (kind.keep (steps.map Prod.snd)) ∧
      (steps ≠ [] → ∃ raw, e.store.compound.encodeList (kind.keep (steps.map Prod.snd)) = .ok raw ∧
        after.store.data[key]? = some raw) := by
  induction steps using List.reverseRecOn with
  | nil =>
    refine ⟨?_, fun h => absurd rfl h⟩
    rw [List.map_nil, run_nil, habsent]
    cases kind <;> rfl
  | append_singleton steps step ih =>
    have hall' : ∀ step ∈ steps, ¬e.store.compound.Refuses step.2 := fun s hs => hall s (List.mem_append_left _ hs)
    have hhead' : e.store.compound ≠ .jsonArray → (steps.map Prod.snd).head? ≠ some "" := by
      intro hj hempty
      refine hhead hj ?_
      rw [List.map_append, List.head?_append, hempty]
      rfl
    -- the configuration is still that of `e`, so the new item can be written, and the key is still resolved
    have hsettled := hi.settled_run (steps.map fun step => (step.1, .append kind k step.2))
    have hcompound := hsettled.compound
    have hx : ¬e.store.compound.Refuses step.2 := hall step (List.mem_append_right _ (List.mem_singleton_self step))
    rw [← hcompound, List.map_append] at hhead
    have hstep := append_to_items (hcompound ▸ hn) ((hsettled.resolve k).trans hk) (ih hall' hhead').1
      (hcompound ▸ hx) hhead step.1
    rw [List.map_append, List.map_append, List.map_singleton, List.map_singleton, run_concat, ← hcompound]
    exact ⟨hstep.1, fun _ => hstep.2⟩

/-- **Adding an item to a set again changes nothing.** -/
theorem run_again {raw : String} (hk : e.store.resolve k = .ok key) (hdata : e.store.data[key]? = some raw)
    (hitems : e.store.contents .set (some raw) = .ok items)
    (hraw : e.store.compound.encodeList (CompoundKind.set.keep (items ++ [x])) = .ok raw) (times : List Nat) :
    (e.run (times.map fun time => (time, .setAppend k x))).store.data[key]? = some raw := by
  induction times generalizing e with
  | nil => exact hdata
  | cons time times ih =>
    have happend : Store.append time .set k x e.store = (.ok raw, e.store.write time .setAppend key raw) := by
      rw [Store.append_eq_revise]
      refine Store.revise_of_ok hk ((Store.appended_eq (hdata ▸ hitems) x).trans ?_) time .setAppend
      exact Result.mapError_eq_ok.2 hraw
    rw [List.map_cons, run_cons, show Action.setAppend k x = .append .set k x from rfl, perform_append happend]
    exact ih hk (Store.data_write ..) hitems hraw

/-- an action that fails at all times does nothing, however often it is tried -/
theorem run_of_failing {a : Action} (h : ∀ time, ∃ error, e.perform time a = (.error error, e)) (times : List Nat) :
    e.run (times.map fun time => (time, a)) = e := by
  induction times with
  | nil => rfl
  | cons time times ih =>
    obtain ⟨error, herror⟩ := h time
    rw [List.map_cons, run_cons, herror]
    exact ih

/-- what a set holds after an append has the same text with the item once more -/
theorem keep_readBack_append (n : CompoundNotation) (h : x ∈ items) :
    CompoundKind.set.keep (n.readBack (CompoundKind.set.keep items) ++ [x]) = CompoundKind.set.keep items := by
  unfold CompoundNotation.readBack
  split_ifs with hempty
  -- a lost item can only be the empty text, which is then the item that is added again
  · have hx : x ∈ CompoundKind.set.keep items := CompoundKind.mem_keep.2 h
    rw [hempty.2] at hx ⊢
    obtain rfl := List.mem_singleton.1 hx
    rfl
  · rw [CompoundKind.keep_keep_append]
    exact Text.dedupe_append_of_mem h

theorem repeated_setAppend (hn : e.store.compound.Admitted) (hk : e.store.resolve k = .ok key)
    (hitems : e.store.contents .set e.store.data[key]? = .ok items) (time : Nat) (times : List Nat) :
    let after := (e.perform time (.setAppend k x)).2
    (after.run (times.map fun time => (time, .setAppend k x))).store.data[key]? = after.store.data[key]? := by
  intro after
  by_cases hx : e.store.compound.Refuses x
  · have hfail : ∀ time, ∃ error, e.perform time (.setAppend k x) = (.error error, e) :=
      perform_append_of_refuses hk hitems hx
    obtain ⟨error, herror⟩ := hfail time
    have hafter : after = e := congrArg Prod.snd herror
    rw [hafter, run_of_failing hfail]
  · obtain ⟨raw, hraw, happend⟩ := perform_append_of_not_refuses hk hitems hx
    have hafter : after = { e with store := e.store.write time .setAppend key raw } := congrArg Prod.snd (happend time)
    have hdata : after.store.data[key]? = some raw := hafter ▸ Store.data_write ..
    have hmem : x ∈ items ++ [x] := List.mem_append_right _ (List.mem_singleton_self x)
    have hk' : after.store.resolve k = .ok key := hafter ▸ hk
    have hcompound : after.store.compound = e.store.compound := hafter ▸ rfl
    have hagain : after.store.compound.encodeList (CompoundKind.set.keep
        (e.store.compound.readBack (CompoundKind.set.keep (items ++ [x])) ++ [x])) = .ok raw := by
      rw [keep_readBack_append _ hmem, hcompound]
      exact hraw
    have hcontents : after.store.contents .set (some raw) =
        .ok (e.store.compound.readBack (CompoundKind.set.keep (items ++ [x]))) :=
      hafter ▸ Store.contents_of_encodeList hn hraw
    rw [hdata]
    exact run_again hk' hdata hcontents hagain times

/-- the notation of a reachable store is that of a consistent configuration -/
theorem Reachable.admitted {e : Engine} (h : Reachable e) : e.store.compound.Admitted :=
  CompoundNotation.admitted_of_validate h.consistent

theorem getList_of_append (hn : e.store.compound.Admitted) (hk : e.store.resolve k = .ok key)
    (hlist : e.store.getList k = .ok items) {time : Nat} {answer : Answer} {after : Engine}
    (h : e.perform time (.listAppend k x) = (.ok answer, after)) : after.store.getList k =
      .ok (if e.store.compound ≠ .jsonArray ∧ x = "" ∧ items = [] then [] else items ++ [x]) := by
  rw [Store.getList_eq hk] at hlist
  obtain ⟨hk', hafter⟩ := contents_of_append hn hk hlist h
  have hempty : items ++ [x] = [""] ↔ x = "" ∧ items = [] := by
    rw [← List.nil_append [""], List.append_singleton_inj, and_comm]
  rw [Store.getList_eq hk', hafter, CompoundKind.keep, CompoundNotation.readBack]
  exact congrArg Except.ok (if_congr (and_congr_right fun _ => hempty) rfl rfl)

theorem getSet_of_append (hn : e.store.compound.Admitted) (hk : e.store.resolve k = .ok key)
    (hset : e.store.getSet k = .ok items) {time : Nat} {answer : Answer} {after : Engine}
    (h : e.perform time (.setAppend k x) = (.ok answer, after)) : after.store.getSet k =
      .ok (if e.store.compound ≠ .jsonArray ∧ x = "" ∧ (items = [] ∨ items = [""]) then []
        else if x ∈ items then items else items ++ [x]) := by
  rw [Store.getSet_eq hk] at hset
  obtain ⟨hk', hafter⟩ := contents_of_append hn hk hset h
  have hkept : Text.dedupe items = items := Store.keep_of_contents hset
  rw [Store.getSet_eq hk', hafter, CompoundKind.keep, CompoundNotation.readBack]
  by_cases hx : x ∈ items
  · have hempty : items = [""] ↔ x = "" ∧ (items = [] ∨ items = [""]) := by
      constructor
      · rintro rfl
        exact ⟨List.mem_singleton.1 hx, .inr rfl⟩
      · rintro ⟨-, rfl | hitems⟩
        · cases hx
        · exact hitems
    rw [Text.dedupe_append_of_mem hx, hkept, if_pos hx]
    exact congrArg Except.ok (if_congr (and_congr_right fun _ => hempty) rfl rfl)
  · have hempty : items ++ [x] = [""] ↔ x = "" ∧ (items = [] ∨ items = [""]) := by
      constructor
      · intro hitems
        obtain ⟨hnil, hx⟩ := List.append_singleton_inj.1 (hitems.trans (List.nil_append [""]).symm)
        exact ⟨hx, .inl hnil⟩
      · rintro ⟨rfl, rfl | rfl⟩
        · rfl
        · exact absurd (List.mem_singleton_self "") hx
    rw [Text.dedupe_append_of_not_mem hx, hkept, if_neg hx]
    exact congrArg Except.ok (if_congr (and_congr_right fun _ => hempty) rfl rfl)

/-- one by one and all at once, an absent key gets the same text -/
theorem run_appends_eq_put (hi : Inv e) (hn : e.store.compound.Admitted) (hk : e.store.resolve k = .ok key)
    (habsent : e.store.data[key]? = none) (kind : CompoundKind) (time : Nat) {steps : List (Nat × String)}
    (hne : steps ≠ []) (hall : ∀ step ∈ steps, ¬e.store.compound.Refuses step.2)
    (hhead : e.store.compound ≠ .jsonArray → (steps.map Prod.snd).head? ≠ some "") :
    ∃ raw, (e.run (steps.map fun step => (step.1, .append kind k step.2))).store.data[key]? = some raw ∧
      (e.perform time (.put kind k (steps.map Prod.snd))).2.store.data[key]? = some raw := by
  obtain ⟨raw, hraw, hrun⟩ := (run_appends hi hn hk habsent kind steps hall hhead).2 hne
  refine ⟨raw, hrun, ?_⟩
  rw [perform_put (Store.put_of_ok hk hraw time)]
  exact Store.data_write ..

end Engine

open Engine

/-- **What appends do.** In a reachable engine, let an accepted key be absent or hold a list in its notation.
- An item can be added unless it is refused, whatever the key holds.
- Afterwards the list has one more item, and so has the set unless it had that item; under a delimiter a single empty
  item is no item at all.
- A set to which an item was added stays the same when it is added again.
- Items that are added to an absent key one by one leave the text of all of them together. -/
theorem appends_add_items {e : Engine} (h : Reachable e) {k : KeyRef} {key : Key} (hk : e.store.resolve k = .ok key)
    (hd : ∀ raw, e.store.data[key]? = some raw → ∃ items, e.store.compound.decodeList raw = .ok items) :
    ∃ list set, e.store.getList k = .ok list ∧ e.store.getSet k = .ok set ∧
      (∀ time x,
        ((∃ error, (e.perform time (.listAppend k x)).1 = .error error) ↔ e.store.compound.Refuses x) ∧
        ((∃ error, (e.perform time (.setAppend k x)).1 = .error error) ↔ e.store.compound.Refuses x) ∧
        (∀ answer after, e.perform time (.listAppend k x) = (.ok answer, after) → after.store.getList k =
          .ok (if e.store.compound ≠ .jsonArray ∧ x = "" ∧ list = [] then [] else list ++ [x])) ∧
        (∀ answer after, e.perform time (.setAppend k x) = (.ok answer, after) → after.store.getSet k =
          .ok (if e.store.compound ≠ .jsonArray ∧ x = "" ∧ (set = [] ∨ set = [""]) then []
            else if x ∈ set then set else set ++ [x])) ∧
        ∀ times : List Nat,
          ((e.perform time (.setAppend k x)).2.run (times.map fun time => (time, .setAppend k x))).store.data[key]? =
            (e.perform time (.setAppend k x)).2.store.data[key]?) ∧
      (e.store.data[key]? = none → ∀ (time : Nat) (steps : List (Nat × String)), steps ≠ [] →
        (∀ step ∈ steps, ¬e.store.compound.Refuses step.2) →
        (e.store.compound ≠ .jsonArray → (steps.map Prod.snd).head? ≠ some "") →
          (∃ raw, (e.run (steps.map fun step => (step.1, .listAppend k step.2))).store.data[key]? = some raw ∧
            (e.perform time (.setList k (steps.map Prod.snd))).2.store.data[key]? = some raw) ∧
          ∃ raw, (e.run (steps.map fun step => (step.1, .setAppend k step.2))).store.data[key]? = some raw ∧
            (e.perform time (.setSet k (steps.map Prod.snd))).2.store.data[key]? = some raw) := by
  have hn := h.admitted
  obtain ⟨items, hitems⟩ : ∃ items, e.store.listOf e.store.data[key]? = .ok items := by
    cases hraw : e.store.data[key]? with
    | none => exact ⟨[], rfl⟩
    | some raw => exact (hd raw hraw).imp fun items hitems => Result.mapError_eq_ok.2 hitems
  have hlist : e.store.contents .list e.store.data[key]? = .ok items := Result.map_eq_ok.2 ⟨items, hitems, rfl⟩
  have hset : e.store.contents .set e.store.data[key]? = .ok (Text.dedupe items) :=
    Result.map_eq_ok.2 ⟨items, hitems, rfl⟩
  have hgetList := (Store.getList_eq hk).trans hlist
  have hgetSet := (Store.getSet_eq hk).trans hset
  refine ⟨items, Text.dedupe items, hgetList, hgetSet, fun time x => ⟨?_, ?_, ?_, ?_, ?_⟩, ?_⟩
  · exact append_fails_iff hk hlist time
  · exact append_fails_iff hk hset time
  · exact fun answer after => getList_of_append hn hk hgetList
  · exact fun answer after => getSet_of_append hn hk hgetSet
  · exact repeated_setAppend hn hk hset time
  · intro habsent time steps hne hall hhead
    exact ⟨run_appends_eq_put h.inv hn hk habsent .list time hne hall hhead,
      run_appends_eq_put h.inv hn hk habsent .set time hne hall hhead⟩

/-- a key that holds two empty items, and what was done to get there -/
def twoEmptyItems : Engine := sample.run [(1, .set (.text "env:a") ",")]

theorem reachable_twoEmptyItems : Reachable twoEmptyItems := reachable_sample.run _

/-- two empty items are a set of one; with the empty text added, the set is written like the empty one, and is lost -/
theorem empty_text_empties_a_set :
    let after := (twoEmptyItems.perform 2 (.setAppend (.text "env:a") "")).2
    Reachable twoEmptyItems ∧ twoEmptyItems.store.compound = .delimited ',' (some '\\') ∧
      twoEmptyItems.store.getSet (.text "env:a") = .ok [""] ∧ "" ∈ [""] ∧
      (Store.setAppend 2 (.text "env:a") "" twoEmptyItems.store).1 = .ok "" ∧
      after.store.getSet (.text "env:a") = .ok [] ∧ after.store.getSet (.text "env:a") ≠ .ok [""] := by
  exact ⟨reachable_twoEmptyItems, rfl, by decide +kernel, by decide, by decide +kernel, by decide +kernel,
    by decide +kernel⟩

/-- one more item after two empty ones, and three items, one of them twice, for a key that is absent -/
theorem sample_appends_add_items :
    let a : Key := ⟨"env", "a"⟩
    let steps : List (Nat × Action) :=
      [(2, .setAppend (.key a) "p,q"), (3, .setAppend (.key a) ""), (4, .setAppend (.key a) "p,q")]
    (twoEmptyItems.perform 2 (.listAppend (.key a) "x")).2.store.getList (.key a) = .ok ["", "", "x"] ∧
      (sample.run steps).store.data[a]? = (sample.perform 5 (.setSet (.key a) ["p,q", "", "p,q"])).2.store.data[a]? := by
  intro a steps
  have hmarks : ∀ x, ¬CompoundNotation.Refuses (.delimited ',' (some '\\')) x := by
    rintro x ⟨delimiter, hn, -⟩
    cases hn
  constructor
  · have hdata : twoEmptyItems.store.data[a]? = some "," := by decide +kernel
    have hd : ∀ raw, twoEmptyItems.store.data[a]? = some raw →
        ∃ items, twoEmptyItems.store.compound.decodeList raw = .ok items := by
      intro raw hraw
      obtain rfl : "," = raw := Option.some.inj (hdata.symm.trans hraw)
      exact ⟨["", ""], by decide +kernel⟩
    have hk : twoEmptyItems.store.resolve (.key a) = .ok a := by decide +kernel
    obtain ⟨list, set, hlist, -, hone, -⟩ := appends_add_items reachable_twoEmptyItems hk hd
    obtain ⟨hfails, -, hafter, -⟩ := hone 2 "x"
    have hempty : twoEmptyItems.store.getList (.key a) = .ok ["", ""] := by decide +kernel
    obtain rfl : ["", ""] = list := Except.ok.inj (hempty.symm.trans hlist)
    cases hr : (twoEmptyItems.perform 2 (.listAppend (.key a) "x")).1 with
    | error error => exact absurd (hfails.1 ⟨error, hr⟩) (hmarks "x")
    | ok answer =>
      rw [hafter answer _ (Prod.ext hr rfl)]
      rfl
  · have habsent : sample.store.data[a]? = none := by decide +kernel
    have hk : sample.store.resolve (.key a) = .ok a := by decide +kernel
    obtain ⟨-, -, -, -, -, hmany⟩ := appends_add_items reachable_sample hk
      fun raw hraw => absurd (habsent.symm.trans hraw) (Option.some_ne_none raw).symm
    obtain ⟨-, raw, hrun, hput⟩ := hmany habsent 5 [(2, "p,q"), (3, ""), (4, "p,q")] (by simp)
      (fun step _ => hmarks step.2) (fun _ => by decide)
    exact hrun.trans hput.symm

end ScopedStore
