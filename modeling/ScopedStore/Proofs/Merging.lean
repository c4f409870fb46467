/-
Bulk merges, and merging entries one by one.

`Merge.step` merges one entry into a copy of the mapping, or refuses it. `Store.commit` takes over the copy, and enters
and tells what was written to it, in order. A bulk merge plans against the mapping as it is and the keys planned so far.
The plan is what the entries come to one by one (`Store.run_eq_planMerge`), because these keys are at any time those of
the copy; and to write the plan is to commit the copy (`Store.writeAll_commit`). What holds of a merge under way,
`Store.Merges`, is kept by each entry (`Store.Merges.step`), and so by all of them (`Store.merges_run`).

Main result, `bulk_merges_go_one_by_one`: a bulk merge does what its entries do one by one on a copy, which is committed
if none of them is refused; and each policy says who wins.
-/
import ScopedStore.Proofs.Mirror

namespace ScopedStore

/-! ## One by one -/

/-- what a merge writes to a key, and what the key held before -/
structure MergeWrite where
  key : Key
  prior : Option String
  value : String
  deriving DecidableEq

namespace MergeWrite

/-- the change that is entered -/
def change (w : MergeWrite) : Change := ⟨.imported, some w.key, w.prior, some w.value⟩

/-- the entry that is made of it -/
def entry (o : Origin) (sequence : Nat) (w : MergeWrite) : Entry :=
  ⟨sequence, o.time, .imported, some w.key, w.prior, some w.value, o.source⟩

/-- the event that is told -/
def event (source : Source) (w : MergeWrite) : Event := ⟨w.key, .imported, some w.value, source⟩

end MergeWrite

/-- a merge under way: the copy of the mapping, what was written to it, and how many entries gave way -/
structure Merge where
  copy : Mapping
  written : List MergeWrite
  kept : Nat

namespace Merge

/-- a merge before its first entry -/
def start (m : Mapping) : Merge := ⟨m, [], 0⟩

/-- gives a key a value in the copy -/
def write (m : Merge) (k : Key) (value : String) : Merge :=
  { m with copy := m.copy.insert k value, written := m.written ++ [⟨k, m.copy[k]?, value⟩] }

/-- gives a key a value in the copy, as far as the policy lets it -/
def place (policy : ConflictPolicy) (m : Merge) (k : Key) (value : String) : Except StoreError Merge :=
  match m.copy[k]?, policy with
  | some _, .errorOnConflict => .error (.conflict k.text)
  | some _, .keepExisting => .ok { m with kept := m.kept + 1 }
  | _, _ => .ok (m.write k value)

/-- merges one entry into the copy -/
def step (rules : KeyRules) (policy : ConflictPolicy) (m : Merge) (x : String × String) : Except StoreError Merge := do
  let k ← (rules.parse x.1).mapError .key
  m.place policy k x.2

/-- merges entries into the copy, one by one, up to the first that is refused -/
def run (rules : KeyRules) (policy : ConflictPolicy) (m : Merge) (entries : List (String × String)) :
    Except StoreError Merge :=
  entries.foldlM (step rules policy) m

/-- writes planned entries to the copy -/
def carryOut (m : Merge) (plan : List (Key × String)) : Merge := plan.foldl (fun m p => m.write p.1 p.2) m

/-- the entries about what was written, numbered on from `total` -/
def log (m : Merge) (o : Origin) (total : Nat) : List Entry := m.written.mapIdx fun i w => w.entry o (total + i)

variable {rules : KeyRules} {policy : ConflictPolicy} {m m' : Merge} {k : Key} {value : String}

theorem log_write (m : Merge) (k : Key) (value : String) (o : Origin) (total : Nat) :
    (m.write k value).log o total =
      m.log o total ++ [(⟨k, m.copy[k]?, value⟩ : MergeWrite).entry o (total + m.written.length)] := List.mapIdx_concat

theorem getElem?_write (m : Merge) (k k' : Key) (value : String) :
    (m.write k value).copy[k']? = if k = k' then some value else m.copy[k']? :=
  Mapping.getElem?_assign m.copy k k' (some value)

theorem place_of_absent (hk : m.copy[k]? = none) : m.place policy k value = .ok (m.write k value) := by
  unfold place
  rw [hk]

theorem place_of_present {prior : String} (hk : m.copy[k]? = some prior) :
    m.place policy k value = match policy with
      | .errorOnConflict => .error (.conflict k.text)
      | .keepExisting => .ok { m with kept := m.kept + 1 }
      | .overwrite => .ok (m.write k value) := by
  unfold place
  rw [hk]
  cases policy <;> rfl

theorem step_of_ok {raw : String} (h : rules.parse raw = .ok k) :
    m.step rules policy (raw, value) = m.place policy k value := by
  rw [step, h]
  rfl

theorem step_of_error {raw : String} {e : KeyError} (h : rules.parse raw = .error e) :
    m.step rules policy (raw, value) = .error (.key e) := by
  rw [step, h]
  rfl

/-- an entry that is not refused gives way to what is there, or it is written -/
theorem step_cases {x : String × String} (h : m.step rules policy x = .ok m') : ∃ k, rules.parse x.1 = .ok k ∧
    (m.copy[k]?.isSome ∧ policy = .keepExisting ∧ m' = { m with kept := m.kept + 1 } ∨
      (m.copy[k]? = none ∨ policy = .overwrite) ∧ m' = m.write k x.2) := by
  obtain ⟨raw, value⟩ := x
  cases hk : rules.parse raw with
  | error e => cases (step_of_error hk).symm.trans h
  | ok k =>
    rw [step_of_ok hk] at h
    refine ⟨k, rfl, ?_⟩
    cases hcopy : m.copy[k]? with
    | none =>
      rw [place_of_absent hcopy] at h
      exact .inr ⟨.inl rfl, (Except.ok.inj h).symm⟩
    | some prior =>
      rw [place_of_present hcopy] at h
      cases policy with
      | errorOnConflict => cases h
      | keepExisting => exact .inl ⟨rfl, rfl, (Except.ok.inj h).symm⟩
      | overwrite => exact .inr ⟨.inr rfl, (Except.ok.inj h).symm⟩

/-- planned entries are written, and none of them gives way -/
theorem carryOut_counts (m : Merge) (plan : List (Key × String)) :
    (m.carryOut plan).written.length = m.written.length + plan.length ∧ (m.carryOut plan).kept = m.kept := by
  induction plan generalizing m with
  | nil => exact ⟨rfl, rfl⟩
  | cons p plan ih =>
    obtain ⟨hwritten, hkept⟩ := ih (m.write p.1 p.2)
    refine ⟨hwritten.trans ?_, hkept⟩
    rw [write, List.length_append, List.length_singleton, List.length_cons, Nat.add_assoc, Nat.add_comm 1]

theorem run_cons (rules : KeyRules) (policy : ConflictPolicy) (m : Merge) (x : String × String)
    (entries : List (String × String)) :
    m.run rules policy (x :: entries) = (m.step rules policy x).bind fun m => m.run rules policy entries :=
  List.foldlM_cons

/-- a merge fails at the first entry that is refused -/
theorem run_eq_error {entries : List (String × String)} {e : StoreError} (h : m.run rules policy entries = .error e) :
    ∃ before x after m', entries = before ++ x :: after ∧ m.run rules policy before = .ok m' ∧
      m'.step rules policy x = .error e := by
  induction entries generalizing m with
  | nil => cases h
  | cons x entries ih =>
    rw [run_cons] at h
    rcases Result.bind_eq_error.1 h with hx | ⟨n, hx, hrest⟩
    · exact ⟨[], x, entries, m, rfl, rfl, hx⟩
    · obtain ⟨before, y, after, m', rfl, hbefore, hy⟩ := ih hrest
      refine ⟨x :: before, y, after, m', rfl, ?_, hy⟩
      rw [run_cons, hx]
      exact hbefore

/-- what holds at first and is kept by every entry that is not refused, holds in the end -/
theorem run_induction {P : List (String × String) → Merge → Prop} (hstart : P [] m)
    (hstep : ∀ {entries m x m'}, P entries m → m.step rules policy x = .ok m' → P (entries ++ [x]) m')
    {entries : List (String × String)} (h : m.run rules policy entries = .ok m') : P entries m' := by
  induction entries using List.reverseRecOn generalizing m' with
  | nil =>
    obtain rfl := Except.ok.inj h
    exact hstart
  | append_singleton entries x ih =>
    rw [run, List.foldlM_append] at h
    obtain ⟨n, hn, hrest⟩ := Result.bind_eq_ok.1 h
    obtain ⟨n', hx, hnil⟩ := Result.bind_eq_ok.1 (List.foldlM_cons.symm.trans hrest)
    obtain rfl := Except.ok.inj hnil
    exact hstep (ih hn) hx

end Merge

namespace Store

open Attempt

/-! ## The plan -/

variable {s : Store} {policy : ConflictPolicy} {m : Merge} {planned : Std.ExtTreeSet Key}

theorem planMerge_of_error {raw value : String} {e : KeyError} (h : s.keys.parse raw = .error e)
    (rest : List (String × String)) : s.planMerge policy planned ((raw, value) :: rest) = .error (.key e) := by
  change ((s.keys.parse raw).mapError StoreError.key).bind _ = _
  rw [h]
  rfl

theorem planMerge_of_ok {raw value : String} {k : Key} (h : s.keys.parse raw = .ok k) (rest : List (String × String)) :
    s.planMerge policy planned ((raw, value) :: rest) =
      match s.data.contains k || planned.contains k, policy with
      | true, .errorOnConflict => .error (.conflict k.text)
      | true, .keepExisting => (s.planMerge policy planned rest).map fun p => (p.1, p.2 + 1)
      | _, _ => (s.planMerge policy (planned.insert k) rest).map fun p => ((k, value) :: p.1, p.2) := by
  change ((s.keys.parse raw).mapError StoreError.key).bind _ = _
  rw [h]
  dsimp only [Except.mapError, bind, Except.bind]
  generalize s.planMerge policy planned rest = skipped
  generalize s.planMerge policy (planned.insert k) rest = written
  cases s.data.contains k || planned.contains k <;> cases policy <;> cases skipped <;> cases written <;> rfl

/-- **The plan is what the entries come to one by one**, when the copy has the keys of the mapping and the planned ones.
-/
theorem run_eq_planMerge (h : ∀ k, m.copy.contains k = (s.data.contains k || planned.contains k))
    (entries : List (String × String)) :
    m.run s.keys policy entries = (s.planMerge policy planned entries).map fun p =>
      Merge.carryOut { m with kept := m.kept + p.2 } p.1 := by
  induction entries generalizing m planned with
  | nil => rfl
  | cons x entries ih =>
    obtain ⟨raw, value⟩ := x
    cases hk : s.keys.parse raw with
    | error e =>
      rw [Merge.run_cons, Merge.step_of_error hk, planMerge_of_error hk]
      rfl
    | ok k =>
      -- which keys the copy has is all that the plan needs to know of it
      rw [Merge.run_cons, Merge.step_of_ok hk, planMerge_of_ok hk, ← h]
      have hwritten : ∀ k', (m.write k value).copy.contains k' =
          (s.data.contains k' || (planned.insert k).contains k') := by
        intro k'
        change (m.copy.insert k value).contains k' = _
        rw [Std.ExtTreeMap.contains_insert, Std.ExtTreeSet.contains_insert, h, Bool.or_left_comm]
      rw [Std.ExtTreeMap.contains_eq_isSome_getElem?]
      cases hcopy : m.copy[k]? with
      | none =>
        rw [Merge.place_of_absent hcopy]
        refine (ih hwritten).trans ?_
        cases policy <;> cases s.planMerge _ (planned.insert k) entries <;> rfl
      | some prior =>
        rw [Merge.place_of_present hcopy]
        cases policy with
        | errorOnConflict => rfl
        | keepExisting =>
          have hkept : ∀ k, { m with kept := m.kept + 1 }.copy.contains k =
              (s.data.contains k || planned.contains k) := h
          refine (ih hkept).trans ?_
          cases s.planMerge .keepExisting planned entries with
          | error e => rfl
          | ok p =>
            have hcount : m.kept + 1 + p.2 = m.kept + (p.2 + 1) := Nat.add_right_comm m.kept 1 p.2
            exact congrArg (fun kept => Except.ok (Merge.carryOut { m with kept } p.1)) hcount
        | overwrite =>
          refine (ih hwritten).trans ?_
          cases s.planMerge .overwrite (planned.insert k) entries <;> rfl

/-! ## The writing -/

/-- takes over what a merge has come to, and enters and tells what it wrote -/
def commit (s : Store) (time : Nat) (m : Merge) : Store :=
  { s with
    data := m.copy
    history := m.written.foldl (fun h w => h.append ⟨s.source, time⟩ w.change) s.history
    bus := m.written.foldl (fun b w => (b.dispatch (w.event s.source)).2) s.bus }

theorem write_commit (s : Store) (time : Nat) (m : Merge) (k : Key) (value : String) :
    (s.commit time m).write time .imported k value = s.commit time (m.write k value) := by
  unfold commit Merge.write
  simp only [List.foldl_append]
  rfl

theorem writeAll_commit (s : Store) (time : Nat) (m : Merge) (plan : List (Key × String)) :
    (s.commit time m).writeAll time plan = s.commit time (m.carryOut plan) := by
  induction plan generalizing m with
  | nil => rfl
  | cons p plan ih =>
    have hstep : (s.commit time m).writeAll time (p :: plan) =
        ((s.commit time m).write time .imported p.1 p.2).writeAll time plan := rfl
    rw [hstep, write_commit, ih]
    rfl

/-- at first nothing is planned, and the copy is the mapping -/
theorem run_start (s : Store) (policy : ConflictPolicy) (entries : List (String × String)) :
    Merge.run s.keys policy (.start s.data) entries = (s.planMerge policy ∅ entries).map fun p =>
      Merge.carryOut { Merge.start s.data with kept := 0 + p.2 } p.1 := by
  refine run_eq_planMerge (fun k => ?_) entries
  rw [Std.ExtTreeSet.contains_empty, Bool.or_false, Merge.start]

theorem appendMap_of_error {entries : List (String × String)} {e : StoreError}
    (h : Merge.run s.keys policy (.start s.data) entries = .error e) (time : Nat) :
    appendMap time entries policy s = (.error e, s) := by
  rw [run_start] at h
  exact appendMap_of_unplanned (Result.map_eq_error.1 h) time

theorem appendMap_of_ok {entries : List (String × String)}
    (h : Merge.run s.keys policy (.start s.data) entries = .ok m) (time : Nat) :
    appendMap time entries policy s = (.ok ⟨m.written.length, m.kept⟩, s.commit time m) := by
  rw [run_start] at h
  obtain ⟨p, hplan, rfl⟩ := Result.map_eq_ok.1 h
  have hwrite : s.writeAll time p.1 =
      s.commit time (Merge.carryOut { Merge.start s.data with kept := 0 + p.2 } p.1) :=
    writeAll_commit s time { Merge.start s.data with kept := 0 + p.2 } p.1
  obtain ⟨hwritten, hkept⟩ := Merge.carryOut_counts { Merge.start s.data with kept := 0 + p.2 } p.1
  rw [appendMap_of_planned hplan, hwrite]
  simp only [Merge.start, List.length_nil, Nat.zero_add] at hwritten hkept ⊢
  rw [hwritten, hkept]

end Store

/-! ## What a merge comes to -/

/-- the values that entries give to a key, in order -/
def KeyRules.given (rules : KeyRules) (entries : List (String × String)) (k : Key) : List String :=
  (entries.filter fun x => rules.parse x.1 = .ok k).map Prod.snd

namespace KeyRules

theorem given_append (rules : KeyRules) (l l' : List (String × String)) (k : Key) :
    rules.given (l ++ l') k = rules.given l k ++ rules.given l' k := by
  rw [given, List.filter_append, List.map_append]
  rfl

theorem given_singleton {rules : KeyRules} {x : String × String} {k : Key} (h : rules.parse x.1 = .ok k) (k' : Key) :
    rules.given [x] k' = if k = k' then [x.2] else [] := by
  rw [given, List.filter_cons, h]
  by_cases hk : k = k'
  · simp [hk]
  · simp [hk]

end KeyRules

namespace Store

/-- entries that were merged one by one into a copy have come to `m`, and this is what committing the copy does -/
structure Merges (s : Store) (time : Nat) (policy : ConflictPolicy) (entries : List (String × String)) (m : Merge) :
    Prop where
  /-- each entry was written, or gave way -/
  counted : m.written.length + m.kept = entries.length
  /-- what was written is entered in order, with what the copy held before -/
  entered : Trail s (m.log ⟨s.source, time⟩ s.history.total) (s.commit time m)
  told : s.Tells (m.written.map (MergeWrite.event s.source)) (s.commit time m)
  /-- what is there stays, and the first of repeated new keys wins -/
  keeps : policy ≠ .overwrite → ∀ k, m.copy[k]? = s.data[k]?.or (s.keys.given entries k).head?
  /-- the last one wins -/
  overwrites : policy = .overwrite → ∀ k, m.copy[k]? = (s.keys.given entries k).getLast?.or s.data[k]?

variable {s : Store} {time : Nat} {policy : ConflictPolicy} {entries : List (String × String)} {m m' : Merge}

theorem merges_start (s : Store) (time : Nat) (policy : ConflictPolicy) :
    Merges s time policy [] (.start s.data) where
  counted := rfl
  entered := .nil s
  told := ⟨.refl s.bus, rfl⟩
  keeps _ _ := (Option.or_none ..).symm
  overwrites _ _ := rfl

/-- writing to the copy is writing to the store that the copy is committed to -/
theorem recorded_commit (s : Store) (time : Nat) (m : Merge) (k : Key) (value : String) :
    Recorded (s.commit time m)
      ((s.commit time m).history.entryOf ⟨s.source, time⟩ ⟨.imported, some k, m.copy[k]?, some value⟩)
      (s.commit time (m.write k value)) := by
  rw [← write_commit]
  exact recorded_write (s.commit time m) time .imported k value

theorem Merges.total (h : Merges s time policy entries m) :
    (s.commit time m).history.total = s.history.total + m.written.length := by
  rw [h.entered.accounts.history, History.total_extend, Merge.log, List.length_mapIdx]

/-- an entry that gives way changes nothing -/
theorem Merges.keep {x : String × String} {k : Key} (h : Merges s time .keepExisting entries m)
    (hk : s.keys.parse x.1 = .ok k) (hpresent : m.copy[k]?.isSome) :
    Merges s time .keepExisting (entries ++ [x]) { m with kept := m.kept + 1 } where
  counted := by
    have hcounted := h.counted
    simp only [List.length_append, List.length_singleton]
    omega
  entered := h.entered
  told := h.told
  keeps hp k' := by
    rw [KeyRules.given_append, List.head?_append, ← Option.or_assoc, ← h.keeps hp, KeyRules.given_singleton hk]
    split_ifs with hkey
    · subst hkey
      exact (Option.or_of_isSome hpresent).symm
    · exact (Option.or_none ..).symm
  overwrites hp := nomatch hp

theorem Merges.write {x : String × String} {k : Key} (h : Merges s time policy entries m)
    (hk : s.keys.parse x.1 = .ok k) (hfree : m.copy[k]? = none ∨ policy = .overwrite) :
    Merges s time policy (entries ++ [x]) (m.write k x.2) where
  counted := by
    have hcounted := h.counted
    simp only [Merge.write, List.length_append, List.length_singleton]
    omega
  entered := by
    have htotal := h.total
    have htrail := h.entered.append (.single (recorded_commit s time m k x.2))
    rw [Merge.log_write]
    unfold History.entryOf at htrail
    rwa [htotal] at htrail
  told := by
    have hstep : (s.commit time m).Tells ([⟨k, m.copy[k]?, x.2⟩].map (MergeWrite.event s.source))
        (s.commit time (m.write k x.2)) := by
      rw [← write_commit]
      exact ⟨EventBus.tells_dispatch .., rfl⟩
    have hall := h.told.append hstep
    rwa [← List.map_append] at hall
  keeps hp k' := by
    rw [KeyRules.given_append, List.head?_append, ← Option.or_assoc, ← h.keeps hp, KeyRules.given_singleton hk,
      Merge.getElem?_write]
    split_ifs with hkey
    · subst hkey
      rw [hfree.resolve_right hp]
      rfl
    · exact (Option.or_none ..).symm
  overwrites hp k' := by
    rw [KeyRules.given_append, List.getLast?_append, Option.or_assoc, ← h.overwrites hp, KeyRules.given_singleton hk,
      Merge.getElem?_write]
    split_ifs <;> rfl

theorem Merges.step {x : String × String} (h : Merges s time policy entries m)
    (hx : m.step s.keys policy x = .ok m') : Merges s time policy (entries ++ [x]) m' := by
  obtain ⟨k, hk, ⟨hpresent, rfl, rfl⟩ | ⟨hfree, rfl⟩⟩ := Merge.step_cases hx
  · exact h.keep hk hpresent
  · exact h.write hk hfree

theorem merges_run (h : Merge.run s.keys policy (.start s.data) entries = .ok m) (time : Nat) :
    Merges s time policy entries m :=
  Merge.run_induction (merges_start s time policy) Merges.step h

end Store

/-! ## Main result -/

open Engine Store

/-- **Bulk merges go one by one, all or nothing.** Whatever the store, the entries and the policy: if one by one, on a
copy of the mapping, an entry is refused, then the bulk merge gives the error of the first one refused, and leaves the
store as it was. Otherwise it commits the copy, and counts what was written and what gave way: each of the entries is
one or the other. What was written is entered, as imports with what the copy held before, and told, in the order of the
entries. Where existing values are kept, what was there stays, and of repeated new keys the first wins; where they are
overwritten, the last one wins. -/
theorem bulk_merges_go_one_by_one (s : Store) (time : Nat) (policy : ConflictPolicy)
    (entries : List (String × String)) :
    (∀ e, Merge.run s.keys policy (.start s.data) entries = .error e →
      appendMap time entries policy s = (.error e, s) ∧
        ∃ before x after m, entries = before ++ x :: after ∧ Merge.run s.keys policy (.start s.data) before = .ok m ∧
          m.step s.keys policy x = .error e) ∧
    ∀ m, Merge.run s.keys policy (.start s.data) entries = .ok m →
      appendMap time entries policy s = (.ok ⟨m.written.length, m.kept⟩, s.commit time m) ∧
        (s.commit time m).history.total = s.history.total + m.written.length ∧ Merges s time policy entries m := by
  refine ⟨fun e he => ⟨appendMap_of_error he time, Merge.run_eq_error he⟩, fun m hm => ?_⟩
  have hmerges := merges_run hm time
  exact ⟨appendMap_of_ok hm time, hmerges.total, hmerges⟩

/-- the sample store with something at one key -/
def occupiedStore : Store := (Store.set 1 (.key ⟨"env", "b"⟩) "x" sample.store).2

/-- a new key, the one that is there, and the new key once more -/
def repeatedEntries : List (String × String) := [("env:a", "1"), ("env:b", "2"), ("env:a", "3")]

theorem sample_bulk_merges_go_one_by_one :
    (∃ after, appendMap 2 repeatedEntries .keepExisting occupiedStore = (.ok ⟨1, 2⟩, after) ∧
      after.data[(⟨"env", "a"⟩ : Key)]? = some "1" ∧ after.data[(⟨"env", "b"⟩ : Key)]? = some "x") ∧
    (∃ after, appendMap 2 repeatedEntries .overwrite occupiedStore = (.ok ⟨3, 0⟩, after) ∧
      after.data[(⟨"env", "a"⟩ : Key)]? = some "3" ∧ after.history = occupiedStore.history.extend
        [⟨1, 2, .imported, some ⟨"env", "a"⟩, none, some "1", .user⟩,
          ⟨2, 2, .imported, some ⟨"env", "b"⟩, some "x", some "2", .user⟩,
          ⟨3, 2, .imported, some ⟨"env", "a"⟩, some "1", some "3", .user⟩]) ∧
    appendMap 2 repeatedEntries .errorOnConflict occupiedStore = (.error (.conflict "env:b"), occupiedStore) := by
  have hkeep : (Merge.run occupiedStore.keys .keepExisting (.start occupiedStore.data) repeatedEntries).map
      (fun m => (m.written, m.kept)) = .ok ([⟨⟨"env", "a"⟩, none, "1"⟩], 2) := by decide +kernel
  have hoverwrite : (Merge.run occupiedStore.keys .overwrite (.start occupiedStore.data) repeatedEntries).map
      (fun m => (m.written, m.kept)) = .ok ([⟨⟨"env", "a"⟩, none, "1"⟩, ⟨⟨"env", "b"⟩, some "x", "2"⟩,
        ⟨⟨"env", "a"⟩, some "1", "3"⟩], 0) := by decide +kernel
  have hconflict : (Merge.run occupiedStore.keys .errorOnConflict (.start occupiedStore.data) repeatedEntries).map
      (fun m => m.kept) = .error (.conflict "env:b") := by decide +kernel
  have hgiven : occupiedStore.keys.given repeatedEntries ⟨"env", "a"⟩ = ["1", "3"] ∧
      occupiedStore.data[(⟨"env", "a"⟩ : Key)]? = none ∧ occupiedStore.data[(⟨"env", "b"⟩ : Key)]? = some "x" := by
    decide +kernel
  obtain ⟨ha, habsent, hpresent⟩ := hgiven
  obtain ⟨kept, hkept, hcounts⟩ := Result.map_eq_ok.1 hkeep
  obtain ⟨all, hall, hcounts'⟩ := Result.map_eq_ok.1 hoverwrite
  obtain ⟨hwritten, hcount⟩ := Prod.mk.inj hcounts
  obtain ⟨hwritten', hcount'⟩ := Prod.mk.inj hcounts'
  obtain ⟨hresult, -, hmerges⟩ := (bulk_merges_go_one_by_one occupiedStore 2 .keepExisting repeatedEntries).2 kept hkept
  obtain ⟨hresult', -, hmerges'⟩ := (bulk_merges_go_one_by_one occupiedStore 2 .overwrite repeatedEntries).2 all hall
  obtain ⟨hrefused, -⟩ := (bulk_merges_go_one_by_one occupiedStore 2 .errorOnConflict repeatedEntries).1 _
    (Result.map_eq_error.1 hconflict)
  rw [hwritten, hcount] at hresult
  rw [hwritten', hcount'] at hresult'
  refine ⟨⟨_, hresult, ?_, ?_⟩, ⟨_, hresult', ?_, ?_⟩, hrefused⟩
  · exact (hmerges.keeps (by decide) _).trans (by rw [habsent, ha]; rfl)
  · exact (hmerges.keeps (by decide) _).trans (by rw [hpresent]; rfl)
  · exact (hmerges'.overwrites rfl _).trans (by rw [ha]; rfl)
  · have hlog := hmerges'.entered.accounts.history
    rw [Merge.log, hwritten'] at hlog
    exact hlog

end ScopedStore
