/-
What the history says of the mapping.

`Mapping.replay` carries out what entries record. `Truthful m log` says that each entry of `log` is about a key and
gives, as the prior value, the value of that key in the replay just before. `Recorded s x t` is one recorded change of
a store, and `Trail s log t` a sequence of them.

`Trail.accounts`: the entries of a trail are numbered on from the history's total, they are truthful, and replaying them
gives the final mapping. `History.since_extend`: as long as none of them is dropped, the entries from the old total on
are exactly those of the trail.
-/
import Mathlib.Tactic
import ScopedStore.Store

namespace ScopedStore

/-! ## Replay -/

/-- the mapping after what an entry records; an entry without a key says nothing of single keys -/
def Entry.redo (m : Mapping) (x : Entry) : Mapping :=
  match x.key with
  | some k => m.assign k x.new
  | none => m

namespace Mapping

/-- the mapping after what entries record, one after the other -/
def replay (m : Mapping) (log : List Entry) : Mapping := log.foldl Entry.redo m

@[simp] theorem replay_nil (m : Mapping) : m.replay [] = m := rfl

@[simp] theorem replay_cons (m : Mapping) (x : Entry) (log : List Entry) :
    m.replay (x :: log) = Mapping.replay (x.redo m) log := rfl

theorem replay_append (m : Mapping) (l l' : List Entry) : m.replay (l ++ l') = (m.replay l).replay l' :=
  List.foldl_append

/-- taking out a key that is not there -/
theorem erase_of_absent {m : Mapping} {k : Key} (h : m[k]? = none) : m.erase k = m := by
  refine Std.ExtTreeMap.ext_getElem? fun k' => ?_
  rw [Std.ExtTreeMap.getElem?_erase]
  split_ifs with hk
  · rw [← Std.LawfulEqOrd.eq_of_compare hk, h]
  · rfl

theorem getElem?_assign_of_ne {m : Mapping} {k k' : Key} (v : Option String) (h : k ≠ k') :
    (m.assign k v)[k']? = m[k']? := by
  have hk : compare k k' ≠ .eq := fun hc => h (Std.LawfulEqOrd.eq_of_compare hc)
  cases v with
  | some v => rw [assign, Std.ExtTreeMap.getElem?_insert, if_neg hk]
  | none => rw [assign, Std.ExtTreeMap.getElem?_erase, if_neg hk]

/-- a replay leaves alone the keys that no entry is about -/
theorem getElem?_replay_of_untouched {log : List Entry} {k : Key} (h : ∀ x ∈ log, x.key ≠ some k) (m : Mapping) :
    (m.replay log)[k]? = m[k]? := by
  induction log generalizing m with
  | nil => rfl
  | cons x log ih =>
    rw [replay_cons, ih fun y hy => h y (List.mem_cons_of_mem x hy)]
    unfold Entry.redo
    split
    · rename_i k' hk
      exact getElem?_assign_of_ne _ fun he => h x List.mem_cons_self (he ▸ hk)
    · rfl

end Mapping

/-- every entry is about a key and gives the value that the replay before it leaves there -/
inductive Truthful : Mapping → List Entry → Prop where
  | nil (m : Mapping) : Truthful m []
  | cons {m : Mapping} {x : Entry} {log : List Entry} {k : Key} (key : x.key = some k) (prior : x.prior = m[k]?)
      (rest : Truthful (x.redo m) log) : Truthful m (x :: log)

theorem Truthful.append {m : Mapping} {l l' : List Entry} (h : Truthful m l) (h' : Truthful (m.replay l) l') :
    Truthful m (l ++ l') := by
  induction h with
  | nil m => exact h'
  | cons key prior _ ih => exact .cons key prior (ih h')

/-! ## Histories -/

namespace History

/-- the history with entries put at its end, one after the other -/
def extend (h : History) (log : List Entry) : History := log.foldl push h

/-- the cap is kept, and numbers below the total were given out -/
structure Sound (h : History) : Prop where
  kept : keep h.cap h.newest = h.newest
  below : ∀ x ∈ h.newest, x.sequence < h.total

theorem keep_keep (cap : Option Nat) (l : List Entry) : keep cap (keep cap l) = keep cap l := by
  cases cap with
  | none => rfl
  | some n => simp [keep, List.take_take]

theorem keep_cons_keep (cap : Option Nat) (x : Entry) (l : List Entry) :
    keep cap (x :: keep cap l) = keep cap (x :: l) := by
  cases cap with
  | none => rfl
  | some n =>
    cases n with
    | zero => rfl
    | succ n => simp [keep, List.take_take]

theorem mem_of_mem_keep {cap : Option Nat} {l : List Entry} {x : Entry} (h : x ∈ keep cap l) : x ∈ l := by
  cases cap with
  | none => exact h
  | some n => exact List.mem_of_mem_take h

/-- nothing was dropped when as many are left -/
theorem keep_of_length {cap : Option Nat} {l : List Entry} (h : (keep cap l).length = l.length) : keep cap l = l := by
  cases cap with
  | none => rfl
  | some n =>
    rw [keep, List.length_take] at h
    exact List.take_of_length_le (by omega)

theorem Sound.push {h : History} (hs : h.Sound) {x : Entry} (hx : x.sequence = h.total) : (h.push x).Sound where
  kept := keep_keep h.cap _
  below y hy := by
    rcases List.mem_cons.1 (mem_of_mem_keep hy) with rfl | hy
    · exact hx ▸ Nat.lt_succ_self _
    · exact Nat.lt_succ_of_lt (hs.below y hy)

theorem extend_append (h : History) (l l' : List Entry) : h.extend (l ++ l') = (h.extend l).extend l' :=
  List.foldl_append

@[simp] theorem cap_extend (h : History) (log : List Entry) : (h.extend log).cap = h.cap := by
  induction log generalizing h with
  | nil => rfl
  | cons x log ih => exact ih (h.push x)

@[simp] theorem total_extend (h : History) (log : List Entry) : (h.extend log).total = h.total + log.length := by
  induction log generalizing h with
  | nil => rfl
  | cons x log ih =>
    rw [List.length_cons, Nat.add_comm log.length, ← Nat.add_assoc]
    exact ih (h.push x)

theorem newest_extend {h : History} (hs : h.Sound) (log : List Entry) :
    (h.extend log).newest = keep h.cap (log.reverse ++ h.newest) := by
  induction log using List.reverseRecOn with
  | nil => exact hs.kept.symm
  | append_singleton log x ih =>
    rw [extend_append, List.reverse_append, List.reverse_singleton, List.singleton_append, List.cons_append,
      ← keep_cons_keep, ← ih, ← cap_extend h log]
    rfl

/-- the entries that were put at the end are those from the old total on, as far as they are kept -/
theorem since_extend {h : History} (hs : h.Sound) {log : List Entry} (hn : ∀ x ∈ log, h.total ≤ x.sequence) :
    (h.extend log).since h.total = (keep h.cap log.reverse).reverse := by
  have hold : ∀ l, l ⊆ h.newest → l.filter (fun x => decide (h.total ≤ x.sequence)) = [] := by
    intro l hl
    refine List.filter_eq_nil_iff.2 fun x hx => ?_
    simpa using hs.below x (hl hx)
  have hnew : ∀ l, l ⊆ log.reverse → l.filter (fun x => decide (h.total ≤ x.sequence)) = l := by
    intro l hl
    refine List.filter_eq_self.2 fun x hx => ?_
    simpa using hn x (List.mem_reverse.1 (hl hx))
  rw [since, entries, newest_extend hs, List.filter_reverse]
  congr 1
  cases hc : h.cap with
  | none => simp only [keep, List.filter_append, hold _ (List.Subset.refl _), hnew _ (List.Subset.refl _),
      List.append_nil]
  | some n => simp only [keep, List.take_append, List.filter_append, hold _ (List.take_subset ..),
      hnew _ (List.take_subset ..), List.append_nil]

end History

/-! ## Trails -/

namespace Store

/-- from `s` to `t`, one change of a key is recorded, as `x` -/
inductive Recorded (s : Store) (x : Entry) : Store → Prop where
  /-- that a key was cleared which was not there is entered, and not told -/
  | noted {k : Key} (sequence : x.sequence = s.history.total) (key : x.key = some k) (absent : s.data[k]? = none)
      (prior : x.prior = none) (new : x.new = none) : Recorded s x { s with history := s.history.push x }
  /-- any other change is carried out, entered and told -/
  | told {k : Key} (sequence : x.sequence = s.history.total) (key : x.key = some k) (prior : x.prior = s.data[k]?)
      (changed : x.prior.isSome ∨ x.new.isSome) :
      Recorded s x { s with
        data := s.data.assign k x.new
        history := s.history.push x
        bus := (s.bus.dispatch ⟨k, x.operation, x.new, x.source⟩).2 }

/-- from `s` to `t`, changes of keys are recorded one after the other, as `log` -/
inductive Trail : Store → List Entry → Store → Prop where
  | nil (s : Store) : Trail s [] s
  | cons {s t u : Store} {x : Entry} {log : List Entry} (h : Recorded s x t) (rest : Trail t log u) :
      Trail s (x :: log) u

/-- what no recorded change touches -/
structure Frame (s t : Store) : Prop where
  config : t.config = s.config
  keys : t.keys = s.keys
  source : t.source = s.source

theorem Frame.refl (s : Store) : Frame s s := ⟨rfl, rfl, rfl⟩

theorem Frame.trans {s t u : Store} (h : Frame s t) (h' : Frame t u) : Frame s u :=
  ⟨h'.config.trans h.config, h'.keys.trans h.keys, h'.source.trans h.source⟩

theorem Frame.resolve {s t : Store} (h : Frame s t) (k : KeyRef) : t.resolve k = s.resolve k :=
  congrArg (fun keys : KeyRules => (keys.resolve k).mapError StoreError.key) h.keys

/-- the entries of `log` lead from the history and the mapping of `s` to those of `t` -/
structure Accounts (s : Store) (log : List Entry) (t : Store) : Prop where
  history : t.history = s.history.extend log
  numbered : log.map Entry.sequence = List.range' s.history.total log.length
  data : t.data = s.data.replay log
  truthful : Truthful s.data log

theorem Accounts.nil {s t : Store} (hh : t.history = s.history) (hd : t.data = s.data) : Accounts s [] t :=
  ⟨hh, rfl, hd, .nil _⟩

theorem Accounts.append {s t u : Store} {l l' : List Entry} (h : Accounts s l t) (h' : Accounts t l' u) :
    Accounts s (l ++ l') u where
  history := by rw [h'.history, h.history, History.extend_append]
  numbered := by
    rw [List.map_append, h.numbered, h'.numbered, h.history, History.total_extend, List.length_append,
      List.range'_append_1]
  data := by rw [h'.data, h.data, Mapping.replay_append]
  truthful := h.truthful.append (h.data ▸ h'.truthful)

namespace Recorded

variable {s t : Store} {x : Entry}

theorem frame (h : Recorded s x t) : Frame s t := by
  cases h with
  | noted => exact ⟨rfl, rfl, rfl⟩
  | told => exact ⟨rfl, rfl, rfl⟩

theorem accounts (h : Recorded s x t) : Accounts s [x] t := by
  cases h with
  | @noted k sequence key absent prior new =>
    refine ⟨rfl, by simp [sequence], ?_, .cons key (by rw [prior, absent]) (.nil _)⟩
    simp only [Mapping.replay_cons, Mapping.replay_nil, Entry.redo, key, new, Mapping.assign]
    exact (Mapping.erase_of_absent absent).symm
  | @told k sequence key prior changed =>
    refine ⟨rfl, by simp [sequence], ?_, .cons key prior (.nil _)⟩
    simp only [Mapping.replay_cons, Mapping.replay_nil, Entry.redo, key]

/-- the source is not looked at -/
theorem asSource (source : Source) (h : Recorded s x t) : Recorded { s with source } x { t with source } := by
  cases h with
  | noted sequence key absent prior new => exact .noted sequence key absent prior new
  | told sequence key prior changed => exact .told sequence key prior changed

end Recorded

namespace Trail

variable {s t u : Store} {l l' : List Entry}

theorem single {x : Entry} (h : Recorded s x t) : Trail s [x] t := .cons h (.nil t)

theorem append (h : Trail s l t) (h' : Trail t l' u) : Trail s (l ++ l') u := by
  induction h with
  | nil => exact h'
  | cons h _ ih => exact .cons h (ih h')

theorem frame (h : Trail s l t) : Frame s t := by
  induction h with
  | nil s => exact Frame.refl s
  | cons h _ ih => exact h.frame.trans ih

/-- **Trails account for what they change.** -/
theorem accounts (h : Trail s l t) : Accounts s l t := by
  induction h with
  | nil s => exact .nil rfl rfl
  | cons h _ ih => exact h.accounts.append ih

theorem asSource (source : Source) (h : Trail s l t) : Trail { s with source } l { t with source } := by
  induction h with
  | nil s => exact .nil _
  | cons h _ ih => exact .cons (h.asSource source) ih

end Trail

namespace Accounts

variable {s t : Store} {log : List Entry}

theorem le_sequence (h : Accounts s log t) {x : Entry} (hx : x ∈ log) : s.history.total ≤ x.sequence := by
  have : x.sequence ∈ List.range' s.history.total log.length := h.numbered ▸ List.mem_map_of_mem hx
  exact (List.mem_range'_1.1 this).1

theorem sequence_lt (h : Accounts s log t) {x : Entry} (hx : x ∈ log) : x.sequence < t.history.total := by
  have : x.sequence ∈ List.range' s.history.total log.length := h.numbered ▸ List.mem_map_of_mem hx
  rw [h.history, History.total_extend]
  exact (List.mem_range'_1.1 this).2

end Accounts

end Store
end ScopedStore
