/-
A history as a window on what was recorded.

`History.numbered` are the entries for changes, numbered in their order, and `History.retained` is how many of so many
entries a cap lets stay. Numbers are consecutive in the window, so a query by number cuts it (`since_eq_drop`), and
agrees with a query by count.

Main result, `a_history_is_a_window`: after any changes, the history holds the last entries for them, as many as the cap
lets stay; what is recorded later only takes entries off the front; and `since`, `latest` and `forKey` give the part of
the window that they are asked for.
-/
import ScopedStore.Proofs.Trail

namespace ScopedStore
namespace History

/-- a change, and who makes it when -/
abbrev Recording := Origin × Change

/-- the history after changes are recorded, one after the other -/
def record (h : History) (changes : List Recording) : History := changes.foldl (fun h c => h.append c.1 c.2) h

/-- the entries for changes, numbered from `n` on -/
def numbered (n : Nat) : List Recording → List Entry
  | [] => []
  | (o, c) :: changes => ⟨n, o.time, c.operation, c.key, c.prior, c.new, o.source⟩ :: numbered (n + 1) changes

/-- how many of `n` entries stay -/
def retained (cap : Option Nat) (n : Nat) : Nat := cap.elim n (min n)

theorem retained_le (cap : Option Nat) (n : Nat) : retained cap n ≤ n := by
  cases cap with
  | none => exact Nat.le_refl n
  | some c => exact Nat.min_le_left n c

/-! ## Numbers -/

@[simp] theorem length_numbered (n : Nat) (changes : List Recording) :
    (numbered n changes).length = changes.length := by
  induction changes generalizing n with
  | nil => rfl
  | cons c changes ih => simp [numbered, ih]

theorem numbered_append (n : Nat) (changes later : List Recording) :
    numbered n (changes ++ later) = numbered n changes ++ numbered (n + changes.length) later := by
  induction changes generalizing n with
  | nil => rfl
  | cons c changes ih =>
    have hnext : n + 1 + changes.length = n + (c :: changes).length := by simp; omega
    rw [List.cons_append, numbered, numbered, ih, hnext, List.cons_append]

theorem sequences_numbered (n : Nat) (changes : List Recording) :
    (numbered n changes).map Entry.sequence = List.range' n changes.length := by
  induction changes generalizing n with
  | nil => rfl
  | cons c changes ih => rw [numbered, List.map_cons, ih, List.length_cons, List.range'_succ]

/-- in a list that is numbered from `n` on, the entries from a number on are all but the first ones -/
theorem filter_le_sequence {l : List Entry} {n : Nat} (hl : l.map Entry.sequence = List.range' n l.length) (s : Nat) :
    l.filter (s ≤ ·.sequence) = l.drop (s - n) := by
  induction l generalizing n with
  | nil => simp
  | cons x l ih =>
    rw [List.map_cons, List.length_cons, List.range'_succ] at hl
    obtain ⟨hx, hl⟩ := List.cons.inj hl
    by_cases hs : s ≤ n
    · have hall : ∀ y ∈ x :: l, decide (s ≤ y.sequence) = true := by
        intro y hy
        rcases List.mem_cons.1 hy with rfl | hy
        · exact decide_eq_true (hx ▸ hs)
        · have hmem : y.sequence ∈ List.range' (n + 1) l.length := hl ▸ List.mem_map_of_mem hy
          have hlower : n + 1 ≤ y.sequence := (List.mem_range'_1.1 hmem).1
          exact decide_eq_true (by omega)
      rw [List.filter_eq_self.2 hall, Nat.sub_eq_zero_of_le hs, List.drop_zero]
    · have hfirst : ¬decide (s ≤ x.sequence) = true := by simpa [hx] using hs
      have hlength : s - n = s - (n + 1) + 1 := by omega
      rw [List.filter_cons, if_neg hfirst, ih hl, hlength, List.drop_succ_cons]

/-! ## Runs -/

theorem record_eq_extend (h : History) (changes : List Recording) :
    h.record changes = h.extend (numbered h.total changes) := by
  induction changes generalizing h with
  | nil => rfl
  | cons c changes ih => exact ih (h.append c.1 c.2)

theorem record_append (h : History) (changes later : List Recording) :
    h.record (changes ++ later) = (h.record changes).record later :=
  List.foldl_append

theorem sound_new (cap : Option Nat) : Sound { cap } := by
  refine ⟨?_, nofun⟩
  cases cap with
  | none => rfl
  | some n => exact List.take_nil

@[simp] theorem total_record (cap : Option Nat) (changes : List Recording) :
    (record { cap } changes).total = changes.length := by
  rw [record_eq_extend, total_extend, length_numbered]
  exact Nat.zero_add _

/-- to keep the newest ones is to drop the oldest ones -/
theorem reverse_keep_reverse (cap : Option Nat) (l : List Entry) :
    (keep cap l.reverse).reverse = l.drop (l.length - retained cap l.length) := by
  cases cap with
  | none => simp [keep, retained]
  | some n =>
    have hmin : l.length - min l.length n = l.length - n := by omega
    change (l.reverse.take n).reverse = l.drop (l.length - min l.length n)
    rw [List.reverse_take, List.reverse_reverse, List.length_reverse, hmin]

/-- **What is retained.** These are the last entries, as many as the cap lets stay. -/
theorem entries_record (cap : Option Nat) (changes : List Recording) :
    (record { cap } changes).entries =
      (numbered 0 changes).drop (changes.length - retained cap changes.length) := by
  calc (record { cap } changes).entries
      = (keep cap ((numbered 0 changes).reverse ++ [])).reverse := by
        rw [record_eq_extend, entries, newest_extend (sound_new cap)]
    _ = (numbered 0 changes).drop ((numbered 0 changes).length - retained cap (numbered 0 changes).length) := by
        rw [List.append_nil, reverse_keep_reverse]
    _ = (numbered 0 changes).drop (changes.length - retained cap changes.length) := by
        rw [length_numbered]

theorem length_entries_record (cap : Option Nat) (changes : List Recording) :
    (record { cap } changes).entries.length = retained cap changes.length := by
  have hle := retained_le cap changes.length
  rw [entries_record, List.length_drop, length_numbered]
  omega

theorem sequences_record (cap : Option Nat) (changes : List Recording) :
    (record { cap } changes).entries.map Entry.sequence =
      List.range' (changes.length - retained cap changes.length) (retained cap changes.length) := by
  have hlength : changes.length - (changes.length - retained cap changes.length) = retained cap changes.length := by
    have hle := retained_le cap changes.length
    omega
  rw [entries_record, List.map_drop, sequences_numbered, List.drop_range', Nat.zero_add, Nat.mul_one, hlength]

/-- **What is recorded later** only takes entries off the front. -/
theorem suffix_record_append (cap : Option Nat) (changes later : List Recording) :
    (record { cap } (changes ++ later)).entries <:+
      (record { cap } changes).entries ++ numbered changes.length later := by
  have hless : changes.length - retained cap changes.length ≤
      (changes ++ later).length - retained cap (changes ++ later).length := by
    rw [List.length_append]
    cases cap with
    | none => simp [retained]
    | some n => simp only [retained, Option.elim]; omega
  obtain ⟨more, hmore⟩ := Nat.le.dest hless
  have hle : changes.length - retained cap changes.length ≤ (numbered 0 changes).length := by
    rw [length_numbered]
    exact Nat.sub_le ..
  have hsplit : (numbered 0 changes ++ numbered changes.length later).drop
      (changes.length - retained cap changes.length) =
      (numbered 0 changes).drop (changes.length - retained cap changes.length) ++ numbered changes.length later :=
    List.drop_append_of_le_length hle
  rw [entries_record, entries_record, numbered_append, Nat.zero_add, ← hsplit, ← hmore, ← List.drop_drop]
  exact List.drop_suffix more _

/-! ## Queries -/

theorem since_eq_drop (cap : Option Nat) (changes : List Recording) (s : Nat) :
    (record { cap } changes).since s =
      (record { cap } changes).entries.drop (s - (changes.length - retained cap changes.length)) := by
  refine filter_le_sequence ?_ s
  rw [sequences_record, length_entries_record]

/-- **The last entries** are those from a number on. -/
theorem latest_eq_since (cap : Option Nat) (changes : List Recording) (m : Nat) :
    (record { cap } changes).latest m = (record { cap } changes).since (changes.length - m) := by
  have hle := retained_le cap changes.length
  have hcut : retained cap changes.length - m =
      changes.length - m - (changes.length - retained cap changes.length) := by omega
  rw [since_eq_drop, latest, length_entries_record, hcut]

theorem length_latest (h : History) (m : Nat) : (h.latest m).length = min m h.length := by
  have hlength : h.entries.length = h.length := List.length_reverse
  rw [latest, List.length_drop, hlength]
  omega

/-- **A history is a window.** Take any changes, recorded in a new history with any cap. All of them are counted. The
entries for the last ones are retained, as many as the cap lets stay, unmodified, the oldest first and numbered up to
the last one; changes that are recorded later take entries off the front and put theirs at the end. What is asked for
from a number on is the suffix with these numbers. The last `m` entries are a suffix, of that length as far as there are
enough; with the number of all changes known, the same is asked for by a number. What is asked for by key is what is
about it, in order. -/
theorem a_history_is_a_window (cap : Option Nat) (changes : List Recording) :
    let h := record { cap } changes
    let n := changes.length
    (h.total = n ∧ h.length = retained cap n ∧ h.entries <:+ numbered 0 changes ∧
      h.entries.map Entry.sequence = List.range' (n - retained cap n) (retained cap n)) ∧
      (∀ later, (h.record later).entries <:+ h.entries ++ numbered n later) ∧
      (∀ s, h.since s <:+ h.entries ∧ ∀ x, x ∈ h.since s ↔ x ∈ h.entries ∧ s ≤ x.sequence) ∧
      (∀ m, h.latest m <:+ h.entries ∧ (h.latest m).length = min m h.length ∧ h.latest m = h.since (n - m)) ∧
      ∀ k, (h.forKey k).Sublist h.entries ∧ ∀ x, x ∈ h.forKey k ↔ x ∈ h.entries ∧ x.key = some k := by
  intro h n
  refine ⟨⟨total_record cap changes, ?_, ?_, sequences_record cap changes⟩,
    fun later => ?_, fun s => ⟨?_, fun x => ?_⟩, fun m => ⟨List.drop_suffix .., length_latest h m, ?_⟩,
    fun k => ⟨List.filter_sublist, fun x => ?_⟩⟩
  · rw [← length_entries_record]
    exact List.length_reverse.symm
  · rw [entries_record]
    exact List.drop_suffix ..
  · rw [← record_append]
    exact suffix_record_append cap changes later
  · rw [since_eq_drop]
    exact List.drop_suffix ..
  · rw [since, List.mem_filter, decide_eq_true_eq]
  · exact latest_eq_since cap changes m
  · rw [forKey, List.mem_filter, decide_eq_true_eq]

/-- room for two of three entries, for none, and a query from before the window -/
example :
    let change (o : Operation) : Recording := (⟨.user, 7⟩, ⟨o, some ⟨"env", "a"⟩, none, some "1"⟩)
    let changes := [change .set, change .increment, change .set]
    (record { cap := some 2 } changes).entries.map (·.sequence) = [1, 2] ∧
      ((record { cap := some 2 } changes).since 0).map (·.sequence) = [1, 2] ∧
      ((record { cap := some 2 } changes).latest 1).map (·.sequence) = [2] ∧
      (record { cap := some 0 } changes).entries = [] ∧ (record { cap := some 0 } changes).total = 3 := by
  decide

end History
end ScopedStore
