/-
Sets of characters have the members that their notation says.

A list of ranges is `Ordered` when the lower ends do not fall. Looking up a code point in an ordered list finds it
exactly when it lies in a range (`inRanges_iff`); `join` and `merge` keep the order, `join` keeps what lies in the
ranges and `merge` puts two lists together.
- `contains_ofTable`, `contains_single`, `contains_union`, `contains_unions`: the members of a table, of a character, of
  a union, and of a union of tables.
-/
import Mathlib.Data.List.TakeWhile
import Mathlib.Tactic
import ScopedStore.Pattern.Property

namespace ScopedStore

namespace Unicode

/-- the code point lies in one of the ranges -/
def Lies (rows : List (Nat × Nat)) (n : Nat) : Prop := ∃ row ∈ rows, row.1 ≤ n ∧ n ≤ row.2

/-- the lower ends of the ranges do not fall -/
def Ordered (rows : List (Nat × Nat)) : Prop := rows.Pairwise fun x y => x.1 ≤ y.1

variable {rows : List (Nat × Nat)} {row : Nat × Nat} {n : Nat}

theorem lies_cons : Lies (row :: rows) n ↔ (row.1 ≤ n ∧ n ≤ row.2) ∨ Lies rows n := by simp [Lies]

/-- a table is ordered when each row begins no later than the next -/
theorem ordered_iff_isChain : Ordered rows ↔ rows.IsChain fun x y => x.1 ≤ y.1 := by
  have htrans : IsTrans (Nat × Nat) fun x y => x.1 ≤ y.1 := ⟨fun _ _ _ => Nat.le_trans⟩
  exact List.isChain_iff_pairwise.symm

instance (rows : List (Nat × Nat)) : Decidable (Ordered rows) := decidable_of_iff _ ordered_iff_isChain.symm

/-- **Looking up a code point finds it where it lies.** -/
theorem inRanges_iff (h : Ordered rows) : inRanges rows n = true ↔ Lies rows n := by
  refine ⟨exists_row_of_inRanges, fun hl => ?_⟩
  induction rows with
  | nil => simp [Lies] at hl
  | cons row rows ih =>
    obtain ⟨hfirst, hrest⟩ := List.pairwise_cons.1 h
    rcases lies_cons.1 hl with ⟨hlow, hhigh⟩ | ⟨later, hm, hlow, hhigh⟩
    · simp [inRanges, Nat.not_lt.2 hlow, hhigh]
    · -- the row that holds the code point stands further back, so the search does not stop here
      have hstart : ¬n < row.1 := Nat.not_lt.2 ((hfirst later hm).trans hlow)
      simp [inRanges, hstart, ih hrest ⟨later, hm, hlow, hhigh⟩]

/-- what is left of an ordered list when the ranges are dropped that begin early begins late -/
theorem Ordered.lt_of_mem_dropWhile (h : Ordered rows) (bound : Nat) :
    ∀ row ∈ rows.dropWhile (·.1 ≤ bound), bound < row.1 := by
  induction rows with
  | nil => simp
  | cons row rows ih =>
    obtain ⟨hfirst, hrest⟩ := List.pairwise_cons.1 h
    by_cases hr : row.1 ≤ bound
    · rw [List.dropWhile_cons_of_pos (by simpa using hr)]
      exact ih hrest
    · rw [List.dropWhile_cons_of_neg (by simpa using hr)]
      refine List.forall_mem_cons.2 ⟨by omega, fun later hm => ?_⟩
      have := hfirst later hm
      omega

end Unicode

namespace Pattern.CharSet

open Unicode

variable {rows xs ys : List (Nat × Nat)} {low high n : Nat} {s t : CharSet} {c : Char}

/-! ## Joining -/

/-- joining only drops lower ends -/
theorem sublist_joinFrom (low high : Nat) (rows : List (Nat × Nat)) :
    ((joinFrom low high rows).map Prod.fst).Sublist (low :: rows.map Prod.fst) := by
  induction rows generalizing low high with
  | nil => simp [joinFrom]
  | cons row rows ih =>
    obtain ⟨a, b⟩ := row
    rw [joinFrom]
    split_ifs
    · exact (ih low (max high b)).trans ((List.sublist_cons_self a _).cons_cons low)
    · exact (ih a b).cons_cons low

theorem lies_joinFrom (h : Ordered ((low, high) :: rows)) :
    Lies (joinFrom low high rows) n ↔ Lies ((low, high) :: rows) n := by
  induction rows generalizing low high with
  | nil => rfl
  | cons row rows ih =>
    obtain ⟨a, b⟩ := row
    obtain ⟨hfirst, hrest⟩ := List.pairwise_cons.1 h
    have hle : low ≤ a := hfirst (a, b) List.mem_cons_self
    rw [joinFrom]
    split_ifs with htouch
    · have hjoined : Ordered ((low, max high b) :: rows) :=
        List.pairwise_cons.2 ⟨fun row hm => hfirst row (List.mem_cons_of_mem _ hm), (List.pairwise_cons.1 hrest).2⟩
      rw [ih hjoined, lies_cons, lies_cons, lies_cons]
      -- between the two ranges there is nothing
      have hrange : low ≤ n ∧ n ≤ max high b ↔ (low ≤ n ∧ n ≤ high) ∨ (a ≤ n ∧ n ≤ b) := by omega
      rw [hrange, or_assoc]
    · rw [lies_cons, ih hrest, @lies_cons ((a, b) :: rows)]

theorem ordered_join (h : Ordered rows) : Ordered (join rows) := by
  cases rows with
  | nil => exact h
  | cons row rows => exact List.pairwise_map.1 ((List.pairwise_map.2 h).sublist (sublist_joinFrom row.1 row.2 rows))

theorem lies_join (h : Ordered rows) : Lies (join rows) n ↔ Lies rows n := by
  cases rows with
  | nil => rfl
  | cons row rows => exact lies_joinFrom h

/-! ## Merging -/

theorem mem_merge {row : Nat × Nat} : ∀ {xs ys : List (Nat × Nat)}, row ∈ merge xs ys ↔ row ∈ xs ∨ row ∈ ys
  | [], ys => by simp [merge]
  | x :: xs, ys => by
    have hsplit : row ∈ ys ↔ row ∈ ys.takeWhile (·.1 ≤ x.1) ∨ row ∈ ys.dropWhile (·.1 ≤ x.1) := by
      rw [← List.mem_append, List.takeWhile_append_dropWhile]
    rw [merge, List.mem_append, List.mem_cons, mem_merge, List.mem_cons, hsplit]
    tauto

theorem lies_merge : Lies (merge xs ys) n ↔ Lies xs n ∨ Lies ys n := by
  simp only [Lies, mem_merge, or_and_right, exists_or]

theorem ordered_merge : ∀ {xs ys : List (Nat × Nat)}, Ordered xs → Ordered ys → Ordered (merge xs ys)
  | [], ys, _, hy => hy
  | x :: xs, ys, hx, hy => by
    obtain ⟨hfirst, hrest⟩ := List.pairwise_cons.1 hx
    have hlate : ∀ row ∈ merge xs (ys.dropWhile (·.1 ≤ x.1)), x.1 ≤ row.1 := fun row hm => by
      rcases mem_merge.1 hm with hm | hm
      · exact hfirst row hm
      · exact (Ordered.lt_of_mem_dropWhile hy x.1 row hm).le
    have hearly : ∀ row ∈ ys.takeWhile (·.1 ≤ x.1), row.1 ≤ x.1 := fun row hm => by
      simpa using List.mem_takeWhile_imp hm
    refine List.pairwise_append.2 ⟨hy.sublist (List.takeWhile_sublist _), List.pairwise_cons.2 ⟨hlate, ?_⟩, ?_⟩
    · exact ordered_merge hrest (hy.sublist (List.dropWhile_sublist _))
    · rintro row hm later hl
      rcases List.mem_cons.1 hl with rfl | hl
      · exact hearly row hm
      · exact (hearly row hm).trans (hlate later hl)

/-! ## Sets -/

theorem ordered_ofTable (h : Ordered rows) : Ordered (ofTable rows).ranges := ordered_join h

theorem contains_ofTable (h : Ordered rows) : (ofTable rows).contains c = true ↔ inRanges rows c.toNat = true := by
  rw [contains, ofTable, inRanges_iff (ordered_join h), lies_join h, inRanges_iff h]

theorem contains_single {d : Char} : (single c).contains d = true ↔ d = c := by
  simp only [contains, single, range, inRanges]
  rw [← Char.toNat_inj]
  split_ifs <;> simp <;> omega

theorem ordered_union (hs : Ordered s.ranges) (ht : Ordered t.ranges) : Ordered (s.union t).ranges :=
  ordered_join (ordered_merge hs ht)

theorem contains_union (hs : Ordered s.ranges) (ht : Ordered t.ranges) :
    (s.union t).contains c = true ↔ s.contains c = true ∨ t.contains c = true := by
  have hm := ordered_merge hs ht
  simp only [contains, union, inRanges_iff (ordered_join hm), lies_join hm, lies_merge, inRanges_iff hs,
    inRanges_iff ht]

theorem ordered_unions {tables : List (List (Nat × Nat))} (h : ∀ rows ∈ tables, Ordered rows) :
    Ordered (ofTables (.unions (tables.map .rows))).ranges := by
  induction tables with
  | nil => exact .nil
  | cons rows tables ih =>
    obtain ⟨hfirst, hrest⟩ := List.forall_mem_cons.1 h
    exact ordered_union (ordered_ofTable hfirst) (ih hrest)

/-- **A union of tables has the members of its tables.** -/
theorem contains_unions {tables : List (List (Nat × Nat))} (h : ∀ rows ∈ tables, Ordered rows) :
    (ofTables (.unions (tables.map .rows))).contains c = true ↔ ∃ rows ∈ tables, inRanges rows c.toNat = true := by
  induction tables with
  | nil => simp [TableSet.unions, ofTables, ofTable, join, contains, inRanges]
  | cons rows tables ih =>
    obtain ⟨hfirst, hrest⟩ := List.forall_mem_cons.1 h
    have hparts : ofTables (.unions ((rows :: tables).map .rows)) =
      (ofTable rows).union (ofTables (.unions (tables.map .rows))) := rfl
    rw [hparts, contains_union (ordered_ofTable hfirst) (ordered_unions hrest), contains_ofTable hfirst, ih hrest]
    simp

end Pattern.CharSet
end ScopedStore
