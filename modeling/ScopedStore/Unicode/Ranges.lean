/-
Sets and maps of code points as sorted tables: closed ranges, ranges with a stride (every second code point of an
alphabet that interleaves its cases), and strides with a distance to a partner.
-/

namespace ScopedStore.Unicode

/-- membership in a sorted table of closed ranges -/
def inRanges : List (Nat × Nat) → Nat → Bool
  | [], _ => false
  | (lo, hi) :: rows, n => if n < lo then false else if n ≤ hi then true else inRanges rows n

/-- every `step`-th code point from `lo` to `hi` -/
def inStride (row : Nat × Nat × Nat) (n : Nat) : Bool :=
  row.1 ≤ n && n ≤ row.2.1 && (n - row.1) % row.2.2 == 0

/-- the members of a row of strides, in order -/
def strideMembers (row : Nat × Nat × Nat) : List Nat :=
  (List.range ((row.2.1 - row.1) / row.2.2 + 1)).map fun i => row.1 + i * row.2.2

/-- a row of strides as closed ranges: one range if it leaves nothing out, and else one for each member -/
def strideRanges (row : Nat × Nat × Nat) : List (Nat × Nat) :=
  if row.2.2 = 1 then [(row.1, row.2.1)] else (strideMembers row).map fun n => (n, n)

/-- `n` moved by the distance of the row that holds it; a code point in no row stays -/
def shifted : List (Nat × Nat × Nat × Int) → Nat → Nat
  | [], n => n
  | (lo, hi, step, distance) :: rows, n =>
    if n < lo then n
    else if inStride (lo, hi, step) n then ((n : Int) + distance).toNat
    else shifted rows n

/-- a member of the table lies in one of its rows -/
theorem exists_row_of_inRanges {rows : List (Nat × Nat)} {n : Nat} (h : inRanges rows n = true) :
    ∃ row ∈ rows, row.1 ≤ n ∧ n ≤ row.2 := by
  induction rows with
  | nil => simp [inRanges] at h
  | cons row rows ih =>
    obtain ⟨lo, hi⟩ := row
    simp only [inRanges] at h
    split at h
    · simp at h
    · split at h
      · exact ⟨(lo, hi), by simp, by omega, by assumption⟩
      · obtain ⟨r, hr, hn⟩ := ih h
        exact ⟨r, by simp [hr], hn⟩

end ScopedStore.Unicode
