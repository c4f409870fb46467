/-
Where a track leads from a set of places.

A number stands for the set of the places whose bits it has (`placesOf`), and a track for the steps from place to place
that it allows (`Track.Leads`). What a track was sent before does not change where it leads, only what is told again:
`Remembers` says of a memory that it is the one after certain places were sent in, and `feed_spec` that feeding keeps
this and adds what is reached for the first time. Rounds through a loop end because each but the last enters it from a
new place (`circle_spec`).

Main result, `placesOf_reach`: a track reaches all places that it leads to and no other.
-/
import Mathlib.Tactic
import Mathlib.Data.Nat.Bitwise
import Mathlib.Logic.Relation
import ScopedStore.Pattern.Search

namespace ScopedStore.Pattern

/-! ## Sets of places -/

/-- the places in a set that is written as a number -/
def placesOf (n : Nat) : Set Nat := {i | n.testBit i = true}

variable {m n i j k size : Nat}

instance (i n : Nat) : Decidable (i ∈ placesOf n) := inferInstanceAs (Decidable (n.testBit i = true))

theorem mem_placesOf : i ∈ placesOf n ↔ n.testBit i = true := Iff.rfl

@[simp] theorem placesOf_zero : placesOf 0 = ∅ := by
  ext i
  simp [mem_placesOf]

theorem placesOf_eq_empty : placesOf n = ∅ ↔ n = 0 := by
  refine ⟨fun h => Nat.zero_of_testBit_eq_false fun i => ?_, fun h => h ▸ placesOf_zero⟩
  simpa [mem_placesOf] using Set.eq_empty_iff_forall_notMem.1 h i

@[simp] theorem placesOf_or : placesOf (m ||| n) = placesOf m ∪ placesOf n := by
  ext i
  simp [mem_placesOf]

@[simp] theorem placesOf_and : placesOf (m &&& n) = placesOf m ∩ placesOf n := by
  ext i
  simp [mem_placesOf]

@[simp] theorem placesOf_without : placesOf (without m n) = placesOf m \ placesOf n := by
  ext i
  simp only [mem_placesOf, without, Nat.testBit_xor, Nat.testBit_or, Set.mem_sdiff]
  cases m.testBit i <;> cases n.testBit i <;> simp

@[simp] theorem mem_placesTo : i ∈ placesOf (placesTo n) ↔ i ≤ n := by
  simp [mem_placesOf, placesTo, Nat.one_shiftLeft, Nat.testBit_two_pow_sub_one]

theorem mem_placesOf_shiftLeft : j ∈ placesOf (n <<< k) ↔ ∃ i ∈ placesOf n, j = i + k := by
  simp only [mem_placesOf, Nat.testBit_shiftLeft, Bool.and_eq_true, decide_eq_true_eq]
  constructor
  · rintro ⟨hk, hj⟩
    exact ⟨j - k, hj, by omega⟩
  · rintro ⟨i, hi, rfl⟩
    exact ⟨by omega, by simpa using hi⟩

theorem mem_placesOf_bits {bs : List Bool} : i ∈ placesOf (bits bs) ↔ bs[i]? = some true := by
  induction bs generalizing i with
  | nil => simp [bits]
  | cons b bs ih =>
    have hb : bits (b :: bs) = Nat.bit b (bits bs) := (Nat.bit_val b (bits bs)).symm
    rw [mem_placesOf, hb]
    cases i with
    | zero => simp
    | succ i => simpa [Nat.testBit_bit_succ, mem_placesOf] using ih

theorem Memory.split_both (a b : Memory) : (a.both b).split = (a, b) := by
  cases a <;> cases b <;> rfl

/-! ## Tracks -/

namespace Track

/-- the track leads from one place to another -/
def Leads : Track → Nat → Nat → Prop
  | .jump here distance, i, j => i ∈ placesOf here ∧ j = i + distance
  | .cat a b, i, k => ∃ j, a.Leads i j ∧ b.Leads j k
  | .alt a b, i, j => a.Leads i j ∨ b.Leads i j
  | .loop a, i, j => Relation.TransGen a.Leads i j

/-- every jump in the track stays within a text of `size` characters -/
def Within (size : Nat) : Track → Prop
  | .jump here distance => ∀ i ∈ placesOf here, i + distance ≤ size
  | .cat a b => a.Within size ∧ b.Within size
  | .alt a b => a.Within size ∧ b.Within size
  | .loop a => a.Within size

/-- the places that the track leads to from a set of places -/
def spread (t : Track) (s : Set Nat) : Set Nat := {j | ∃ i ∈ s, t.Leads i j}

/-- the places that a loop around the track is entered from: those sent in, and those come round to -/
def around (t : Track) (s : Set Nat) : Set Nat := {j | ∃ i ∈ s, Relation.ReflTransGen t.Leads i j}

variable {t a b : Track} {s s' : Set Nat}

theorem Within.leads (h : t.Within size) (hl : t.Leads i j) : i ≤ size ∧ j ≤ size := by
  induction t generalizing i j with
  | jump here distance =>
    obtain ⟨hi, rfl⟩ := hl
    have hj : i + distance ≤ size := h i hi
    exact ⟨by omega, hj⟩
  | cat a b iha ihb =>
    obtain ⟨m, ha, hb⟩ := hl
    exact ⟨(iha h.1 ha).1, (ihb h.2 hb).2⟩
  | alt a b iha ihb =>
    rcases hl with ha | hb
    · exact iha h.1 ha
    · exact ihb h.2 hb
  | loop a ih =>
    induction hl with
    | single ha => exact ih h ha
    | tail _ ha hi => exact ⟨hi.1, (ih h ha).2⟩

theorem Within.spread (h : t.Within size) (s : Set Nat) : ∀ j ∈ t.spread s, j ≤ size := by
  rintro j ⟨i, -, hl⟩
  exact (h.leads hl).2

@[simp] theorem spread_empty : t.spread ∅ = ∅ := by simp [spread]

theorem spread_union : t.spread (s ∪ s') = t.spread s ∪ t.spread s' := by
  ext j
  simp only [spread, Set.mem_ofPred_eq, Set.mem_union, or_and_right, exists_or]

theorem spread_mono (h : s ⊆ s') : t.spread s ⊆ t.spread s' := by
  rintro j ⟨i, hi, hl⟩
  exact ⟨i, h hi, hl⟩

theorem spread_cat : (cat a b).spread s = b.spread (a.spread s) := by
  ext k
  constructor
  · rintro ⟨i, hi, j, ha, hb⟩
    exact ⟨j, ⟨i, hi, ha⟩, hb⟩
  · rintro ⟨j, ⟨i, hi, ha⟩, hb⟩
    exact ⟨i, hi, j, ha, hb⟩

theorem spread_alt : (alt a b).spread s = a.spread s ∪ b.spread s := by
  ext j
  simp only [spread, Leads, Set.mem_ofPred_eq, Set.mem_union, and_or_left, exists_or]

/-! ### Loops -/

theorem subset_around : s ⊆ t.around s := fun i hi => ⟨i, hi, .refl⟩

@[simp] theorem around_empty : t.around ∅ = ∅ := by simp [around]

theorem spread_around_subset : t.spread (t.around s) ⊆ t.around s := by
  rintro k ⟨j, ⟨i, hi, hj⟩, hk⟩
  exact ⟨i, hi, hj.tail hk⟩

/-- the places a loop is entered from are the least set that the track does not lead out of -/
theorem around_subset (h : s ⊆ s') (hs : t.spread s' ⊆ s') : t.around s ⊆ s' := by
  rintro j ⟨i, hi, hj⟩
  induction hj with
  | refl => exact h hi
  | tail _ hl ih => exact hs ⟨_, ih, hl⟩

theorem around_eq_of_subset (h : s ⊆ s') (hs : s' ⊆ t.around s) : t.around s' = t.around s :=
  (around_subset hs spread_around_subset).antisymm (around_subset (h.trans subset_around) spread_around_subset)

theorem spread_loop : (loop a).spread s = a.spread (a.around s) := by
  ext k
  constructor
  · rintro ⟨i, hi, hk⟩
    obtain ⟨j, hj, hl⟩ := Relation.TransGen.tail'_iff.1 hk
    exact ⟨j, ⟨i, hi, hj⟩, hl⟩
  · rintro ⟨j, ⟨i, hi, hj⟩, hl⟩
    exact ⟨i, hi, Relation.TransGen.tail'_iff.2 ⟨j, hj, hl⟩⟩

/-! ### Feeding -/

/-- what the track remembers after a set of places was sent in -/
def Remembers : Track → Memory → Set Nat → Prop
  | .jump _ _, _, _ => True
  | .cat a b, memory, s => a.Remembers memory.split.1 s ∧ b.Remembers memory.split.2 (a.spread s)
  | .alt a b, memory, s => a.Remembers memory.split.1 s ∧ b.Remembers memory.split.2 s
  | .loop a, memory, s =>
    placesOf memory.circled.1 = a.around s ∧ a.Remembers memory.circled.2 (placesOf memory.circled.1)

theorem remembers_fresh (t : Track) : t.Remembers .fresh ∅ := by
  induction t with
  | jump _ _ => trivial
  | cat a b iha ihb => exact ⟨iha, by rw [spread_empty]; exact ihb⟩
  | alt a b iha ihb => exact ⟨iha, ihb⟩
  | loop a ih => exact ⟨by simp [Memory.circled], by simpa [Memory.circled] using ih⟩

/-- what comes of places that are sent into the track after a set of others: its memory from then on, and the places
that it leads to, those that it led to before left out where they are told again -/
structure Fed (t : Track) (s : Set Nat) (places : Nat) (result : Memory × Nat) : Prop where
  remembers : t.Remembers result.1 (s ∪ placesOf places)
  spread : t.spread (s ∪ placesOf places) = t.spread s ∪ placesOf result.2

/-- the number of places of a text that a set leaves out -/
def missing (size entered : Nat) : Nat := ((Finset.range (size + 1)).filter (· ∉ placesOf entered)).card

theorem missing_lt (size : Nat) (entered : Nat) : missing size entered < size + 2 := by
  have h : missing size entered ≤ (Finset.range (size + 1)).card := Finset.card_filter_le _ _
  rw [Finset.card_range] at h
  omega

theorem missing_or_lt {entered new : Nat} (hi : i ∈ placesOf new) (hs : i ≤ size) (he : i ∉ placesOf entered) :
    missing size (entered ||| new) < missing size entered := by
  refine Finset.card_lt_card ((Finset.ssubset_iff_of_subset fun j hj => ?_).2 ⟨i, ?_, ?_⟩)
  · simp only [Finset.mem_filter, placesOf_or, Set.mem_union, not_or] at hj ⊢
    exact ⟨hj.1, hj.2.1⟩
  · simp [he, Nat.lt_succ_iff.2 hs]
  · simp [hi]

/-- rounds through a loop. Whatever the track leads to from where the loop was entered is entered or waits, so when
nothing new waits the loop is entered from all that it can be. -/
theorem circle_spec (hw : a.Within size)
    (hround : ∀ memory s places, a.Remembers memory s → (∀ i ∈ placesOf places, i ≤ size) →
      a.Fed s places (a.feed size memory places)) (base : Set Nat) (fuel : Nat) :
    ∀ (memory : Memory) (entered out places : Nat), missing size entered < fuel →
      a.Remembers memory (placesOf entered) → (∀ i ∈ placesOf places, i ≤ size) →
      a.spread (placesOf entered) ⊆ placesOf entered ∪ placesOf places →
      a.spread (placesOf entered) = base ∪ placesOf out →
      ∃ entered' inside out', circle (a.feed size) fuel memory entered out places = (.loop entered' inside, out') ∧
        placesOf entered' = a.around (placesOf entered ∪ placesOf places) ∧
        a.Remembers inside (placesOf entered') ∧ a.spread (placesOf entered') = base ∪ placesOf out' := by
  induction fuel with
  | zero => exact fun _ _ _ _ h => absurd h (Nat.not_lt_zero _)
  | succ fuel ih =>
    intro memory entered out places hfuel hm hp hs hout
    rw [circle]
    by_cases hnew : without places entered = 0
    · have hsub : placesOf places ⊆ placesOf entered := by
        rw [← Set.sdiff_eq_empty, ← placesOf_without, hnew, placesOf_zero]
      rw [Set.union_eq_self_of_subset_right hsub] at hs ⊢
      exact ⟨entered, memory, out, by simp [hnew], subset_around.antisymm (around_subset subset_rfl hs), hm, hout⟩
    · have hunion : placesOf (entered ||| without places entered) = placesOf entered ∪ placesOf places := by simp
      obtain ⟨i, hi⟩ := Set.nonempty_iff_ne_empty.2 (mt placesOf_eq_empty.1 hnew)
      have hin : ∀ j ∈ placesOf (without places entered), j ≤ size := fun j hj =>
        hp j (by rw [placesOf_without] at hj; exact hj.1)
      obtain ⟨hm', hspread⟩ := hround memory _ (without places entered) hm hin
      rw [← placesOf_or] at hm' hspread
      generalize hr : a.feed size memory (without places entered) = result at hm' hspread
      obtain ⟨memory', reached⟩ := result
      have hreached : placesOf reached ⊆ a.spread (placesOf (entered ||| without places entered)) :=
        hspread ▸ Set.subset_union_right
      obtain ⟨entered', inside, out', hc, ha, hrest⟩ := ih memory' (entered ||| without places entered) (out ||| reached)
        reached
        (by
          rw [placesOf_without] at hi
          have hlt : missing size (entered ||| without places entered) < missing size entered :=
            missing_or_lt (by simpa using hi) (hp i hi.1) hi.2
          omega)
        hm' (fun j hj => hw.spread _ j (hreached hj))
        (by rw [hspread, hunion]; exact Set.union_subset_union_left _ hs)
        (by rw [hspread, hout, placesOf_or, Set.union_assoc])
      refine ⟨entered', inside, out', by simp [hnew, hc], ha.trans ?_, hrest⟩
      rw [hunion] at hreached ⊢
      exact around_eq_of_subset Set.subset_union_left
        (Set.union_subset subset_around (hreached.trans ((spread_mono subset_around).trans spread_around_subset)))

/-- feeding keeps the memory right, and tells all that is reached for the first time -/
theorem feed_spec (t : Track) (hw : t.Within size) (memory : Memory) (s : Set Nat) (places : Nat)
    (hm : t.Remembers memory s) (hp : ∀ i ∈ placesOf places, i ≤ size) : t.Fed s places (t.feed size memory places) := by
  induction t generalizing memory s places with
  | jump here distance =>
    refine ⟨trivial, ?_⟩
    rw [spread_union]
    congr 1
    ext j
    simp only [spread, Leads, feed, Set.mem_ofPred_eq, mem_placesOf_shiftLeft, placesOf_and, Set.mem_inter_iff, and_assoc]
  | cat a b iha ihb =>
    obtain ⟨ha, hsa⟩ := iha hw.1 memory.split.1 s places hm.1 hp
    have hin : ∀ j ∈ placesOf (a.feed size memory.split.1 places).2, j ≤ size := fun j hj =>
      hw.1.spread (s ∪ placesOf places) j (hsa ▸ .inr hj)
    obtain ⟨hb, hsb⟩ := ihb hw.2 memory.split.2 (a.spread s) _ hm.2 hin
    rw [← hsa, ← spread_cat, ← spread_cat] at hsb
    rw [← hsa] at hb
    by_cases hz : (a.feed size memory.split.1 places).2 = 0
    · have hsame : a.spread (s ∪ placesOf places) = a.spread s := by simpa [hz] using hsa
      refine ⟨?_, by simp [feed, hz, spread_cat, hsame]⟩
      simpa [feed, hz, Remembers, Memory.split_both, hsame] using ⟨ha, hm.2⟩
    · refine ⟨?_, by simpa [feed, hz] using hsb⟩
      simpa [feed, hz, Remembers, Memory.split_both] using ⟨ha, hb⟩
  | alt a b iha ihb =>
    obtain ⟨ha, hsa⟩ := iha hw.1 memory.split.1 s places hm.1 hp
    obtain ⟨hb, hsb⟩ := ihb hw.2 memory.split.2 s places hm.2 hp
    refine ⟨by simpa [feed, Remembers, Memory.split_both] using ⟨ha, hb⟩, ?_⟩
    rw [spread_alt, spread_alt, hsa, hsb]
    simp only [feed, placesOf_or]
    exact Set.union_union_union_comm ..
  | loop a ih =>
    obtain ⟨hentered, hinside⟩ := hm
    have hfull : a.spread (placesOf memory.circled.1) = (loop a).spread s := by rw [hentered, spread_loop]
    obtain ⟨entered', inside, out', hc, ha, hr, hs⟩ := circle_spec (a := a) hw (ih hw) ((loop a).spread s) (size + 2)
      memory.circled.2 memory.circled.1 0 places (missing_lt ..) hinside hp
      (by rw [hentered]; exact spread_around_subset.trans Set.subset_union_left) (by simpa using hfull)
    have haround : a.around (placesOf memory.circled.1 ∪ placesOf places) = a.around (s ∪ placesOf places) := by
      rw [hentered]
      exact around_eq_of_subset (Set.union_subset_union_left _ subset_around)
        (Set.union_subset (around_subset (Set.subset_union_left.trans subset_around) spread_around_subset)
          (Set.subset_union_right.trans subset_around))
    have hfeed : (loop a).feed size memory places = (.loop entered' inside, out') := hc
    rw [haround] at ha
    rw [hfeed]
    exact ⟨⟨ha, hr⟩, by rw [spread_loop, ← ha, hs]⟩

/-- **A track reaches the places that it leads to.** -/
theorem placesOf_reach (hw : t.Within size) {places : Nat} (hp : ∀ i ∈ placesOf places, i ≤ size) :
    placesOf (t.reach size places) = t.spread (placesOf places) := by
  simpa [reach] using (t.feed_spec hw .fresh ∅ places t.remembers_fresh hp).spread.symm

end Track
end ScopedStore.Pattern
