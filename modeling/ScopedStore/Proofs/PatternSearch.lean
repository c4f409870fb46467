/-
The search finds an expression in a text exactly when the expression reads some stretch of it.

`leads_lay`: laid over a text, an expression leads from one place to another exactly when it reads the text from the one
to the other. This asks that no repetition in it ask for more times than it allows (`Regex.Proper`). A repetition is laid
as halves and loops, which `Track.Repeats` counts; one of what reads no character is laid once, since reading it again
leads nowhere else (`Matches.eq_of_isStill`).

Main result, `occursIn_iff`.
-/
import ScopedStore.Proofs.Tracks

namespace ScopedStore.Pattern

open Regex (Steps charBefore)

variable {i j k m n size : Nat}

/-! ## Steps -/

namespace Regex.Steps

variable {α : Type} {rel rel' : α → α → Prop} {x y z : α}

theorem zero_iff : Steps rel 0 x y ↔ x = y :=
  ⟨fun h => by cases h; rfl, fun h => h ▸ .none x⟩

theorem succ_iff : Steps rel (n + 1) x z ↔ ∃ y, rel x y ∧ Steps rel n y z :=
  ⟨fun h => by cases h with | more h hs => exact ⟨_, h, hs⟩, fun ⟨_, h, hs⟩ => .more h hs⟩

theorem one_iff : Steps rel 1 x y ↔ rel x y := by simp [succ_iff, zero_iff]

theorem add_iff : Steps rel (m + n) x z ↔ ∃ y, Steps rel m x y ∧ Steps rel n y z := by
  induction m generalizing x with
  | zero => simp [zero_iff]
  | succ m ih =>
    rw [Nat.add_right_comm]
    simp only [succ_iff, ih]
    constructor
    · rintro ⟨w, h, y, hm, hn⟩
      exact ⟨y, ⟨w, h, hm⟩, hn⟩
    · rintro ⟨y, ⟨w, h, hm⟩, hn⟩
      exact ⟨w, h, y, hm, hn⟩

theorem transGen_iff : Relation.TransGen rel x z ↔ ∃ n, Steps rel (n + 1) x z := by
  constructor
  · intro h
    induction h with
    | single h => exact ⟨0, one_iff.2 h⟩
    | tail _ h ih =>
      obtain ⟨n, hn⟩ := ih
      exact ⟨n + 1, add_iff.2 ⟨_, hn, one_iff.2 h⟩⟩
  · rintro ⟨n, h⟩
    induction n generalizing x with
    | zero => exact .single (one_iff.1 h)
    | succ n ih =>
      obtain ⟨y, h, hs⟩ := succ_iff.1 h
      exact .head h (ih hs)

theorem refl (h : rel x x) : ∀ n, Steps rel n x x
  | 0 => .none x
  | n + 1 => .more h (refl h n)

/-- steps keep what each of them keeps -/
theorem keep {P : α → Prop} (hP : ∀ x y, P x → rel x y → P y) (h : Steps rel n x y) (hx : P x) : P y := by
  induction h with
  | none => exact hx
  | more h _ ih => exact ih (hP _ _ hx h)

/-- relations that are the same where steps lead have the same steps -/
theorem congr {P : α → Prop} (hP : ∀ x y, P x → rel' x y → P y) (h : ∀ x y, P x → (rel x y ↔ rel' x y)) (hx : P x) :
    Steps rel n x z ↔ Steps rel' n x z := by
  induction n generalizing x with
  | zero => simp [zero_iff]
  | succ n ih =>
    simp only [succ_iff]
    exact exists_congr fun y =>
      ⟨fun ⟨hr, hs⟩ => have hr' := (h x y hx).1 hr; ⟨hr', (ih (hP x y hx hr')).1 hs⟩,
        fun ⟨hr, hs⟩ => ⟨(h x y hx).2 hr, (ih (hP x y hx hr)).2 hs⟩⟩

end Regex.Steps

/-! ## Repeated tracks -/

namespace Track

variable {t p q : Track}

theorem leads_stay : (stay size).Leads i j ↔ i ≤ size ∧ i = j := by simp [stay, Leads, eq_comm]

/-- one track leads where another one leads in so many steps -/
def Repeats (size : Nat) (t p : Track) (n : Nat) : Prop := ∀ i j, p.Leads i j ↔ i ≤ size ∧ Steps t.Leads n i j

theorem repeats_stay (size : Nat) (t : Track) : Repeats size t (stay size) 0 := fun i j => by
  rw [leads_stay, Steps.zero_iff]

theorem repeats_self (hw : t.Within size) : Repeats size t t 1 := fun i j => by
  rw [Steps.one_iff]
  exact ⟨fun h => ⟨(hw.leads h).1, h⟩, And.right⟩

theorem Within.steps (hw : t.Within size) (h : Steps t.Leads n i j) (hi : i ≤ size) : j ≤ size :=
  h.keep (P := (· ≤ size)) (fun _ _ _ hl => (hw.leads hl).2) hi

theorem Repeats.cat (hw : t.Within size) (hp : Repeats size t p m) (hq : Repeats size t q n) :
    Repeats size t (.cat p q) (m + n) := fun i k => by
  simp only [Leads, hp _ _, hq _ _, Steps.add_iff]
  constructor
  · rintro ⟨j, ⟨hi, hm⟩, -, hn⟩
    exact ⟨hi, j, hm, hn⟩
  · rintro ⟨hi, j, hm, hn⟩
    exact ⟨j, ⟨hi, hm⟩, hw.steps hm hi, hn⟩

theorem repeats_power (hw : t.Within size) : ∀ k n, n < 2 ^ k → Repeats size t (t.power size k n) n := by
  intro k
  induction k with
  | zero =>
    intro n hn
    obtain rfl : n = 0 := by simpa using hn
    exact repeats_stay size t
  | succ k ih =>
    intro n hn
    have hhalf : Repeats size t (t.power size k (n / 2)) (n / 2) := ih _ (by rw [Nat.pow_succ] at hn; omega)
    rw [power]
    split_ifs with h0 h1 h2
    · exact h0 ▸ repeats_stay size t
    · exact h1 ▸ repeats_self hw
    · have h := hhalf.cat hw hhalf
      rwa [show n / 2 + n / 2 = n by omega] at h
    · have h := (hhalf.cat hw hhalf).cat hw (repeats_self hw)
      rwa [show n / 2 + n / 2 + 1 = n by omega] at h

theorem repeats_times (hw : t.Within size) (n : Nat) : Repeats size t (t.times size n) n :=
  repeats_power hw _ n Nat.lt_log2_self

theorem within_stay (size : Nat) : (stay size).Within size := fun i hi => by simpa using hi

theorem Within.power (hw : t.Within size) : ∀ k n, (t.power size k n).Within size := by
  intro k
  induction k with
  | zero => exact fun _ => within_stay size
  | succ k ih =>
    intro n
    rw [Track.power]
    split_ifs
    · exact within_stay size
    · exact hw
    · exact ⟨ih _, ih _⟩
    · exact ⟨⟨ih _, ih _⟩, hw⟩

theorem Within.repeated (hw : t.Within size) (low : Nat) (high : Option Nat) : (t.repeated size low high).Within size := by
  cases high with
  | some high =>
    have hstay : Within size (alt (stay size) t) := ⟨within_stay size, hw⟩
    exact ⟨hw.power _ _, hstay.power _ _⟩
  | none =>
    rw [Track.repeated]
    split_ifs
    · exact ⟨within_stay size, hw⟩
    · exact hw
    · exact ⟨hw.power _ _, hw⟩

/-- with leave to stay, so many steps are at most so many -/
theorem steps_alt_stay (hw : t.Within size) (hi : i ≤ size) :
    Steps (alt (stay size) t).Leads n i j ↔ ∃ m ≤ n, Steps t.Leads m i j := by
  induction n generalizing i with
  | zero => simp [Steps.zero_iff]
  | succ n ih =>
    rw [Steps.succ_iff]
    constructor
    · rintro ⟨k, hs | ht, hn⟩
      · obtain ⟨-, rfl⟩ := leads_stay.1 hs
        obtain ⟨m, hm, h⟩ := (ih hi).1 hn
        exact ⟨m, by omega, h⟩
      · obtain ⟨m, hm, h⟩ := (ih (hw.leads ht).2).1 hn
        exact ⟨m + 1, by omega, .more ht h⟩
    · rintro ⟨m, hm, h⟩
      cases h with
      | none => exact ⟨_, .inl (leads_stay.2 ⟨hi, rfl⟩), (ih hi).2 ⟨0, by omega, .none _⟩⟩
      | more ht h => exact ⟨_, .inr ht, (ih (hw.leads ht).2).2 ⟨_, by omega, h⟩⟩

theorem leads_loop (hw : t.Within size) : (loop t).Leads i j ↔ i ≤ size ∧ ∃ n, Steps t.Leads (n + 1) i j := by
  rw [← Steps.transGen_iff]
  exact ⟨fun h => ⟨(Within.leads (t := loop t) hw h).1, h⟩, And.right⟩

theorem leads_repeated (hw : t.Within size) {low : Nat} {high : Option Nat} (h : ∀ m ∈ high, low ≤ m) :
    (t.repeated size low high).Leads i j ↔
      i ≤ size ∧ ∃ n, low ≤ n ∧ (∀ m ∈ high, n ≤ m) ∧ Steps t.Leads n i j := by
  cases high with
  | some high =>
    have hlow : low ≤ high := h high rfl
    have hstay : Within size (alt (stay size) t) := ⟨within_stay size, hw⟩
    simp only [repeated, Leads, repeats_times hw low _ _, repeats_times hstay (high - low) _ _]
    constructor
    · rintro ⟨k, ⟨hi, hl⟩, hk, hs⟩
      obtain ⟨m, hm, hs⟩ := (steps_alt_stay hw hk).1 hs
      exact ⟨hi, low + m, by omega, by rintro _ ⟨⟩; omega, Steps.add_iff.2 ⟨k, hl, hs⟩⟩
    · rintro ⟨hi, n, hn, hhigh, hs⟩
      have hnh : n ≤ high := hhigh high rfl
      obtain ⟨m, rfl⟩ := Nat.exists_eq_add_of_le hn
      obtain ⟨k, hl, hs⟩ := Steps.add_iff.1 hs
      exact ⟨k, ⟨hi, hl⟩, hw.steps hl hi, (steps_alt_stay hw (hw.steps hl hi)).2 ⟨m, by omega, hs⟩⟩
  | none =>
    rw [repeated]
    split_ifs with h0 h1
    · subst h0
      constructor
      · rintro (hs | hl)
        · obtain ⟨hi, rfl⟩ := leads_stay.1 hs
          exact ⟨hi, 0, le_rfl, by simp, .none _⟩
        · obtain ⟨hi, n, hn⟩ := (leads_loop hw).1 hl
          exact ⟨hi, n + 1, by omega, by simp, hn⟩
      · rintro ⟨hi, n, -, -, hs⟩
        cases n with
        | zero => exact .inl (leads_stay.2 ⟨hi, Steps.zero_iff.1 hs⟩)
        | succ n => exact .inr ((leads_loop hw).2 ⟨hi, n, hs⟩)
    · subst h1
      rw [leads_loop hw]
      constructor
      · rintro ⟨hi, n, hs⟩
        exact ⟨hi, n + 1, by omega, by simp, hs⟩
      · rintro ⟨hi, n, hn, -, hs⟩
        obtain ⟨n, rfl⟩ := Nat.exists_eq_add_of_le' hn
        exact ⟨hi, n, hs⟩
    · constructor
      · rintro ⟨k, hk, hl⟩
        obtain ⟨hi, hk⟩ := (repeats_times hw (low - 1) i k).1 hk
        obtain ⟨-, n, hn⟩ := (leads_loop hw).1 hl
        exact ⟨hi, low - 1 + (n + 1), by omega, by simp, Steps.add_iff.2 ⟨k, hk, hn⟩⟩
      · rintro ⟨hi, n, hn, -, hs⟩
        obtain ⟨m, rfl⟩ : ∃ m, n = low - 1 + (m + 1) := ⟨n - low, by omega⟩
        obtain ⟨k, hk, hm⟩ := Steps.add_iff.1 hs
        exact ⟨k, (repeats_times hw (low - 1) i k).2 ⟨hi, hk⟩, (leads_loop hw).2 ⟨hw.steps hk hi, m, hm⟩⟩

end Track

/-! ## Expressions laid over a text -/

namespace Regex

variable {text : List Char} {r a : Regex}

/-- no repetition in the expression asks for more times than it allows -/
def Proper : Regex → Prop
  | .cat a b => a.Proper ∧ b.Proper
  | .alt a b => a.Proper ∧ b.Proper
  | .repeated a low high _ => a.Proper ∧ ∀ m ∈ high, low ≤ m
  | .group _ a => a.Proper
  | _ => True

theorem Matches.le (h : r.Matches text i j) (hi : i ≤ text.length) : j ≤ text.length := by
  induction r generalizing i j with
  | empty => exact h ▸ hi
  | literal cs =>
    obtain ⟨hp, rfl⟩ := h
    have hl := hp.length_le
    rw [List.length_drop] at hl
    omega
  | set _ s =>
    obtain ⟨c, hc, -, rfl⟩ := h
    exact (List.getElem?_eq_some_iff.1 hc).1
  | look l => exact h.2 ▸ hi
  | cat a b iha ihb =>
    obtain ⟨k, ha, hb⟩ := h
    exact ihb hb (iha ha hi)
  | alt a b iha ihb => exact h.elim (iha · hi) (ihb · hi)
  | repeated a low high _ ih =>
    obtain ⟨n, -, -, hs⟩ := h
    exact hs.keep (P := (· ≤ text.length)) (fun _ _ hx ha => ih ha hx) hi
  | group _ a ih => exact ih h hi

theorem Matches.eq_of_isStill (hs : r.isStill) (h : r.Matches text i j) : i = j := by
  induction r generalizing i j with
  | empty => exact h
  | literal cs =>
    obtain ⟨-, rfl⟩ := h
    simp [List.isEmpty_iff.1 hs]
  | set _ s => cases hs
  | look l => exact h.2
  | cat a b iha ihb =>
    obtain ⟨k, ha, hb⟩ := h
    rw [isStill, Bool.and_eq_true] at hs
    exact (iha hs.1 ha).trans (ihb hs.2 hb)
  | alt a b iha ihb =>
    rw [isStill, Bool.and_eq_true] at hs
    exact h.elim (iha hs.1) (ihb hs.2)
  | repeated a low high _ ih =>
    obtain ⟨n, -, hhigh, h⟩ := h
    rw [isStill, Bool.or_eq_true, beq_iff_eq] at hs
    rcases hs with hs | rfl
    · exact h.keep (P := (i = ·)) (fun _ _ hx ha => hx.trans (ih hs ha)) rfl
    · obtain rfl := Nat.le_zero.1 (hhigh 0 rfl)
      exact Steps.zero_iff.1 h
  | group _ a ih => exact ih hs h

/-- to repeat what reads no character is to read it once, or not at all -/
theorem matches_repeated_of_isStill (hs : a.isStill) {low : Nat} {high : Option Nat} {greedy : Bool}
    (h : ∀ m ∈ high, low ≤ m) : (repeated a low high greedy).Matches text i j ↔ i = j ∧ (low = 0 ∨ a.Matches text i i) := by
  constructor
  · intro hm
    have hij : i = j := hm.eq_of_isStill (by simp [isStill, hs])
    obtain ⟨n, hn, -, hsteps⟩ := hm
    cases hsteps with
    | none => exact ⟨rfl, .inl (Nat.le_zero.1 hn)⟩
    | more ha _ =>
      obtain rfl := ha.eq_of_isStill hs
      exact ⟨hij, .inr ha⟩
  · rintro ⟨rfl, rfl | ha⟩
    · exact ⟨0, le_rfl, fun _ _ => Nat.zero_le _, .none _⟩
    · exact ⟨low, le_rfl, h, .refl ha low⟩

/-! ### Places of characters -/

theorem reverse_beginnings (cs text : List Char) (known : List Bool) :
    (beginnings cs text known).reverse = known.reverse ++ text.tails.map cs.isPrefixOf := by
  induction text generalizing known with
  | nil => cases cs <;> simp [beginnings]
  | cons c text ih => simp [beginnings, ih]

theorem mem_bits_beginnings {cs : List Char} :
    i ∈ placesOf (bits (beginnings cs text []).reverse) ↔ i ≤ text.length ∧ cs <+: text.drop i := by
  rw [mem_placesOf_bits, reverse_beginnings]
  simp [List.getElem?_eq_some_iff]

theorem getElem?_sides (text : List Char) (i : Nat) :
    (sides text)[i]? = if i ≤ text.length then some (charBefore text i, text[i]?) else none := by
  split_ifs with h
  · rw [sides, List.getElem?_zip_eq_some]
    constructor
    · cases i with
      | zero => rfl
      | succ i => simp [charBefore, List.getElem?_eq_getElem (show i < text.length by omega)]
    · rcases Nat.lt_or_eq_of_le h with h | rfl
      · simp [List.getElem?_append_left, h]
      · simp
  · simp [sides]
    omega

theorem mem_bits_sides {f : Option Char × Option Char → Bool} :
    i ∈ placesOf (bits ((sides text).map f)) ↔ i ≤ text.length ∧ f (charBefore text i, text[i]?) = true := by
  rw [mem_placesOf_bits, List.getElem?_map, getElem?_sides]
  split_ifs with h <;> simp [h]

theorem mem_bits_map {f : Char → Bool} : i ∈ placesOf (bits (text.map f)) ↔ ∃ c, text[i]? = some c ∧ f c = true := by
  rw [mem_placesOf_bits, List.getElem?_map, Option.map_eq_some_iff]

theorem within_lay (r : Regex) (text : List Char) : (r.lay text).Within text.length := by
  induction r with
  | empty => exact Track.within_stay _
  | literal cs =>
    intro i hi
    obtain ⟨hi, hp⟩ := mem_bits_beginnings.1 hi
    have hl := hp.length_le
    rw [List.length_drop] at hl
    omega
  | set _ s =>
    intro i hi
    obtain ⟨c, hc, -⟩ := mem_bits_map.1 hi
    exact (List.getElem?_eq_some_iff.1 hc).1
  | look l => exact fun i hi => (mem_bits_sides.1 hi).1
  | cat a b iha ihb => exact ⟨iha, ihb⟩
  | alt a b iha ihb => exact ⟨iha, ihb⟩
  | repeated a low high _ ih =>
    rw [lay]
    split_ifs
    · exact Track.within_stay _
    · exact Track.within_stay _
    · exact ih
    · exact ih.repeated _ _
  | group _ a ih => exact ih

/-- **Laid over a text, an expression leads from place to place as it reads the text.** -/
theorem leads_lay (hr : r.Proper) : (r.lay text).Leads i j ↔ i ≤ text.length ∧ r.Matches text i j := by
  induction r generalizing i j with
  | empty => exact Track.leads_stay
  | literal cs => rw [lay, Track.Leads, mem_bits_beginnings, Matches, and_assoc]
  | set _ s =>
    rw [lay, Track.Leads, mem_bits_map, Matches]
    constructor
    · rintro ⟨⟨c, hc, hs⟩, rfl⟩
      exact ⟨(List.getElem?_eq_some_iff.1 hc).1.le, c, hc, hs, rfl⟩
    · rintro ⟨-, c, hc, hs, rfl⟩
      exact ⟨⟨c, hc, hs⟩, rfl⟩
  | look l =>
    rw [lay, Track.Leads, mem_bits_sides, Matches, and_assoc, Nat.add_zero, eq_comm (a := j)]
  | cat a b iha ihb =>
    simp only [lay, Track.Leads, Matches, iha hr.1, ihb hr.2]
    constructor
    · rintro ⟨k, ⟨hi, ha⟩, -, hb⟩
      exact ⟨hi, k, ha, hb⟩
    · rintro ⟨hi, k, ha, hb⟩
      exact ⟨k, ⟨hi, ha⟩, ha.le hi, hb⟩
  | alt a b iha ihb => simp only [lay, Track.Leads, Matches, iha hr.1, ihb hr.2, and_or_left]
  | repeated a low high _ ih =>
    have hsteps {n} (hi : i ≤ text.length) : Steps (a.lay text).Leads n i j ↔ Steps (a.Matches text) n i j :=
      Steps.congr (P := (· ≤ text.length)) (fun _ _ hx ha => ha.le hx) (fun _ _ hx => by simp [ih hr.1, hx]) hi
    rw [lay]
    split_ifs with hhigh hs hlow
    · subst hhigh
      obtain rfl : low = 0 := Nat.le_zero.1 (hr.2 0 rfl)
      rw [Track.leads_stay]
      refine and_congr_right fun _ => ⟨fun h => ⟨0, le_rfl, fun _ _ => Nat.zero_le _, Steps.zero_iff.2 h⟩, ?_⟩
      exact fun h => h.eq_of_isStill (by simp [isStill])
    · rw [matches_repeated_of_isStill hs hr.2, Track.leads_stay]
      simp [hlow]
    · rw [matches_repeated_of_isStill hs hr.2, ih hr.1]
      simp only [hlow, false_or]
      refine and_congr_right fun _ => ⟨fun h => ?_, fun h => ?_⟩
      · obtain rfl := h.eq_of_isStill hs
        exact ⟨rfl, h⟩
      · obtain ⟨rfl, h⟩ := h
        exact h
    · rw [Track.leads_repeated (a.within_lay text) hr.2]
      refine and_congr_right fun hi => exists_congr fun n => ?_
      rw [hsteps hi]
  | group _ a ih => exact ih hr

/-- **The search finds what the expression reads.** -/
theorem occursIn_iff (hr : r.Proper) :
    r.occursIn text = true ↔ ∃ i j, i ≤ text.length ∧ r.Matches text i j := by
  have hreach := Track.placesOf_reach (r.within_lay text) fun i => (mem_placesTo (n := text.length)).1
  rw [occursIn, bne_iff_ne, Ne, ← placesOf_eq_empty, ← Ne, ← Set.nonempty_iff_ne_empty, hreach]
  constructor
  · rintro ⟨j, i, -, hl⟩
    exact ⟨i, j, (leads_lay hr).1 hl⟩
  · rintro ⟨i, j, hi, hm⟩
    exact ⟨j, i, mem_placesTo.2 hi, (leads_lay hr).2 ⟨hi, hm⟩⟩

end Regex
end ScopedStore.Pattern
