/-
Rounding decimals to doubles.

`Double.nearest` rounds a quotient, and depends on nothing but the quotient (`Double.nearest_congr`). A whole number of units
that is some magnitude's is rounded to that magnitude (`Double.nearest_units`). `Double.ofDecimal` settles exponents far
outside the range at once, and comes to the rounded quotient there as well (`Double.ofDecimal_eq`), so zeros at the end of
a coefficient can be taken off (`Double.ofDecimal_shift`).

Main result, `Double.ofDecimal_digits`: the digits that are chosen for a magnitude read back as that magnitude.
-/
import Mathlib.Tactic
import ScopedStore.Number.Decimal

namespace ScopedStore.Double

/-! ## Quotients -/

theorem divRound_mul_right {k : Nat} (hk : 0 < k) (num den : Nat) : divRound (num * k) (den * k) = divRound num den := by
  have hless : 2 * (num % den * k) < den * k ↔ 2 * (num % den) < den := by
    rw [← Nat.mul_assoc, Nat.mul_lt_mul_right hk]
  have hmore : den * k < 2 * (num % den * k) ↔ den < 2 * (num % den) := by
    rw [← Nat.mul_assoc, Nat.mul_lt_mul_right hk]
  simp only [divRound, Nat.mul_div_mul_right _ _ hk, Nat.mul_mod_mul_right, hless, hmore]

theorem nearest_mul_right {k : Nat} (hk : 0 < k) (num den : Nat) : nearest (num * k) (den * k) = nearest num den := by
  have hshift : ∀ shift, (den * k) <<< shift = (den <<< shift) * k := by
    intro shift
    rw [Nat.shiftLeft_eq, Nat.shiftLeft_eq, Nat.mul_right_comm]
  simp only [nearest, Nat.mul_div_mul_right _ _ hk, hshift, divRound_mul_right hk]

/-- equal quotients are rounded alike -/
theorem nearest_congr {num den num' den' : Nat} (hden : 0 < den) (hden' : 0 < den') (h : num * den' = num' * den) :
    nearest num den = nearest num' den' :=
  calc nearest num den = nearest (num * den') (den * den') := (nearest_mul_right hden' num den).symm
    _ = nearest (num' * den) (den' * den) := by rw [h, Nat.mul_comm den den']
    _ = nearest num' den' := nearest_mul_right hden num' den'

theorem ofUnits_congr {num den num' den' : Nat} (negative : Bool) (hden : 0 < den) (hden' : 0 < den')
    (h : num * den' = num' * den) : ofUnits negative num den = ofUnits negative num' den' := by
  simp only [ofUnits, nearest_congr hden hden' h]

/-! ## Whole units -/

theorem divRound_of_dvd {num den : Nat} (hden : 0 < den) : divRound (num * den) den = num := by
  rw [divRound, Nat.mul_mod_left, if_pos (by omega), Nat.mul_div_cancel num hden]

/-- **A magnitude is nearest to its own units.** -/
theorem nearest_units (m : Nat) : nearest (units m) 1 = m := by
  unfold units
  split_ifs with hsmall
  · -- up to `2 ^ 53` units every whole number is a magnitude
    have hlog : m.log2 < 53 := by
      rcases Nat.eq_zero_or_pos m with rfl | hm
      · decide
      · exact (Nat.log2_lt hm.ne').2 (by omega)
    have hshift : (m / 1).log2 + 1 - 53 = 0 := by rw [Nat.div_one]; omega
    have hround : divRound m 1 = m := by
      have hdvd : divRound (m * 1) 1 = m := divRound_of_dvd Nat.one_pos
      rwa [Nat.mul_one] at hdvd
    rw [nearest, hshift, Nat.shiftLeft_zero, hround, Nat.zero_mul, Nat.zero_add]
  · -- above, a magnitude is 53 binary digits, shifted
    have hbinade : binade = 2 ^ 52 := rfl
    have hrest : m % binade < binade := Nat.mod_lt m (by decide)
    have hpos : 0 < m / binade := Nat.div_pos (by omega) (by decide)
    obtain ⟨q, hq⟩ : ∃ q, m / binade = q + 1 := ⟨m / binade - 1, by omega⟩
    have hvalue : (binade + m % binade) <<< (m / binade - 1) = (binade + m % binade) * 2 ^ q := by
      rw [hq, Nat.add_sub_cancel, Nat.shiftLeft_eq]
    have hlog : ((binade + m % binade) * 2 ^ q).log2 = 52 + q := by
      refine (Nat.log2_eq_iff (by positivity)).2 ⟨?_, ?_⟩
      · rw [Nat.pow_add]
        exact Nat.mul_le_mul_right _ (by omega)
      · rw [Nat.add_right_comm, Nat.pow_add]
        exact Nat.mul_lt_mul_of_pos_right (by omega) (by positivity)
    have hshift : ((binade + m % binade) * 2 ^ q / 1).log2 + 1 - 53 = q := by
      rw [Nat.div_one, hlog]
      omega
    rw [hvalue, nearest, hshift, Nat.shiftLeft_eq, Nat.one_mul, divRound_of_dvd (by positivity), ← Nat.add_assoc]
    have hsplit := Nat.div_add_mod m binade
    rw [hq, Nat.mul_add, Nat.mul_one, Nat.mul_comm binade q] at hsplit
    exact hsplit

theorem ofUnits_units (m : Fin magnitudeCount) : ofUnits false (units m) 1 = .finite false m := by
  unfold ofUnits
  simp only [nearest_units]
  exact dif_pos m.isLt

/-- the sign has no part in the rounding -/
theorem ofUnits_eq_finite {num den : Nat} {m : Fin magnitudeCount} (h : ofUnits false num den = .finite false m)
    (negative : Bool) : ofUnits negative num den = .finite negative m := by
  unfold ofUnits at h ⊢
  split_ifs at h ⊢ with hnear
  obtain ⟨-, hm⟩ := Double.finite.inj h
  rw [hm]

/-! ## Values out of range -/

/-- less than half of a unit is rounded to zero -/
theorem ofUnits_of_small {num den : Nat} (h : 2 * num < den) (negative : Bool) :
    ofUnits negative num den = zero negative := by
  have hquotient : num / den = 0 := Nat.div_eq_of_lt (by omega)
  have hshift : (num / den).log2 + 1 - 53 = 0 := by
    rw [hquotient]
    decide
  have hnear : nearest num den = 0 := by
    rw [nearest, hshift, Nat.shiftLeft_zero, divRound, Nat.mod_eq_of_lt (by omega), if_pos h, hquotient, Nat.zero_mul]
  unfold ofUnits zero
  simp only [hnear]
  exact dif_pos (by decide)

/-- what has so many binary digits is beyond the largest magnitude -/
theorem ofUnits_of_large {num den k : Nat} (hk : 2099 ≤ k) (hden : 0 < den) (h : 2 ^ k * den ≤ num) (negative : Bool) :
    ofUnits negative num den = .infinite negative := by
  have hquotient : 2 ^ k ≤ num / den := (Nat.le_div_iff_mul_le hden).2 h
  have hlog : k ≤ (num / den).log2 := (Nat.le_log2 (Nat.pos_iff_ne_zero.1 (lt_of_lt_of_le (by positivity) hquotient))).2 hquotient
  have hshift : 2047 * binade ≤ ((num / den).log2 + 1 - 53) * binade := Nat.mul_le_mul_right _ (by omega)
  have hnear : magnitudeCount ≤ nearest num den := hshift.trans (Nat.le_add_right ..)
  unfold ofUnits
  exact dif_neg (Nat.not_lt.2 hnear)

/-! ## Decimals -/

/-- a unit has so many binary places after the point, and as many decimal ones -/
def finest : Nat := 1074

theorem unitsPerOne_eq : unitsPerOne = 2 ^ finest := Nat.one_shiftLeft finest

/-- each decimal place is worth more than three binary ones -/
theorem two_pow_le_ten_pow (n : Nat) : 2 ^ (3 * n) ≤ 10 ^ n := by
  rw [Nat.pow_mul]
  exact Nat.pow_le_pow_left (by decide) n

/-- **A decimal is rounded as the quotient that it is**, also where its exponent is settled at once. -/
theorem ofDecimal_eq (negative : Bool) (c : Nat) (e : Int) :
    ofDecimal negative c e = ofUnits negative (c * 10 ^ e.toNat * unitsPerOne) (10 ^ (-e).toNat) := by
  unfold ofDecimal
  split_ifs with hzero hlarge hsmall hpos
  · rw [hzero, Nat.zero_mul, Nat.zero_mul]
    exact (ofUnits_of_small (by positivity) negative).symm
  · have hden : (-e).toNat = 0 := by omega
    have hone : 1 ≤ c := Nat.one_le_iff_ne_zero.2 hzero
    have hfinest : finest = 1074 := rfl
    have hnum : 2 ^ (3 * e.toNat + finest) ≤ c * 10 ^ e.toNat * unitsPerOne :=
      calc 2 ^ (3 * e.toNat + finest) = 1 * 2 ^ (3 * e.toNat) * unitsPerOne := by
            rw [unitsPerOne_eq, Nat.one_mul, Nat.pow_add]
        _ ≤ c * 10 ^ e.toNat * unitsPerOne :=
            Nat.mul_le_mul_right _ (Nat.mul_le_mul hone (two_pow_le_ten_pow e.toNat))
    rw [hden, Nat.pow_zero]
    refine (ofUnits_of_large (k := 3 * e.toNat + finest) (by omega) Nat.one_pos ?_ negative).symm
    rwa [Nat.mul_one]
  · have hwhole : e.toNat = 0 := by omega
    have hfinest : finest = 1074 := rfl
    have hlog : c < 2 ^ (c.log2 + 1) := Nat.lt_log2_self
    have hnum : 2 * (c * unitsPerOne) < 10 ^ (-e).toNat :=
      calc 2 * (c * unitsPerOne) < 2 * (2 ^ (c.log2 + 1) * unitsPerOne) := by
            have hunit : 0 < unitsPerOne := by rw [unitsPerOne_eq]; positivity
            exact Nat.mul_lt_mul_of_pos_left (Nat.mul_lt_mul_of_pos_right hlog hunit) (by decide)
        _ = 2 ^ (c.log2 + 1 + finest + 1) := by
            rw [unitsPerOne_eq, ← Nat.pow_add, Nat.mul_comm, Nat.pow_succ 2 (c.log2 + 1 + finest)]
        _ ≤ 2 ^ (3 * (-e).toNat) := Nat.pow_le_pow_right (by decide) (by omega)
        _ ≤ 10 ^ (-e).toNat := two_pow_le_ten_pow _
    rw [hwhole, Nat.pow_zero, Nat.mul_one]
    exact (ofUnits_of_small hnum negative).symm
  · have hden : (-e).toNat = 0 := by omega
    rw [hden, Nat.pow_zero]
    rfl
  · have hwhole : e.toNat = 0 := by omega
    rw [hwhole, Nat.pow_zero, Nat.mul_one]
    rfl

/-- zeros at the end of a coefficient are worth as much in the exponent -/
theorem ofDecimal_shift (negative : Bool) (c j : Nat) (e : Int) :
    ofDecimal negative (c * 10 ^ j) (e - j) = ofDecimal negative c e := by
  rw [ofDecimal_eq, ofDecimal_eq]
  refine ofUnits_congr negative (by positivity) (by positivity) ?_
  have hexponent : j + (e - j).toNat + (-e).toNat = e.toNat + (-(e - j)).toNat := by omega
  have hpow : 10 ^ j * 10 ^ (e - j).toNat * 10 ^ (-e).toNat = 10 ^ e.toNat * 10 ^ (-(e - j)).toNat := by
    rw [← Nat.pow_add, ← Nat.pow_add, ← Nat.pow_add, hexponent]
  generalize unitsPerOne = u
  calc c * 10 ^ j * 10 ^ (e - j).toNat * u * 10 ^ (-e).toNat
      = c * u * (10 ^ j * 10 ^ (e - j).toNat * 10 ^ (-e).toNat) := by ring
    _ = c * 10 ^ e.toNat * u * 10 ^ (-(e - j)).toNat := by
      rw [hpow]
      ring

theorem ofDecimal_eq_finite {c : Nat} {e : Int} {m : Fin magnitudeCount} (h : ofDecimal false c e = .finite false m)
    (negative : Bool) : ofDecimal negative c e = .finite negative m := by
  rw [ofDecimal_eq] at h ⊢
  exact ofUnits_eq_finite h negative

/-- the full expansion reads back: so many places after the point are enough for every magnitude -/
theorem ofDecimal_expansion (m : Fin magnitudeCount) {k : Nat} {e : Int} (hk : k = finest) (he : e = -(k : Int)) :
    ofDecimal false (units m * Nat.pow 5 k) e = .finite false m := by
  have hpow : 5 ^ k * 2 ^ k = 10 ^ k := (Nat.mul_pow 5 2 k).symm
  have hwhole : e.toNat = 0 := by omega
  have hplaces : (-e).toNat = k := by omega
  rw [ofDecimal_eq, hwhole, hplaces, ← ofUnits_units m, unitsPerOne_eq, ← hk]
  refine ofUnits_congr false (by positivity) Nat.one_pos ?_
  rw [Nat.pow_zero, Nat.mul_one, Nat.mul_one, Nat.mul_assoc, ← hpow]
  rfl

/-- **The digits that are written read back.** -/
theorem ofDecimal_digits (tie : Tie) (m : Fin magnitudeCount) :
    ofDecimal false (digits tie m).1 (digits tie m).2 = .finite false m := by
  unfold digits
  simp only
  cases hfound : (List.range 17).findSome? fun (i : Nat) => coefficient? tie m (leadingExponent (units m) - i) with
  | none =>
    generalize hk : (1074 : Nat) = k
    have he : (-1074 : Int) = -(k : Int) := by omega
    exact ofDecimal_expansion m hk.symm he
  | some found =>
    -- what was looked for is checked before it is taken
    obtain ⟨i, -, hi⟩ := List.exists_of_findSome?_eq_some hfound
    obtain ⟨c, hc, rfl⟩ := Option.map_eq_some_iff.1 hi
    have hreads := List.find?_some hc
    exact of_decide_eq_true hreads

end ScopedStore.Double
