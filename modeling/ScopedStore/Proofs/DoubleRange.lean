/-
Where the range of doubles ends.

Rounding gives infinity from the value that lies halfway between the largest double and the next power of two
(`Double.ofUnits_eq_infinite`). There the tie goes to the power of two, whose magnitude is even and out of range.
`Double.ofDecimal_eq_infinite`: so a decimal with places after its point is infinite from `Double.overflowBound` on.
-/
import ScopedStore.Proofs.Rounding

namespace ScopedStore.Double

/-! ## Rounding to whole numbers -/

theorem le_divRound {num den k : Nat} (hden : 0 < den) (h : k * den ≤ num) : k ≤ divRound num den := by
  have hquotient : k ≤ num / den := (Nat.le_div_iff_mul_le hden).2 h
  unfold divRound
  dsimp only
  split_ifs <;> omega

theorem divRound_le {num den k : Nat} (hden : 0 < den) (h : num < k * den) : divRound num den ≤ k := by
  have hquotient : num / den < k := (Nat.div_lt_iff_lt_mul hden).2 h
  unfold divRound
  dsimp only
  split_ifs <;> omega

/-- a tie below an even number goes up to it -/
theorem even_le_divRound {num den j : Nat} (hden : 0 < den) :
    2 * (j + 1) ≤ divRound num den ↔ (4 * j + 3) * den ≤ 2 * num := by
  have hsplit : den * (num / den) + num % den = num := Nat.div_add_mod num den
  have hrest : num % den < den := Nat.mod_lt num hden
  rcases lt_trichotomy (num / den) (2 * j + 1) with hlow | hnext | hhigh
  · have hround : divRound num den ≤ 2 * j + 1 := by
      unfold divRound
      dsimp only
      split_ifs <;> omega
    have hproduct : den * (num / den) ≤ den * (2 * j) := Nat.mul_le_mul_left den (by omega)
    refine ⟨fun h => by omega, fun h => ?_⟩
    have hfour : (4 * j + 3) * den = 2 * (den * (2 * j)) + 3 * den := by ring
    omega
  · have hproduct : den * (num / den) = den * (2 * j + 1) := by rw [hnext]
    have hfour : (4 * j + 3) * den = 2 * (den * (2 * j + 1)) + den := by ring
    unfold divRound
    dsimp only
    rw [hnext]
    split_ifs <;> omega
  · have hproduct : den * (2 * j + 2) ≤ den * (num / den) := Nat.mul_le_mul_left den (by omega)
    have hfour : (4 * j + 3) * den + den = 2 * (den * (2 * j + 2)) := by ring
    have hround : num / den ≤ divRound num den := le_divRound hden (Nat.div_mul_le_self num den)
    exact ⟨fun _ => by omega, fun _ => by omega⟩

/-! ## The end of the range -/

/-- the binary places that the largest doubles are shifted by -/
def topShift : Nat := 2045

/-- **A quotient is out of range from the middle between the largest double and the next power of two on.** -/
theorem magnitudeCount_le_nearest {num den : Nat} (hden : 0 < den) :
    magnitudeCount ≤ nearest num den ↔ (4 * binade - 1) * (den * 2 ^ topShift) ≤ 2 * num := by
  have htop : topShift = 2045 := rfl
  have hcount : magnitudeCount = 2047 * binade := rfl
  have hpos : ∀ n, 0 < den * 2 ^ n := fun n => Nat.mul_pos hden (Nat.two_pow_pos n)
  have hbinade : 2 ^ 52 = binade := rfl
  have hone : 1 ≤ binade := by decide
  rw [hcount]
  unfold nearest
  dsimp only
  generalize hk : (num / den).log2 = k
  generalize hs : k + 1 - 53 = shift
  rw [Nat.shiftLeft_eq]
  generalize binade = b at *
  have hmiddle : (4 * b - 1) * (den * 2 ^ topShift) + den * 2 ^ topShift = 4 * (b * (den * 2 ^ topShift)) := by
    rw [← Nat.succ_mul, Nat.succ_eq_add_one, Nat.sub_add_cancel (by omega), Nat.mul_assoc]
  -- fewer binary digits, as many as the largest doubles have, or more
  rcases lt_trichotomy k (52 + topShift) with hless | hequal | hmore
  · have hquotient : num / den < 2 ^ (53 + shift) :=
      (hk ▸ Nat.lt_log2_self).trans_le (Nat.pow_le_pow_right (by decide) (by omega))
    have hnum : num < 2 * b * (den * 2 ^ shift) :=
      calc num < 2 ^ (53 + shift) * den := (Nat.div_lt_iff_lt_mul hden).1 hquotient
        _ = 2 * b * (den * 2 ^ shift) := by rw [← hbinade]; ring
    have hround := divRound_le (hpos shift) hnum
    have htotal : shift * b ≤ 2044 * b := Nat.mul_le_mul_right _ (by omega)
    have hstep : 2 * b * (den * 2 ^ shift) ≤ b * (den * 2 ^ topShift) :=
      calc 2 * b * (den * 2 ^ shift) = b * (den * 2 ^ (shift + 1)) := by ring
        _ ≤ b * (den * 2 ^ topShift) :=
          Nat.mul_le_mul_left b (Nat.mul_le_mul_left den (Nat.pow_le_pow_right (by decide) (by omega)))
    have htop' : den * 2 ^ topShift ≤ b * (den * 2 ^ topShift) := Nat.le_mul_of_pos_left _ (by omega)
    exact ⟨fun h => by omega, fun h => by omega⟩
  · have hshift : shift = topShift := by omega
    have heven := @even_le_divRound num _ (b - 1) (hpos topShift)
    rw [hshift, show 4 * b - 1 = 4 * (b - 1) + 3 by omega, ← heven, htop]
    omega
  · have hquotient : 2 ^ (52 + shift) ≤ num / den := by
      have hne : num / den ≠ 0 := by
        intro hzero
        rw [hzero, Nat.log2_zero] at hk
        omega
      exact (Nat.le_log2 hne).1 (by omega)
    have hnum : b * (den * 2 ^ shift) ≤ num :=
      calc b * (den * 2 ^ shift) = 2 ^ (52 + shift) * den := by rw [← hbinade]; ring
        _ ≤ num := (Nat.le_div_iff_mul_le hden).1 hquotient
    have hround := le_divRound (hpos shift) hnum
    have htotal : 2046 * b ≤ shift * b := Nat.mul_le_mul_right _ (by omega)
    have hstep : 2 * (b * (den * 2 ^ topShift)) ≤ b * (den * 2 ^ shift) :=
      calc 2 * (b * (den * 2 ^ topShift)) = b * (den * 2 ^ (topShift + 1)) := by ring
        _ ≤ b * (den * 2 ^ shift) :=
          Nat.mul_le_mul_left b (Nat.mul_le_mul_left den (Nat.pow_le_pow_right (by decide) (by omega)))
    exact ⟨fun h => by omega, fun h => by omega⟩

theorem ofUnits_eq_infinite {num den : Nat} (hden : 0 < den) {negative sign : Bool} :
    ofUnits negative num den = .infinite sign ↔
      sign = negative ∧ (4 * binade - 1) * (den * 2 ^ topShift) ≤ 2 * num := by
  rw [← magnitudeCount_le_nearest hden]
  unfold ofUnits
  split_ifs with h
  · simp [h]
  · simp [Nat.le_of_not_lt h, eq_comm]

/-- the binary places behind the bound -/
def boundShift : Nat := 970

/-- the least whole number that is rounded to infinity -/
def overflowBound : Nat := (4 * binade - 1) * 2 ^ boundShift

/-- **Decimals with places after the point are infinite from the bound on.** -/
theorem ofDecimal_eq_infinite {negative sign : Bool} {c places : Nat} :
    ofDecimal negative c (-(places : Int)) = .infinite sign ↔
      sign = negative ∧ overflowBound * 10 ^ places ≤ c := by
  have hwhole : (-(places : Int)).toNat = 0 := by omega
  have hplaces : (-(-(places : Int))).toNat = places := by omega
  rw [ofDecimal_eq, hwhole, hplaces, ofUnits_eq_infinite (Nat.pow_pos (by decide))]
  refine and_congr_right fun _ => ?_
  have hunits : 2 * (c * 10 ^ 0 * unitsPerOne) = c * (2 * unitsPerOne) := by ring
  have hbound : (4 * binade - 1) * (10 ^ places * 2 ^ topShift) = overflowBound * 10 ^ places * (2 * unitsPerOne) := by
    have htop : topShift = boundShift + (finest + 1) := rfl
    rw [overflowBound, unitsPerOne_eq, htop, Nat.pow_add, Nat.pow_succ]
    ring
  have hpos : 0 < 2 * unitsPerOne := by rw [unitsPerOne_eq]; positivity
  rw [hunits, hbound, Nat.mul_le_mul_right_iff hpos]

end ScopedStore.Double
