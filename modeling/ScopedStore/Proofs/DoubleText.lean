/-
Numbers are read back from their text.

The digits of a double are written without the zeros at their end (`Double.placed_eq`), and around a point that has a digit
on either side (`Double.positional_eq`). Both only shift the decimal exponent, so the text of a magnitude is rounded to the
magnitude that it was written for (`Double.writeMagnitude_eq`).

Main results, `Double.read_write` and `Number.readInt64_writeInt64`: the text of a number is read as that number, and never as
one of the other kind (`Number.read_render`).
-/
import ScopedStore.Proofs.NumberLiteral
import ScopedStore.Proofs.Rounding
import ScopedStore.Scalar

namespace ScopedStore

/-! ## Digits -/

namespace Text

theorem isDigits_natDigits (n : Nat) : IsDigits (natDigits n) :=
  ⟨Nat.toDigits_ne_nil, fun _ hc => Nat.isDigit_of_mem_toDigits (by decide) (by decide) hc⟩

theorem isDigits_zero : IsDigits ['0'] := ⟨List.cons_ne_nil _ _, fun _ hc => List.mem_singleton.1 hc ▸ rfl⟩

theorem IsDigits.append {ds : List Char} (h : IsDigits ds) {cs : List Char} (hcs : ∀ c ∈ cs, c.isDigit) :
    IsDigits (ds ++ cs) ∧ IsDigits (cs ++ ds) := by
  refine ⟨⟨by simp [h.nonempty], fun c hc => ?_⟩, ⟨by simp [h.nonempty], fun c hc => ?_⟩⟩
  · exact (List.mem_append.1 hc).elim (h.digit c) (hcs c)
  · exact (List.mem_append.1 hc).elim (hcs c) (h.digit c)

theorem isDigit_of_mem_zeros {n : Nat} {c : Char} (h : c ∈ List.replicate n '0') : c.isDigit := by
  rw [List.eq_of_mem_replicate h]
  decide

/-- zeros in front of digits are worth nothing -/
theorem ofDigitChars_zeros_append (n : Nat) (ds : List Char) :
    Nat.ofDigitChars 10 (List.replicate n '0' ++ ds) 0 = Nat.ofDigitChars 10 ds 0 := by
  rw [Nat.ofDigitChars_append, Nat.ofDigitChars_replicate_zero, Nat.mul_zero]

theorem ofDigitChars_append_zeros (ds : List Char) (n : Nat) :
    Nat.ofDigitChars 10 (ds ++ List.replicate n '0') 0 = Nat.ofDigitChars 10 ds 0 * 10 ^ n := by
  rw [Nat.ofDigitChars_append, Nat.ofDigitChars_replicate_zero, Nat.mul_comm]

end Text

open Text

/-! ## Doubles -/

namespace Double

/-- **Zeros at the end are left out**, and counted before the point. -/
theorem placed_eq {c : Nat} (hc : c ≠ 0) (e : Int) : ∃ (ds : List Char) (z : Nat),
    placed c e = (ds, ds.length + z + e) ∧ IsDigits ds ∧ Nat.ofDigitChars 10 ds 0 * 10 ^ z = c := by
  obtain ⟨zeros, hzeros⟩ : ∃ zeros, (natDigits c).reverse.takeWhile (· = '0') = zeros := ⟨_, rfl⟩
  obtain ⟨kept, hkept⟩ : ∃ kept, (natDigits c).reverse.dropWhile (· = '0') = kept := ⟨_, rfl⟩
  have hreplicate : zeros = List.replicate zeros.length '0' := by
    refine List.eq_replicate_iff.2 ⟨rfl, fun x hx => ?_⟩
    rw [← hzeros] at hx
    simpa using List.mem_takeWhile_imp hx
  have hall : natDigits c = kept.reverse ++ List.replicate zeros.length '0' :=
    calc natDigits c = (zeros ++ kept).reverse := by
          rw [← hzeros, ← hkept, List.takeWhile_append_dropWhile, List.reverse_reverse]
      _ = kept.reverse ++ List.replicate zeros.length '0' := by
          rw [List.reverse_append, hreplicate, List.reverse_replicate, List.length_replicate]
  have hvalue : Nat.ofDigitChars 10 kept.reverse 0 * 10 ^ zeros.length = c := by
    rw [← ofDigitChars_append_zeros, ← hall]
    exact Nat.ofDigitChars_ten_toDigits
  refine ⟨kept.reverse, zeros.length, ?_, ⟨fun hnil => ?_, fun x hx => ?_⟩, hvalue⟩
  · have hlength : ((natDigits c).length : Int) = kept.reverse.length + zeros.length := by
      rw [hall, List.length_append, List.length_replicate, Nat.cast_add]
    simp only [placed, hkept, hlength]
  · rw [hnil, Nat.ofDigitChars_nil, Nat.zero_mul] at hvalue
    exact hc hvalue.symm
  · refine (isDigits_natDigits c).digit x ?_
    rw [hall]
    exact List.mem_append_left _ hx

/-- **A point is set, with a digit on either side.** This puts `j` zeros at the end of the digits, and zeros in front. -/
theorem positional_eq {ds : List Char} (h : IsDigits ds) (point : Int) : ∃ (whole places : List Char) (j : Nat),
    positional ds point = whole ++ '.' :: places ∧ IsDigits whole ∧ IsDigits places ∧
      Nat.ofDigitChars 10 (whole ++ places) 0 = Nat.ofDigitChars 10 ds 0 * 10 ^ j ∧
      (places.length : Int) = ds.length + j - point := by
  by_cases hpoint : point ≤ 0
  · refine ⟨['0'], List.replicate (-point).toNat '0' ++ ds, 0, ?_, isDigits_zero,
      (h.append fun c hc => isDigit_of_mem_zeros hc).2, ?_, ?_⟩
    · rw [positional, if_pos hpoint]
      rfl
    · rw [Nat.pow_zero, Nat.mul_one, ← List.append_assoc]
      exact ofDigitChars_zeros_append ((-point).toNat + 1) ds
    · rw [List.length_append, List.length_replicate]
      omega
  · obtain ⟨n, rfl⟩ : ∃ n : Nat, point = n := ⟨point.toNat, by omega⟩
    rcases Nat.lt_or_ge n ds.length with hshort | hlong
    · -- the point stands among the digits
      have htake : (ds.take n).length = n := by rw [List.length_take]; omega
      have hdrop : ds.drop n ≠ [] := by
        intro hnil
        have hlength := List.length_drop (l := ds) (i := n)
        rw [hnil, List.length_nil] at hlength
        omega
      have htaken : ds.take n ≠ [] := by
        intro hnil
        rw [hnil, List.length_nil] at htake
        omega
      refine ⟨ds.take n, ds.drop n, 0, ?_, ⟨htaken, fun c hc => h.digit c (List.mem_of_mem_take hc)⟩,
        ⟨hdrop, fun c hc => h.digit c (List.mem_of_mem_drop hc)⟩, ?_, ?_⟩
      · have hempty : (ds.drop n).isEmpty = false := by simpa using hdrop
        rw [positional, if_neg hpoint]
        simp only [Int.toNat_natCast, htake, Nat.sub_self, List.replicate_zero, List.append_nil, hempty]
        rfl
      · rw [List.take_append_drop, Nat.pow_zero, Nat.mul_one]
      · rw [List.length_drop]
        omega
    · -- the point stands behind all of them
      refine ⟨ds ++ List.replicate (n - ds.length) '0', ['0'], n - ds.length + 1, ?_,
        (h.append fun c hc => isDigit_of_mem_zeros hc).1, isDigits_zero, ?_, ?_⟩
      · rw [positional, if_neg hpoint]
        simp only [Int.toNat_natCast, List.take_of_length_le hlong, List.drop_of_length_le hlong, List.isEmpty_nil]
        simp only [if_true, List.append_assoc]
      · have hzeros : List.replicate (n - ds.length) '0' ++ ['0'] = List.replicate (n - ds.length + 1) '0' :=
          List.replicate_succ'.symm
        rw [List.append_assoc, hzeros, ofDigitChars_append_zeros]
      · rw [List.length_singleton]
        omega

/-- **The text of a magnitude** has digits on either side of a point, and is rounded to that magnitude. -/
theorem writeMagnitude_eq (m : Fin magnitudeCount) : ∃ whole places,
    writeMagnitude m = whole ++ '.' :: places ∧ IsDigits whole ∧ IsDigits places ∧
      ∀ negative, ofDecimal negative (Nat.ofDigitChars 10 (whole ++ places) 0) (-(places.length : Int)) =
        .finite negative m := by
  by_cases hm : m.val = 0
  · have hzero : m = ⟨0, by decide⟩ := Fin.ext hm
    refine ⟨['0'], ['0'], ?_, isDigits_zero, isDigits_zero, fun negative => ?_⟩
    · rw [writeMagnitude, if_pos hm]
      rfl
    · rw [hzero]
      rfl
  · obtain ⟨c, e, hdigits⟩ : ∃ c e, digits .up m = (c, e) := ⟨_, _, rfl⟩
    have hreads : ofDecimal false c e = .finite false m := by
      have hchosen := ofDecimal_digits .up m
      rwa [hdigits] at hchosen
    have hc : c ≠ 0 := by
      rintro rfl
      obtain ⟨-, hzero⟩ := Double.finite.inj (hreads.symm.trans (if_pos rfl))
      exact hm (congrArg Fin.val hzero)
    obtain ⟨ds, z, hplaced, hds, hvalue⟩ := placed_eq hc e
    obtain ⟨whole, places, j, htext, hwhole, hplaces, hdigit, hlength⟩ := positional_eq hds (ds.length + z + e)
    refine ⟨whole, places, ?_, hwhole, hplaces, fun negative => ?_⟩
    · rw [writeMagnitude, if_neg hm, hdigits]
      simp only [hplaced, htext]
    · have hexponent : -(places.length : Int) = e + z - j := by omega
      calc ofDecimal negative (Nat.ofDigitChars 10 (whole ++ places) 0) (-(places.length : Int))
          = ofDecimal negative (Nat.ofDigitChars 10 ds 0) (e + z) := by
            rw [hdigit, hexponent, ofDecimal_shift]
        _ = ofDecimal negative c e := by
            rw [← hvalue, ← ofDecimal_shift negative _ z, Int.add_sub_cancel]
        _ = .finite negative m := ofDecimal_eq_finite hreads negative

/-- **Doubles are read back from their text.** -/
theorem read_write (d : Double) : read d.write = some d := by
  cases d with
  | nan => decide
  | infinite negative => cases negative <;> decide
  | finite negative m =>
    obtain ⟨whole, places, htext, hwhole, hplaces, hreads⟩ := writeMagnitude_eq m
    have hunsigned : readUnsigned negative (writeMagnitude m) = some (.finite negative m) := by
      rw [htext, readUnsigned_of_point hwhole hplaces, hreads]
    have hsplit : splitSign (if negative then '-' :: writeMagnitude m else writeMagnitude m) = (negative, writeMagnitude m) := by
      cases negative with
      | true => rfl
      | false => exact splitSign_of_isUnsigned (htext ▸ .point hwhole hplaces)
    simp only [read, write, String.toList_ofList, hsplit, hunsigned, Option.some_or]

/-- the text of a double is never that of an integer -/
theorem hasFractionalMark_write (d : Double) : Number.hasFractionalMark d.write = true := by
  cases d with
  | nan => decide
  | infinite negative => cases negative <;> decide
  | finite negative m =>
    obtain ⟨whole, places, htext, -⟩ := writeMagnitude_eq m
    refine Number.hasFractionalMark_of_point ?_
    rw [write, String.toList_ofList, htext]
    cases negative <;> simp

end Double

/-! ## Integers -/

namespace Number

theorem isDigit_of_mem_intDigits {i : Int} {c : Char} (h : c ∈ intDigits i) : c = '-' ∨ c.isDigit := by
  unfold intDigits at h
  split_ifs at h
  · exact (List.mem_cons.1 h).imp_right ((isDigits_natDigits _).digit c)
  · exact .inr ((isDigits_natDigits _).digit c h)

theorem readInt_intDigits (i : Int) : readInt (intDigits i) = some i := by
  have hread : readNat (natDigits i.natAbs) = some i.natAbs := by
    rw [readNat_of_isDigits (isDigits_natDigits _), natDigits, Nat.ofDigitChars_ten_toDigits]
  have hsplit : splitSign (intDigits i) = (decide (i < 0), natDigits i.natAbs) := by
    unfold intDigits
    by_cases hneg : i < 0
    · rw [if_pos hneg, decide_eq_true hneg]
      rfl
    · rw [if_neg hneg, decide_eq_false hneg]
      exact splitSign_of_isUnsigned (.whole (isDigits_natDigits _))
  have hsign : (if i < 0 then -(i.natAbs : Int) else (i.natAbs : Int)) = i := by
    split_ifs <;> omega
  simp only [readInt, hsplit, hread, decide_eq_true_eq]
  exact congrArg some hsign

/-- **Integers are read back from their text**, the least one as well. -/
theorem readInt64_writeInt64 (i : Int64) : readInt64 (writeInt64 i) = some i := by
  rw [readInt64, writeInt64, String.toList_ofList, readInt_intDigits, Option.bind_some, int64?]
  have hmin : -0x8000000000000000 ≤ i.toInt := Int64.minValue_le_toInt i
  have hmax : i.toInt ≤ 0x7fffffffffffffff := Int64.toInt_le i
  rw [if_pos ⟨hmin, by omega⟩, Int64.ofInt_toInt]

/-! ## Numbers -/

/-- **Numbers are read back from their text**, integers as integers and doubles as doubles. -/
theorem read_render (n : Number) : read n.render = some n := by
  cases n with
  | double d => rw [read, render, if_pos (Double.hasFractionalMark_write d), Double.read_write, Option.map_some]
  | int i =>
    have hmark : hasFractionalMark (writeInt64 i) = false := by
      refine hasFractionalMark_of_digits fun c hc => ?_
      rw [writeInt64, String.toList_ofList] at hc
      exact (isDigit_of_mem_intDigits hc).imp_right .inr
    rw [read, render, hmark, if_neg Bool.false_ne_true, readInt64_writeInt64, Option.map_some]

end Number

/-! ## Sums -/

/-- a number that is added to the text of a double leaves the text of their sum as doubles -/
theorem addToText_of_double {raw : String} {d : Double} (hr : Number.read raw = some (.double d)) (delta : Number) :
    addToText raw delta = .ok (d + delta.toDouble).write := by
  unfold addToText
  rw [hr]
  cases delta <;> rfl

end ScopedStore
