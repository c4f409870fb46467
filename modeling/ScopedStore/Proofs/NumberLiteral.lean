/-
Number literals: perhaps a minus sign, digits, and perhaps a point with more digits after it.

`Number.read_of_isLiteral`: a number literal is read as a number, unless it is a whole number outside the range of
64-bit integers.
-/
import Mathlib.Data.List.TakeWhile
import Mathlib.Tactic
import ScopedStore.Number.Basic

namespace ScopedStore

namespace Text

theorem contains_iff {part cs : List Char} : contains part cs = true ↔ part <:+: cs := by
  induction cs with
  | nil => simp [contains]
  | cons c cs ih => rw [contains, Bool.or_eq_true, List.isPrefixOf_iff_prefix, ih, List.infix_cons_iff]

theorem toLower_of_isDigit {c : Char} (h : c.isDigit) : c.toLower = c := by
  obtain ⟨-, h9⟩ := Bool.and_eq_true_iff.1 h
  unfold Char.toLower
  rw [dif_neg fun hu => absurd (UInt32.le_trans hu.1 (of_decide_eq_true h9)) (by decide)]

/-- what holds of the ten digits holds of every character that is one -/
theorem of_isDigit (P : Char → Prop) (h : ∀ n < 58, 48 ≤ n → P (Char.ofNat n)) {c : Char} (hc : c.isDigit) : P c := by
  obtain ⟨h0, h9⟩ := Bool.and_eq_true_iff.1 hc
  have hlow : 48 ≤ c.toNat := UInt32.le_iff_toNat_le.1 (of_decide_eq_true h0)
  have hhigh : c.toNat ≤ 57 := UInt32.le_iff_toNat_le.1 (of_decide_eq_true h9)
  rw [← Char.ofNat_toNat c]
  exact h c.toNat (by omega) hlow

/-- digits alone, and at least one -/
structure IsDigits (cs : List Char) : Prop where
  nonempty : cs ≠ []
  digit : ∀ c ∈ cs, c.isDigit

/-- a number literal without its sign -/
inductive IsUnsigned : List Char → Prop where
  | whole {ds : List Char} (h : IsDigits ds) : IsUnsigned ds
  | point {ds ps : List Char} (h : IsDigits ds) (h' : IsDigits ps) : IsUnsigned (ds ++ '.' :: ps)

/-- a number literal -/
inductive IsLiteral : List Char → Prop where
  | plain {cs : List Char} (h : IsUnsigned cs) : IsLiteral cs
  | negative {cs : List Char} (h : IsUnsigned cs) : IsLiteral ('-' :: cs)

theorem IsDigits.head {ds : List Char} (h : IsDigits ds) : ∃ d rest, ds = d :: rest ∧ d.isDigit := by
  obtain ⟨d, rest, rfl⟩ := List.exists_cons_of_ne_nil h.nonempty
  exact ⟨d, rest, rfl, h.digit d List.mem_cons_self⟩

theorem IsUnsigned.head {cs : List Char} (h : IsUnsigned cs) : ∃ d rest, cs = d :: rest ∧ d.isDigit := by
  cases h with
  | whole h => exact h.head
  | point h h' =>
    obtain ⟨d, rest, rfl, hd⟩ := h.head
    exact ⟨d, _, rfl, hd⟩

theorem splitSign_of_isUnsigned {cs : List Char} (h : IsUnsigned cs) : splitSign cs = (false, cs) := by
  obtain ⟨d, rest, rfl, hd⟩ := h.head
  unfold splitSign
  split
  · rename_i he
    obtain ⟨rfl, -⟩ := List.cons.inj he
    exact absurd hd (by decide)
  · rename_i he
    obtain ⟨rfl, -⟩ := List.cons.inj he
    exact absurd hd (by decide)
  · rfl

/-- the sign of a literal is taken off, and an unsigned literal is left -/
theorem splitSign_of_isLiteral {cs : List Char} (h : IsLiteral cs) :
    ∃ sign rest, splitSign cs = (sign, rest) ∧ IsUnsigned rest ∧ cs = if sign then '-' :: rest else rest := by
  cases h with
  | plain h => exact ⟨false, cs, splitSign_of_isUnsigned h, h, rfl⟩
  | @negative rest h => exact ⟨true, rest, rfl, h, rfl⟩

theorem readNat_of_isDigits {ds : List Char} (h : IsDigits ds) : readNat ds = some (Nat.ofDigitChars 10 ds 0) := by
  have he : ds.isEmpty = false := by simpa using h.nonempty
  have ha : ds.all Char.isDigit = true := List.all_eq_true.2 h.digit
  rw [readNat, he, ha]
  rfl

end Text

/-! ## Reading -/

open Text

/-- digits around a point are read together, and rounded with as many places as stand after the point -/
theorem Double.readUnsigned_of_point {ds ps : List Char} (h : IsDigits ds) (h' : IsDigits ps) (negative : Bool) :
    readUnsigned negative (ds ++ '.' :: ps) =
      some (ofDecimal negative (Nat.ofDigitChars 10 (ds ++ ps) 0) (-(ps.length : Int))) := by
  have hw : (ds ++ '.' :: ps).takeWhile Char.isDigit = ds := by
    rw [List.takeWhile_append_of_pos h.digit, List.takeWhile_cons_of_neg (by decide), List.append_nil]
  have hr : (ds ++ '.' :: ps).dropWhile Char.isDigit = '.' :: ps := by
    rw [List.dropWhile_append_of_pos h.digit, List.dropWhile_cons_of_neg (by decide)]
  have hp : ps.takeWhile Char.isDigit = ps := List.takeWhile_eq_self_iff.2 h'.digit
  have hd : ps.dropWhile Char.isDigit = [] := List.dropWhile_eq_nil_iff.2 h'.digit
  have hm : readMantissa (ds ++ '.' :: ps) = some (Nat.ofDigitChars 10 (ds ++ ps) 0, ps.length, []) := by
    simp only [readMantissa, hw, hr, hp, hd]
    rw [if_neg (by simp [h.nonempty])]
  have he : (0 : Int) - ps.length = -(ps.length : Int) := Int.zero_sub _
  rw [readUnsigned, hm, ← he]
  rfl

namespace Number

theorem hasFractionalMark_of_point {s : String} (h : '.' ∈ s.toList) : hasFractionalMark s = true := by
  have hm : '.' ∈ s.toList.map Char.toLower := List.mem_map.2 ⟨'.', h, rfl⟩
  simp only [hasFractionalMark, Bool.or_eq_true]
  exact .inl (.inl (.inl (List.contains_iff_mem.2 hm)))

/-- a text of signs and digits has no mark -/
theorem hasFractionalMark_of_digits {s : String} (h : ∀ c ∈ s.toList, c = '-' ∨ c = '+' ∨ c.isDigit) :
    hasFractionalMark s = false := by
  have hlow : ∀ c ∈ s.toList.map Char.toLower, c = '-' ∨ c = '+' ∨ c.isDigit := by
    intro c hc
    obtain ⟨d, hd, rfl⟩ := List.mem_map.1 hc
    rcases h d hd with rfl | rfl | hd
    · exact .inl rfl
    · exact .inr (.inl rfl)
    · exact .inr (.inr (by rwa [toLower_of_isDigit hd]))
  have hno : ∀ c, c ≠ '-' → c ≠ '+' → c.isDigit = false → c ∉ s.toList.map Char.toLower := by
    intro c hm hp hd hc
    rcases hlow c hc with rfl | rfl | hc
    · exact hm rfl
    · exact hp rfl
    · exact absurd hc (by rw [hd]; decide)
  have hword : ∀ word : List Char, ∀ c ∈ word, c ∉ s.toList.map Char.toLower →
      Text.contains word (s.toList.map Char.toLower) = false := fun word c hw hc =>
    Bool.eq_false_iff.2 fun hp => hc ((contains_iff.1 hp).subset hw)
  have hpoint := hno '.' (by decide) (by decide) (by decide)
  have he := hno 'e' (by decide) (by decide) (by decide)
  have hinf := hword "inf".toList 'i' (by decide) (hno 'i' (by decide) (by decide) (by decide))
  have hnan := hword "nan".toList 'n' (by decide) (hno 'n' (by decide) (by decide) (by decide))
  simp only [hasFractionalMark, hinf, hnan, List.contains_eq_mem, hpoint, he, decide_false, Bool.or_false]

theorem isIntegerLiteral_of_isDigits {s : String} {sign : Bool} {ds : List Char} (h : IsDigits ds)
    (hs : s.toList = if sign then '-' :: ds else ds) : isIntegerLiteral s = true := by
  have he : ds.isEmpty = false := by simpa using h.nonempty
  have ha : ds.all Char.isDigit = true := List.all_eq_true.2 h.digit
  unfold isIntegerLiteral
  rw [hs]
  cases sign with
  | true => simp only [if_true, he, ha, Bool.not_false, Bool.and_self]
  | false =>
    obtain ⟨d, rest, rfl, hd⟩ := h.head
    rw [if_neg (by decide)]
    split
    · rename_i hc
      obtain ⟨rfl, -⟩ := List.cons.inj hc
      exact absurd hd (by decide)
    · rw [he, ha]
      rfl

/-- outside the range of 64-bit integers -/
def OutOfRange (i : Int) : Prop := i < -0x8000000000000000 ∨ 0x8000000000000000 ≤ i

theorem int64?_eq_none {i : Int} : int64? i = none ↔ OutOfRange i := by
  unfold int64? OutOfRange
  split_ifs <;> simp <;> omega

/-- **Literals read as numbers**, but for whole numbers that are out of range. -/
theorem read_of_isLiteral {s : String} (h : IsLiteral s.toList) (hn : read s = none) :
    isIntegerLiteral s ∧ ∃ i, Text.readInt s.toList = some i ∧ OutOfRange i := by
  obtain ⟨sign, rest, hs, hu, hcs⟩ := splitSign_of_isLiteral h
  cases hu with
  | @point ds ps hd hp =>
    -- with a point, the literal is read as a double
    have hpoint : '.' ∈ s.toList := by rw [hcs]; cases sign <;> simp
    have hmark : hasFractionalMark s = true := hasFractionalMark_of_point hpoint
    have hdouble := Double.readUnsigned_of_point hd hp sign
    rw [read, if_pos hmark] at hn
    simp only [Double.read, hs, hdouble, Option.some_or] at hn
    cases hn
  | whole hd =>
    have hdigits : ∀ c ∈ s.toList, c = '-' ∨ c = '+' ∨ c.isDigit := by
      intro c hc
      rw [hcs] at hc
      cases sign with
      | true => exact (List.mem_cons.1 hc).imp_right fun hc => .inr (hd.digit c hc)
      | false => exact .inr (.inr (hd.digit c hc))
    have hint : Text.readInt s.toList =
        some (if sign then -(Nat.ofDigitChars 10 rest 0 : Int) else (Nat.ofDigitChars 10 rest 0 : Int)) := by
      simp only [Text.readInt, hs]
      rw [readNat_of_isDigits hd]
      rfl
    rw [read, hasFractionalMark_of_digits hdigits, if_neg (by decide), readInt64, hint] at hn
    exact ⟨isIntegerLiteral_of_isDigits hd hcs, _, hint, int64?_eq_none.1 (Option.map_eq_none_iff.1 hn)⟩

end Number
end ScopedStore
