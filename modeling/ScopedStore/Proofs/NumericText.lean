/-
Which texts are numbers.

`Text.IsInteger` is the grammar of integers: digits, perhaps with a sign in front. It is what integers are read by
(`Text.readInt_eq_some`), and all that is read as a double without a fractional mark (`Double.isInteger_of_read`). So a
text is read as no number when it is read as no double, or when it is an integer out of range (`Number.read_eq_none`).

Main result, `numeric_texts_are_double_texts`: a text counts as not numeric exactly when it is read as no double, and an
integer out of range overflows. This leaves out the integers out of range that have a plus sign: they are read as doubles
and still count as not numeric (`notNumeric_of_plusBeyond`).
-/
import ScopedStore.Proofs.Checking
import ScopedStore.Proofs.TypedValues

namespace ScopedStore

/-! ## Integers -/

namespace Text

variable {cs ds : List Char} {i : Int}

/-- the text writes the integer: digits, perhaps with a sign in front -/
inductive IsInteger : List Char → Int → Prop where
  | plain {ds : List Char} (digits : IsDigits ds) : IsInteger ds (Nat.ofDigitChars 10 ds 0)
  | plus {ds : List Char} (digits : IsDigits ds) : IsInteger ('+' :: ds) (Nat.ofDigitChars 10 ds 0)
  | minus {ds : List Char} (digits : IsDigits ds) : IsInteger ('-' :: ds) (-(Nat.ofDigitChars 10 ds 0 : Int))

theorem isDigits_iff : IsDigits cs ↔ (!cs.isEmpty && cs.all Char.isDigit) = true := by
  simp only [Bool.and_eq_true, Bool.not_eq_true', List.isEmpty_eq_false_iff, List.all_eq_true]
  exact ⟨fun h => ⟨h.nonempty, h.digit⟩, fun h => ⟨h.1, h.2⟩⟩

theorem readNat_eq_some {n : Nat} : readNat cs = some n ↔ IsDigits cs ∧ Nat.ofDigitChars 10 cs 0 = n := by
  unfold readNat
  split_ifs with h
  · simp [isDigits_iff.2 h]
  · simp [mt isDigits_iff.1 h]

/-- the sign is taken off, and digits are left -/
theorem isInteger_iff : IsInteger cs i ↔ ∃ negative ds, splitSign cs = (negative, ds) ∧ IsDigits ds ∧
    (if negative then -(Nat.ofDigitChars 10 ds 0 : Int) else (Nat.ofDigitChars 10 ds 0 : Int)) = i := by
  constructor
  · intro h
    cases h with
    | plain digits => exact ⟨false, cs, splitSign_of_isUnsigned (.whole digits), digits, rfl⟩
    | plus digits => exact ⟨false, _, rfl, digits, rfl⟩
    | minus digits => exact ⟨true, _, rfl, digits, rfl⟩
  · rintro ⟨negative, ds, hsplit, digits, rfl⟩
    unfold splitSign at hsplit
    split at hsplit <;> obtain ⟨rfl, rfl⟩ := Prod.mk.inj hsplit
    · exact .minus digits
    · exact .plus digits
    · exact .plain digits

/-- **Integers are read by their grammar.** -/
theorem readInt_eq_some : readInt cs = some i ↔ IsInteger cs i := by
  obtain ⟨negative, ds, hsplit⟩ : ∃ negative ds, splitSign cs = (negative, ds) := ⟨_, _, rfl⟩
  simp only [readInt, hsplit]
  constructor
  · intro h
    cases hn : readNat ds with
    | none =>
      rw [hn] at h
      cases h
    | some n =>
      rw [hn] at h
      obtain ⟨digits, rfl⟩ := readNat_eq_some.1 hn
      exact isInteger_iff.2 ⟨negative, ds, hsplit, digits, Option.some.inj h⟩
  · intro h
    obtain ⟨_, _, hpair, digits, rfl⟩ := isInteger_iff.1 h
    obtain ⟨rfl, rfl⟩ := Prod.mk.inj (hsplit.symm.trans hpair)
    rw [readNat_of_isDigits digits]
    rfl

theorem IsInteger.char (h : IsInteger cs i) {c : Char} (hc : c ∈ cs) : c = '-' ∨ c = '+' ∨ c.isDigit := by
  cases h with
  | plain digits => exact .inr (.inr (digits.digit c hc))
  | plus digits =>
    rcases List.mem_cons.1 hc with rfl | hc
    · exact .inr (.inl rfl)
    · exact .inr (.inr (digits.digit c hc))
  | minus digits =>
    rcases List.mem_cons.1 hc with rfl | hc
    · exact .inl rfl
    · exact .inr (.inr (digits.digit c hc))

/-- what follows the sign stands at the end of the text -/
theorem suffix_of_splitSign {negative : Bool} (h : splitSign cs = (negative, ds)) : ds <:+ cs := by
  unfold splitSign at h
  split at h <;> obtain ⟨rfl, rfl⟩ := Prod.mk.inj h
  · exact List.suffix_cons _ _
  · exact List.suffix_cons _ _
  · exact List.suffix_rfl

end Text

open Text

/-! ## Doubles -/

/-- none of the marks stands in the text, whatever the case of its letters -/
theorem Number.hasFractionalMark_eq_false {s : String} : hasFractionalMark s = false ↔
    '.' ∉ s.toList.map Char.toLower ∧ 'e' ∉ s.toList.map Char.toLower ∧
      ¬"inf".toList <:+: s.toList.map Char.toLower ∧ ¬"nan".toList <:+: s.toList.map Char.toLower := by
  rw [← Bool.not_eq_true]
  simp only [hasFractionalMark, Bool.or_eq_true, List.contains_iff_mem, contains_iff, not_or, and_assoc]

namespace Double

variable {s : String} {cs ds : List Char} {d : Double} {negative : Bool}

theorem readUnsigned_of_digits (h : IsDigits ds) (negative : Bool) :
    readUnsigned negative ds = some (ofDecimal negative (Nat.ofDigitChars 10 ds 0) 0) := by
  have hwhole : ds.takeWhile Char.isDigit = ds := List.takeWhile_eq_self_iff.2 h.digit
  have hrest : ds.dropWhile Char.isDigit = [] := List.dropWhile_eq_nil_iff.2 h.digit
  have hmantissa : readMantissa ds = some (Nat.ofDigitChars 10 ds 0, 0, []) := by
    simp only [readMantissa, hwhole, hrest, List.append_nil, List.length_nil]
    rw [if_neg (by simp [h.nonempty])]
  rw [readUnsigned, hmantissa]
  rfl

theorem exists_read_of_isInteger {i : Int} (h : IsInteger s.toList i) : ∃ d, read s = some d := by
  obtain ⟨negative, ds, hsplit, digits, -⟩ := isInteger_iff.1 h
  exact ⟨_, by simp only [read, hsplit, readUnsigned_of_digits digits, Option.some_or]; rfl⟩

theorem readMantissa_of_pointless (h : '.' ∉ cs) : readMantissa cs =
    if (cs.takeWhile Char.isDigit).isEmpty then none
    else some (Nat.ofDigitChars 10 (cs.takeWhile Char.isDigit) 0, 0, cs.dropWhile Char.isDigit) := by
  have hpoint : ∀ after, cs.dropWhile Char.isDigit ≠ '.' :: after := fun after hrest =>
    h ((List.dropWhile_suffix _).subset (hrest ▸ List.mem_cons_self))
  -- the second alternative is left, for no point stands behind the digits
  simp only [readMantissa, List.isEmpty_nil, Bool.and_true, List.append_nil, List.length_nil]

/-- a decimal without a point and without an exponent is digits alone -/
theorem isDigits_of_readUnsigned (h : readUnsigned negative cs = some d) (hpoint : '.' ∉ cs)
    (hexponent : ∀ c ∈ cs, c ≠ 'e' ∧ c ≠ 'E') : IsDigits cs := by
  obtain ⟨⟨coefficient, places, rest⟩, hmantissa, h⟩ := Option.bind_eq_some_iff.1 h
  obtain ⟨exponent, hread, -⟩ := Option.bind_eq_some_iff.1 h
  rw [readMantissa_of_pointless hpoint] at hmantissa
  split_ifs at hmantissa with hwhole
  obtain ⟨-, -, rfl⟩ : _ ∧ _ ∧ cs.dropWhile Char.isDigit = rest := by simpa using hmantissa
  have hafter : ∀ c ∈ cs.dropWhile Char.isDigit, c ∈ cs := fun c hc => (List.dropWhile_suffix _).subset hc
  unfold readExponent at hread
  split at hread
  · rename_i hrest
    refine ⟨?_, fun c hc => List.dropWhile_eq_nil_iff.1 hrest c hc⟩
    rintro rfl
    exact hwhole rfl
  · rename_i c cs' hrest
    obtain ⟨he, hE⟩ := hexponent c (hafter c (hrest ▸ List.mem_cons_self))
    rw [if_neg (not_or.2 ⟨he, hE⟩)] at hread
    cases hread

/-- **Without a fractional mark, only integers are read as doubles.** -/
theorem isInteger_of_read (h : read s = some d) (hmark : Number.hasFractionalMark s = false) :
    ∃ i, IsInteger s.toList i := by
  obtain ⟨hpoint, he, hinf, hnan⟩ := Number.hasFractionalMark_eq_false.1 hmark
  obtain ⟨negative, ds, hsplit⟩ : ∃ negative ds, splitSign s.toList = (negative, ds) := ⟨_, _, rfl⟩
  have hlower : ds.map Char.toLower <:+ s.toList.map Char.toLower := (suffix_of_splitSign hsplit).map _
  simp only [read, hsplit] at h
  rcases Option.or_eq_some_iff.1 h with h | ⟨-, h⟩
  · have digits : IsDigits ds := by
      refine isDigits_of_readUnsigned h (fun hc => hpoint ?_) fun c hc => ⟨?_, ?_⟩
      · exact hlower.subset (List.mem_map.2 ⟨'.', hc, rfl⟩)
      · rintro rfl
        exact he (hlower.subset (List.mem_map.2 ⟨'e', hc, rfl⟩))
      · rintro rfl
        exact he (hlower.subset (List.mem_map.2 ⟨'E', hc, rfl⟩))
    exact ⟨_, isInteger_iff.2 ⟨negative, ds, hsplit, digits, rfl⟩⟩
  · -- the words all hold one of the marks
    unfold readWord at h
    simp only at h
    split_ifs at h with hword hword
    · exact absurd (hword ▸ hlower.isInfix) hnan
    · refine absurd (List.IsInfix.trans ?_ hlower.isInfix) hinf
      rcases hword with hword | hword
      · rw [hword]
      · rw [hword]
        decide

end Double

/-! ## Numbers -/

namespace Number

variable {s : String}

/-- **What is read as no number** is read as no double, or is an integer out of range. -/
theorem read_eq_none : read s = none ↔ Double.read s = none ∨ ∃ i, IsInteger s.toList i ∧ OutOfRange i := by
  cases hmark : hasFractionalMark s with
  | true =>
    rw [read, if_pos hmark, Option.map_eq_none_iff]
    constructor
    · exact .inl
    · rintro (h | ⟨i, hi, -⟩)
      · exact h
      · cases hmark.symm.trans (hasFractionalMark_of_digits fun c hc => hi.char hc)
  | false =>
    rw [read, hmark, if_neg Bool.false_ne_true, Option.map_eq_none_iff, readInt64]
    constructor
    · intro h
      cases hint : readInt s.toList with
      | none =>
        left
        rw [Option.eq_none_iff_forall_ne_some]
        intro d hd
        obtain ⟨i, hi⟩ := Double.isInteger_of_read hd hmark
        cases hint.symm.trans (readInt_eq_some.2 hi)
      | some i =>
        rw [hint, Option.bind_some] at h
        exact .inr ⟨i, readInt_eq_some.1 hint, int64?_eq_none.1 h⟩
    · rintro (h | ⟨i, hi, hout⟩)
      · cases hint : readInt s.toList with
        | none => rfl
        | some i =>
          obtain ⟨d, hd⟩ := Double.exists_read_of_isInteger (readInt_eq_some.1 hint)
          cases h.symm.trans hd
      · rw [readInt_eq_some.2 hi, Option.bind_some]
        exact int64?_eq_none.2 hout

/-- the literals are the integers without a plus sign -/
theorem isIntegerLiteral_iff :
    isIntegerLiteral s = true ↔ (∃ i, IsInteger s.toList i) ∧ s.toList.head? ≠ some '+' := by
  unfold isIntegerLiteral
  split
  · rename_i cs hcs
    rw [← isDigits_iff, hcs]
    constructor
    · exact fun digits => ⟨⟨_, .minus digits⟩, by simp⟩
    · rintro ⟨⟨i, hi⟩, -⟩
      cases hi with
      | plain digits => exact absurd (digits.digit '-' List.mem_cons_self) (by decide)
      | minus digits => exact digits
  · rename_i hminus
    rw [← isDigits_iff]
    constructor
    · intro digits
      refine ⟨⟨_, .plain digits⟩, fun hhead => ?_⟩
      exact absurd (digits.digit '+' (List.mem_of_head? hhead)) (by decide)
    · rintro ⟨⟨i, hi⟩, hplus⟩
      generalize s.toList = cs at hi hplus hminus
      cases hi with
      | plain digits => exact digits
      | plus digits => exact absurd rfl hplus
      | @minus ds digits => exact absurd rfl (hminus ds)

/-- a plus sign and digits that write no 64-bit integer -/
def PlusBeyond (s : String) : Prop := s.toList.head? = some '+' ∧ ∃ i, IsInteger s.toList i ∧ OutOfRange i

/-- **What is no number, and no literal of one,** is read as no double; or it has a plus sign and is out of range. -/
theorem read_eq_none_and_not_literal : read s = none ∧ isIntegerLiteral s = false ↔
    Double.read s = none ∨ PlusBeyond s := by
  rw [read_eq_none]
  constructor
  · rintro ⟨h | ⟨i, hi, hout⟩, hliteral⟩
    · exact .inl h
    · right
      refine ⟨?_, i, hi, hout⟩
      by_contra hplus
      cases hliteral.symm.trans (isIntegerLiteral_iff.2 ⟨⟨i, hi⟩, hplus⟩)
  · rintro (h | ⟨hplus, i, hi, hout⟩)
    · refine ⟨.inl h, Bool.eq_false_iff.2 fun hliteral => ?_⟩
      obtain ⟨⟨i, hi⟩, -⟩ := isIntegerLiteral_iff.1 hliteral
      obtain ⟨d, hd⟩ := Double.exists_read_of_isInteger hi
      cases h.symm.trans hd
    · exact ⟨.inr ⟨i, hi, hout⟩, Bool.eq_false_iff.2 fun hliteral => (isIntegerLiteral_iff.1 hliteral).2 hplus⟩

end Number

/-! ## Sums -/

variable {raw text : String} {delta : Number}

/-- the amount does not matter: it is the text that is numeric or not -/
theorem addToText_eq_notNumeric : addToText raw delta = .error (.notNumeric text) ↔
    text = raw ∧ (Double.read raw = none ∨ Number.PlusBeyond raw) := by
  rw [← Number.read_eq_none_and_not_literal]
  unfold addToText
  split
  · rename_i current hread
    rw [hread]
    split <;> simp
  · rename_i hread
    rw [hread]
    split_ifs with hliteral
    · simp [hliteral]
    · simp [Bool.eq_false_iff.2 hliteral, eq_comm]

/-- **An integer out of range overflows,** unless it has a plus sign. -/
theorem addToText_of_outOfRange {i : Int} (hi : Text.IsInteger raw.toList i) (hout : Number.OutOfRange i)
    (hplus : ¬Number.PlusBeyond raw) : addToText raw delta = .error (.overflow raw delta.render) := by
  have hread : Number.read raw = none := Number.read_eq_none.2 (.inr ⟨i, hi, hout⟩)
  have hliteral : Number.isIntegerLiteral raw = true :=
    Number.isIntegerLiteral_iff.2 ⟨⟨i, hi⟩, fun hhead => hplus ⟨hhead, i, hi, hout⟩⟩
  unfold addToText
  rw [hread]
  simp only [hliteral, if_true]

/-- with a plus sign it counts as not numeric, though it is read as a double -/
theorem notNumeric_of_plusBeyond (h : Number.PlusBeyond raw) :
    addToText raw delta = .error (.notNumeric raw) ∧ ∃ d, Double.read raw = some d := by
  obtain ⟨-, i, hi, -⟩ := id h
  exact ⟨addToText_eq_notNumeric.2 ⟨rfl, .inr h⟩, Double.exists_read_of_isInteger hi⟩

/-! ## Stores -/

theorem ScalarCodec.decode_eq_value {codec : ScalarCodec} {type : ScalarType} {v : Scalar} :
    codec.decode type raw = .ok (.value v) ↔ codec.read type raw = .ok v := by
  unfold decode
  split
  · simp_all
  · rename_i hread
    rw [hread]
    split <;> simp

theorem ScalarCodec.read_eq_double (codec : ScalarCodec) {d : Double} :
    codec.read .double raw = .ok (.double d) ↔ Double.read raw = some d := by
  simp only [read]
  split <;> simp_all

namespace Store

open Attempt

variable {s : Store} {ref : KeyRef} {k : Key}

/-- the key is read as a double: its text is one, whatever is done with texts that are none -/
theorem getAs_eq_double (hk : s.resolve ref = .ok k) (hraw : s.data[k]? = some raw) {d : Double} :
    s.getAs .double ref = .ok (some (.value (.double d))) ↔ Double.read raw = some d := by
  rw [getAs_of_found hk hraw, Result.mapError_eq_ok, Result.map_eq_ok, ← ScalarCodec.read_eq_double s.config.scalarCodec,
    ← ScalarCodec.decode_eq_value]
  simp

/-- a step on a number refuses the text exactly when it is not numeric -/
theorem transform_eq_notNumeric (hk : s.resolve ref = .ok k) (hraw : s.data[k]? = some raw) (time : Nat)
    (operation : Operation) (delta : Number) :
    (transform time operation ref delta s).1 = .error (.coercion (.notNumeric text)) ↔
      addToText raw delta = .error (.notNumeric text) := by
  have hfound : s.data.getD k "0" = raw := by rw [Std.ExtTreeMap.getD_eq_getD_getElem?, hraw, Option.getD_some]
  rw [transform, result_revise hk, hfound, Result.mapError_eq_error]
  simp

theorem decrement_of_neg? {amount delta : Number} (h : amount.neg? = some delta) (time : Nat) (ref : KeyRef) :
    decrement time ref amount = transform time .decrement ref delta := by
  unfold decrement
  rw [h]

end Store

/-! ## Main result -/

open Store

/-- **Numeric texts are the texts of doubles.** Take any text but a plus sign before digits that are out of range, and
add any number to it. The text counts as not numeric exactly when it is read as no double; if it is an integer out of
range, the sum overflows. So a key that holds the text refuses an increment as not numeric exactly when the key is not
read as a double, whatever is done with texts that do not read; and the same goes for a decrement, but for the least
integer, which is refused before the text is looked at. -/
theorem numeric_texts_are_double_texts {raw : String} (h : ¬Number.PlusBeyond raw) :
    (∀ delta text, addToText raw delta = .error (.notNumeric text) ↔ text = raw ∧ Double.read raw = none) ∧
    (∀ delta i, Text.IsInteger raw.toList i → Number.OutOfRange i →
      addToText raw delta = .error (.overflow raw delta.render)) ∧
    ∀ (s : Store) (ref : KeyRef) (k : Key), s.resolve ref = .ok k → s.data[k]? = some raw → ∀ time amount,
      ((∃ text, (increment time ref amount s).1 = .error (.coercion (.notNumeric text))) ↔
        ¬∃ d, s.getAs .double ref = .ok (some (.value (.double d)))) ∧
      (amount ≠ .int Int64.minValue →
        ((∃ text, (decrement time ref amount s).1 = .error (.coercion (.notNumeric text))) ↔
          ¬∃ d, s.getAs .double ref = .ok (some (.value (.double d))))) := by
  have hsum : ∀ delta text, addToText raw delta = .error (.notNumeric text) ↔ text = raw ∧ Double.read raw = none := by
    intro delta text
    rw [addToText_eq_notNumeric, or_iff_left h]
  refine ⟨hsum, fun delta i hi hout => addToText_of_outOfRange hi hout h, ?_⟩
  intro s ref k hk hraw time amount
  -- the amount is left out of the account, so increments and decrements refuse the same texts
  have hrefused : ∀ operation delta,
      (∃ text, (transform time operation ref delta s).1 = .error (.coercion (.notNumeric text))) ↔
        ¬∃ d, s.getAs .double ref = .ok (some (.value (.double d))) := by
    intro operation delta
    simp only [transform_eq_notNumeric hk hraw, hsum, exists_eq_left, getAs_eq_double hk hraw,
      Option.eq_none_iff_forall_ne_some, not_exists, ne_eq]
  refine ⟨hrefused .increment amount, fun hamount => ?_⟩
  obtain ⟨delta, hdelta⟩ := Option.ne_none_iff_exists'.1 (mt Number.neg?_eq_none.1 hamount)
  rw [decrement_of_neg? hdelta]
  exact hrefused .decrement delta

/-- a key holds an integer that is out of range -/
def outOfRangeStore : Store := Engine.sample.store.write 1 .set ⟨"env", "a"⟩ "-99999999999999999999"

/-- the integer is a number, for it overflows and is read as a double; a number in base sixteen is none -/
theorem out_of_range_text_is_numeric :
    addToText "-99999999999999999999" (.int 1) = .error (.overflow "-99999999999999999999" "1") ∧
    (∃ d, outOfRangeStore.getAs .double (.text "env:a") = .ok (some (.value (.double d)))) ∧
    (¬∃ text, (increment 2 (.text "env:a") (.int 1) outOfRangeStore).1 = .error (.coercion (.notNumeric text))) ∧
    (¬∃ text, (decrement 2 (.text "env:a") (.int 1) outOfRangeStore).1 = .error (.coercion (.notNumeric text))) ∧
    addToText "0x1f" (.int 1) = .error (.notNumeric "0x1f") := by
  have hplus : ¬Number.PlusBeyond "-99999999999999999999" := fun h => absurd h.1 (by decide)
  have hplus' : ¬Number.PlusBeyond "0x1f" := fun h => absurd h.1 (by decide)
  have hinteger : Text.IsInteger "-99999999999999999999".toList (-99999999999999999999) :=
    Text.readInt_eq_some.1 (by decide)
  have hk : outOfRangeStore.resolve (.text "env:a") = .ok ⟨"env", "a"⟩ := by decide +kernel
  have hraw : outOfRangeStore.data[(⟨"env", "a"⟩ : Key)]? = some "-99999999999999999999" := by decide +kernel
  have hread : ∃ d, outOfRangeStore.getAs .double (.text "env:a") = .ok (some (.value (.double d))) := by
    obtain ⟨d, hd⟩ := Double.exists_read_of_isInteger hinteger
    exact ⟨d, (getAs_eq_double hk hraw).2 hd⟩
  obtain ⟨-, hover, hstore⟩ := numeric_texts_are_double_texts hplus
  obtain ⟨hincrement, hdecrement⟩ := hstore outOfRangeStore _ _ hk hraw 2 (.int 1)
  have hhex := (numeric_texts_are_double_texts hplus').1 (.int 1) "0x1f"
  exact ⟨hover (.int 1) _ hinteger (.inl (by decide)), hread, fun hfails => hincrement.1 hfails hread,
    fun hfails => (hdecrement (by decide)).1 hfails hread, hhex.2 ⟨rfl, by decide⟩⟩

/-- with a plus sign, digits that are out of range are read as a double and still count as not numeric -/
theorem plus_sign_hides_a_number :
    Text.IsInteger "+99999999999999999999".toList 99999999999999999999 ∧
    (∃ d, Double.read "+99999999999999999999" = some d) ∧
    addToText "+99999999999999999999" (.int 1) = .error (.notNumeric "+99999999999999999999") := by
  have hinteger : Text.IsInteger "+99999999999999999999".toList 99999999999999999999 :=
    Text.readInt_eq_some.1 (by decide)
  have hplus : Number.PlusBeyond "+99999999999999999999" :=
    ⟨by decide, 99999999999999999999, hinteger, .inr (by decide)⟩
  have hrefused : addToText "+99999999999999999999" (.int 1) = .error (.notNumeric "+99999999999999999999") ∧
      ∃ d, Double.read "+99999999999999999999" = some d := notNumeric_of_plusBeyond hplus
  exact ⟨hinteger, hrefused.2, hrefused.1⟩

end ScopedStore
