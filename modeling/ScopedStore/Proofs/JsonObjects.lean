/-
JSON objects without nesting are read back as they were written, but with their members sorted.

`IsLeaf` are null, strings and unsigned 64-bit integers. `value_write_leaf`: one of them is read back when a comma or a
closing brace comes after it; for a number this says that its digits are gathered without loss (`read_natDigits`).
`lookup_ofMembers`: in the sorted object, the last member of a name counts. No text of a leaf or of an object of leaves
holds a control character (`plainText_write_object`).

Main result, `read_text_object`: an object of leaves is read back.
-/
import ScopedStore.Proofs.DoubleText
import ScopedStore.Proofs.JsonText

namespace ScopedStore

/-! ## Digits -/

namespace Text

/-- the digits of a number start with a zero only if there is no other digit -/
theorem head_natDigits_ne {n : Nat} (h : 0 < n) : (natDigits n).head? ≠ some '0' := by
  induction n using Nat.strongRecOn with
  | ind n ih =>
    rw [natDigits, Nat.toDigits_eq_if (by decide)]
    split_ifs with hlt
    · have hall : ∀ d < 10, 0 < d → [Nat.digitChar d].head? ≠ some '0' := by decide
      exact hall n hlt h
    · have hfirst := ih (n / 10) (by omega) (by omega)
      obtain ⟨d, rest, hd, -⟩ := (isDigits_natDigits (n / 10)).head
      rw [natDigits] at hd hfirst
      rw [hd] at hfirst ⊢
      exact hfirst

end Text

namespace JsonNumber

open Text

theorem le_ofDigitChars (ds : List Char) (n : Nat) : n ≤ Nat.ofDigitChars 10 ds n := by
  rw [Nat.ofDigitChars_eq_ofDigitChars_zero]
  have hpow : 1 * n ≤ 10 ^ ds.length * n := Nat.mul_le_mul_right n (Nat.one_le_pow _ _ (by decide))
  omega

/-- digits of a number within the limit are gathered without loss -/
theorem gatherWhole_of_lt {ds : List Char} {n : Nat} (h : Nat.ofDigitChars 10 ds n < coefficientLimit) :
    gatherWhole n ds = (Nat.ofDigitChars 10 ds n, 0) := by
  induction ds generalizing n with
  | nil => rfl
  | cons d ds ih =>
    rw [Nat.ofDigitChars_cons] at h ⊢
    have hnext : 10 * n + (d.toNat - '0'.toNat) < coefficientLimit := Nat.lt_of_le_of_lt (le_ofDigitChars ds _) h
    rw [gatherWhole, if_pos hnext, ih h]

/-- **A written number is read back**, with a comma or a closing brace after it. -/
theorem read_natDigits {n : Nat} (h : n < UInt64.size) {c : Char} (hc : c = ',' ∨ c = '\x7d') (rest : List Char) :
    read (natDigits n ++ c :: rest) = some (.integer n, c :: rest) := by
  have hdigits := isDigits_natDigits n
  have hstop : ¬c.isDigit = true := by rcases hc with rfl | rfl <;> decide
  have hwhole : (natDigits n ++ c :: rest).takeWhile Char.isDigit = natDigits n := by
    rw [List.takeWhile_append_of_pos hdigits.digit, List.takeWhile_cons_of_neg hstop, List.append_nil]
  have hrest : (natDigits n ++ c :: rest).dropWhile Char.isDigit = c :: rest := by
    rw [List.dropWhile_append_of_pos hdigits.digit, List.dropWhile_cons_of_neg hstop]
  have hgather : gatherWhole 0 (natDigits n) = (n, 0) := by
    have hvalue : Nat.ofDigitChars 10 (natDigits n) 0 = n := Nat.ofDigitChars_ten_toDigits
    rw [gatherWhole_of_lt (hvalue.symm ▸ h), hvalue]
  have hfirst : ¬((natDigits n).isEmpty ||
      (decide ((natDigits n).head? = some '0') && decide ((natDigits n).length > 1))) = true := by
    rcases Nat.eq_zero_or_pos n with rfl | hpos
    · decide
    · simp [hdigits.nonempty, head_natDigits_ne hpos]
  have hsign : ∀ cs, natDigits n ++ c :: rest ≠ '-' :: cs := by
    obtain ⟨d, more, hd, hdigit⟩ := hdigits.head
    intro cs he
    rw [hd] at he
    obtain ⟨rfl, -⟩ := List.cons.inj he
    exact absurd hdigit (by decide)
  unfold read
  split
  rename_i negative cs hcs
  split at hcs
  · rename_i he
    exact absurd he (hsign _)
  · obtain ⟨rfl, rfl⟩ := Prod.mk.inj hcs
    simp only [hwhole, hrest, hgather, if_neg hfirst]
    rcases hc with rfl | rfl <;> simp [read.whole]

end JsonNumber

namespace Json

/-! ## Leaves -/

/-- a value with nothing inside it -/
inductive IsLeaf : Json → Prop where
  | null : IsLeaf .null
  | string (s : String) : IsLeaf (.string s)
  | count {n : Nat} (h : n < UInt64.size) : IsLeaf (.ofNat n)

theorem isLeaf_ofOption (s : Option String) : IsLeaf (.ofOption s) := by
  cases s with
  | none => exact .null
  | some s => exact .string s

theorem value_of_isDigit {d : Char} (h : d.isDigit) (fuel depth : Nat) (cs : List Char) :
    value (fuel + 1) depth (d :: cs) = (JsonNumber.read (d :: cs)).map fun (n, rest) => (.number n, rest) := by
  have hne : ∀ c : Char, c.isDigit = false → d ≠ c := by
    rintro c hc rfl
    rw [hc] at h
    cases h
  have hblank : ¬(decide (d = ' ') || decide (d = '\n') || decide (d = '\t') || decide (d = '\r')) = true := by
    simp [hne ' ' (by decide), hne '\n' (by decide), hne '\t' (by decide), hne '\r' (by decide)]
  have hskip : skipBlanks (d :: cs) = d :: cs := List.dropWhile_cons_of_neg hblank
  unfold value
  split
  · rename_i hcs
    rw [hskip] at hcs
    cases hcs
  · rename_i hcs
    rw [hskip] at hcs
    exact absurd (List.cons.inj hcs).1 (hne '"' (by decide))
  · rename_i hcs
    rw [hskip] at hcs
    exact absurd (List.cons.inj hcs).1 (hne '[' (by decide))
  · rename_i hcs
    rw [hskip] at hcs
    exact absurd (List.cons.inj hcs).1 (hne '\x7b' (by decide))
  · rename_i hcs
    rw [hskip] at hcs
    obtain ⟨rfl, rfl⟩ := List.cons.inj hcs
    rw [if_neg (hne 'n' (by decide)), if_neg (hne 't' (by decide)), if_neg (hne 'f' (by decide))]

/-- **A written leaf is read back**, with a comma or a closing brace after it. -/
theorem value_write_leaf {v : Json} (hv : IsLeaf v) {c : Char} (hc : c = ',' ∨ c = '\x7d') (fuel depth : Nat)
    (rest : List Char) : value (fuel + 1) depth (write v ++ c :: rest) = some (v, c :: rest) := by
  cases hv with
  | null => rfl
  | string s => exact value_writeString s fuel depth (c :: rest)
  | @count n h =>
    have hread := JsonNumber.read_natDigits h hc rest
    have hwrite : write (.ofNat n) = Text.natDigits n := by
      rw [ofNat, write, JsonNumber.write, Text.intDigits, if_neg (by omega), Int.natAbs_natCast]
    obtain ⟨d, more, hd, hdigit⟩ := (Text.isDigits_natDigits n).head
    rw [hwrite]
    rw [hd, List.cons_append] at hread ⊢
    rw [value_of_isDigit hdigit, hread]
    rfl

/-! ## Members -/

/-- the members are read one by one, up to the closing brace -/
theorem members_writeMembers {ms : List (String × Json)} (hne : ms ≠ []) (hleaf : ∀ m ∈ ms, IsLeaf m.2) {fuel : Nat}
    (h : ms.length < fuel) (depth : Nat) (acc : List (String × Json)) (rest : List Char) :
    members fuel depth acc (writeMembers ms ++ '\x7d' :: rest) = some (acc.reverse ++ ms, rest) := by
  have hquote : ∀ (s : String) (cs : List Char), skipBlanks (writeString s ++ cs) = writeString s ++ cs :=
    fun _ _ => rfl
  have hcolon : ∀ cs, skipBlanks (':' :: cs) = ':' :: cs := fun _ => rfl
  have hcomma : ∀ cs, skipBlanks (',' :: cs) = ',' :: cs := fun _ => rfl
  have hbrace : ∀ cs, skipBlanks ('\x7d' :: cs) = '\x7d' :: cs := fun _ => rfl
  induction ms generalizing fuel acc with
  | nil => exact absurd rfl hne
  | cons m ms ih =>
    obtain ⟨fuel, rfl⟩ : ∃ n, fuel = n + 2 := ⟨fuel - 2, by simp at h; omega⟩
    obtain ⟨name, v⟩ := m
    have hv : IsLeaf v := hleaf (name, v) List.mem_cons_self
    match ms with
    | [] =>
      have hvalue := value_write_leaf hv (.inr rfl) fuel depth rest
      simp only [writeMembers, List.append_assoc, List.cons_append]
      rw [members]
      simp only [hquote, readString_writeString, hcolon, hvalue, hbrace, List.reverse_cons]
    | m' :: ms =>
      have hvalue := value_write_leaf hv (.inl rfl) fuel depth (writeMembers (m' :: ms) ++ '\x7d' :: rest)
      have hfuel : (m' :: ms).length < fuel + 1 := by simpa using h
      have htail := ih (by simp) (fun x hx => hleaf x (List.mem_cons_of_mem _ hx)) hfuel ((name, v) :: acc)
      rw [List.reverse_cons, List.append_assoc, List.singleton_append] at htail
      simp only [writeMembers, List.append_assoc, List.cons_append] at hvalue ⊢
      rw [members]
      simp only [hquote, readString_writeString, hcolon, hvalue, hcomma]
      exact htail

theorem length_le_writeMembers (ms : List (String × Json)) : ms.length ≤ (writeMembers ms).length := by
  induction ms with
  | nil => exact Nat.le_refl 0
  | cons m ms ih =>
    obtain ⟨name, v⟩ := m
    match ms with
    | [] => simp [writeMembers, writeString]
    | m' :: ms =>
      simp only [writeMembers, List.length_append, List.length_cons] at ih ⊢
      omega

/-- what is written for members starts with the quote of a name -/
theorem exists_writeMembers_cons {ms : List (String × Json)} (hne : ms ≠ []) :
    ∃ cs, writeMembers ms = '"' :: cs := by
  match ms with
  | [] => exact absurd rfl hne
  | [_] => exact ⟨_, rfl⟩
  | _ :: _ :: _ => exact ⟨_, rfl⟩

/-- **An object of leaves is read back**, its members sorted. -/
theorem read_text_object {ms : List (String × Json)} (hne : ms ≠ []) (hleaf : ∀ m ∈ ms, IsLeaf m.2) :
    Json.read (Json.object ms).text = some (ofMembers ms) := by
  obtain ⟨cs, hcs⟩ := exists_writeMembers_cons hne
  have htext : (Json.object ms).text.toList = '\x7b' :: '"' :: (cs ++ ['\x7d']) := by
    rw [text, String.toList_ofList, write, hcs]
    rfl
  have hfuel : ms.length < 2 * ('\x7b' :: '"' :: (cs ++ ['\x7d'])).length + 1 := by
    have hle := length_le_writeMembers ms
    rw [hcs] at hle
    simp only [List.length_cons, List.length_append] at hle ⊢
    omega
  have hmembers := members_writeMembers hne hleaf hfuel (depthLimit - 1) [] []
  rw [hcs, List.cons_append, List.reverse_nil, List.nil_append] at hmembers
  have hvalue : value (2 * ('\x7b' :: '"' :: (cs ++ ['\x7d'])).length + 2) depthLimit
      ('\x7b' :: '"' :: (cs ++ ['\x7d'])) = some (ofMembers ms, []) := by
    have hopen : skipBlanks ('\x7b' :: '"' :: (cs ++ ['\x7d'])) = '\x7b' :: '"' :: (cs ++ ['\x7d']) := rfl
    have hquote : skipBlanks ('"' :: (cs ++ ['\x7d'])) = '"' :: (cs ++ ['\x7d']) := rfl
    have hdepth : ¬depthLimit ≤ 1 := by decide
    simp only [value, hopen, hquote, if_neg hdepth]
    change (members _ _ [] ('"' :: (cs ++ ['\x7d']))).map _ = _
    rw [hmembers]
    rfl
  rw [Json.read, htext]
  simp only [hvalue]
  rfl

/-! ## Looking up members -/

theorem lookup_cons_eq_ite (n name : String) (v : Json) (ms : List (String × Json)) :
    ((name, v) :: ms).lookup n = if n = name then some v else ms.lookup n := by
  by_cases h : n = name
  · rw [List.lookup_cons, beq_iff_eq.2 h, if_pos h]
  · rw [List.lookup_cons, beq_eq_false_iff_ne.2 h, if_neg h]

theorem lookup_insertMember (name : String) (v : Json) (ms : List (String × Json)) (n : String) :
    (insertMember name v ms).lookup n = if n = name then some v else ms.lookup n := by
  induction ms with
  | nil => rw [insertMember, lookup_cons_eq_ite]
  | cons m ms ih =>
    obtain ⟨n', v'⟩ := m
    rw [insertMember, lookup_cons_eq_ite]
    split
    · rw [lookup_cons_eq_ite, lookup_cons_eq_ite]
    · rename_i heq
      obtain rfl : name = n' := Std.LawfulEqOrd.eq_of_compare heq
      rw [lookup_cons_eq_ite]
      split_ifs <;> rfl
    · rename_i hgt
      have hne : name ≠ n' := by
        rintro rfl
        simp at hgt
      rw [lookup_cons_eq_ite, ih]
      by_cases h : n = name
      · rw [if_neg (h ▸ hne), if_pos h, if_pos h]
      · rw [if_neg h, if_neg h]

/-- **The last of equal names counts.** -/
theorem lookup_ofMembers (ms : List (String × Json)) :
    ∃ sorted, ofMembers ms = .object sorted ∧ ∀ n, sorted.lookup n = ms.reverse.lookup n := by
  refine ⟨_, rfl, fun n => ?_⟩
  induction ms using List.reverseRecOn with
  | nil => rfl
  | append_singleton ms m ih =>
    rw [List.foldl_append, List.foldl_cons, List.foldl_nil, lookup_insertMember, ih, List.reverse_append,
      List.reverse_singleton, List.singleton_append, lookup_cons_eq_ite]

/-! ## Control characters -/

/-- no control characters -/
def PlainText (cs : List Char) : Prop := ∀ c ∈ cs, 32 ≤ c.toNat

instance (cs : List Char) : Decidable (PlainText cs) := List.decidableBAll (fun c : Char => 32 ≤ c.toNat) cs

theorem PlainText.nil : PlainText [] := nofun

theorem PlainText.append {cs ds : List Char} (h : PlainText cs) (h' : PlainText ds) : PlainText (cs ++ ds) :=
  fun c hc => (List.mem_append.1 hc).elim (h c) (h' c)

theorem PlainText.cons {c : Char} {cs : List Char} (hc : 32 ≤ c.toNat) (h : PlainText cs) : PlainText (c :: cs) :=
  List.forall_mem_cons.2 ⟨hc, h⟩

theorem plainText_escapeChar (c : Char) : PlainText (escapeChar c) := by
  have hhex : ∀ n, 32 ≤ (hexDigit n).toNat := by
    have hall : ∀ d < 16, 32 ≤ (Nat.digitChar d).toNat := by decide
    exact fun n => hall (n % 16) (Nat.mod_lt n (by decide))
  unfold escapeChar
  split_ifs with hq hb hn hr ht hbs hff hctl
  · decide
  · decide
  · decide
  · decide
  · decide
  · decide
  · decide
  · have hprefix : PlainText ['\\', 'u', '0', '0'] := by decide
    exact hprefix.append (.cons (hhex _) (.cons (hhex _) .nil))
  · exact .cons (Nat.le_of_not_lt hctl) .nil

theorem plainText_writeString (s : String) : PlainText (writeString s) := by
  refine PlainText.append (PlainText.cons (by decide) fun c hc => ?_) (PlainText.cons (by decide) .nil)
  obtain ⟨d, -, hd⟩ := List.mem_flatMap.1 hc
  exact plainText_escapeChar d c hd

theorem plainText_write_leaf {v : Json} (hv : IsLeaf v) : PlainText (write v) := by
  cases hv with
  | null => decide
  | string s => exact plainText_writeString s
  | @count n h =>
    intro c hc
    rcases Number.isDigit_of_mem_intDigits (i := n) hc with rfl | hdigit
    · decide
    · obtain ⟨hlow, -⟩ := Bool.and_eq_true_iff.1 hdigit
      have hle : '0'.toNat ≤ c.toNat := UInt32.le_iff_toNat_le.1 (of_decide_eq_true hlow)
      exact Nat.le_trans (by decide) hle

theorem plainText_writeMembers {ms : List (String × Json)} (hleaf : ∀ m ∈ ms, IsLeaf m.2) :
    PlainText (writeMembers ms) := by
  induction ms with
  | nil => exact .nil
  | cons m ms ih =>
    obtain ⟨name, v⟩ := m
    have hname := plainText_writeString name
    have hv : PlainText (write v) := plainText_write_leaf (hleaf (name, v) List.mem_cons_self)
    have htail : PlainText (writeMembers ms) := ih fun x hx => hleaf x (List.mem_cons_of_mem _ hx)
    match ms with
    | [] => exact hname.append (.cons (by decide) hv)
    | m' :: ms => exact (hname.append (.cons (by decide) hv)).append (.cons (by decide) htail)

/-- an object of leaves has no line breaks and no other control characters -/
theorem plainText_write_object {ms : List (String × Json)} (hleaf : ∀ m ∈ ms, IsLeaf m.2) :
    PlainText (write (.object ms)) := by
  rw [write]
  exact PlainText.append (.cons (by decide) (plainText_writeMembers hleaf)) (.cons (by decide) .nil)

end Json
end ScopedStore
