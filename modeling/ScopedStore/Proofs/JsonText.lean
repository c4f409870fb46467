/-
JSON strings and arrays of strings are read back as they were written.

`stringBody_escapeChar`: one written character is read as that character, whatever comes after it. From there
`readString_writeString` is an induction over the text, and `read_text_strings` one over the items.
-/
import Mathlib.Tactic
import ScopedStore.Json.Read

namespace ScopedStore

namespace Json

/-! ## Characters -/

theorem hexValue?_hexDigit (n : Nat) : Text.hexValue? (hexDigit n) = some (n % 16) := by
  have hall : ∀ d < 16, Text.hexValue? (Nat.digitChar d) = some d := by decide
  exact hall (n % 16) (Nat.mod_lt n (by decide))

/-- a control character by its number -/
theorem unicodeEscape_hexDigit {c : Char} (h : c.toNat < 32) (rest : List Char) :
    unicodeEscape ('0' :: '0' :: hexDigit (c.toNat / 16) :: hexDigit c.toNat :: rest) = some (c, rest) := by
  have hunit : hexUnit ('0' :: '0' :: hexDigit (c.toNat / 16) :: hexDigit c.toNat :: rest) = some (c.toNat, rest) := by
    have hzero : Text.hexValue? '0' = some 0 := by decide
    have hvalue : ((0 * 16 + 0) * 16 + c.toNat / 16 % 16) * 16 + c.toNat % 16 = c.toNat := by omega
    simp only [hexUnit, hzero, hexValue?_hexDigit, Option.bind_eq_bind, Option.bind_some, hvalue]
    rfl
  have hhigh : ¬(0xD800 ≤ c.toNat ∧ c.toNat < 0xDC00) := by omega
  have hlow : ¬(0xDC00 ≤ c.toNat ∧ c.toNat < 0xE000) := by omega
  simp only [unicodeEscape, hunit, Option.bind_eq_bind, Option.bind_some, if_neg hhigh, if_neg hlow]
  rw [Char.ofNat_toNat]
  rfl

/-- a character that is not escaped stands for itself -/
theorem stringBody_plain {c : Char} (hq : c ≠ '"') (hb : c ≠ '\\') (h : ¬c.toNat < 32) (fuel : Nat)
    (acc rest : List Char) : stringBody (fuel + 1) acc (c :: rest) = stringBody fuel (c :: acc) rest := by
  rw [stringBody]
  · rw [if_neg h]
  · exact hq
  · exact hb

/-- **A written character is read back.** -/
theorem stringBody_escapeChar (c : Char) (fuel : Nat) (acc rest : List Char) :
    stringBody (fuel + 1) acc (escapeChar c ++ rest) = stringBody fuel (c :: acc) rest := by
  unfold escapeChar
  split_ifs with hq hb hn hr ht hbs hff hctl
  · subst hq; rfl
  · subst hb; rfl
  · subst hn; rfl
  · subst hr; rfl
  · subst ht; rfl
  · subst hbs; rfl
  · subst hff; rfl
  · have hescape : escape ('u' :: '0' :: '0' :: hexDigit (c.toNat / 16) :: hexDigit c.toNat :: rest) = some (c, rest) :=
      unicodeEscape_hexDigit hctl rest
    simp only [List.cons_append, List.nil_append, stringBody, hescape]
  · exact stringBody_plain hq hb hctl fuel acc rest

theorem length_escapeChar_pos (c : Char) : 0 < (escapeChar c).length := by
  unfold escapeChar
  split_ifs <;> exact Nat.succ_pos _

/-! ## Strings -/

theorem length_le_flatMap_escapeChar (cs : List Char) : cs.length ≤ (cs.flatMap escapeChar).length := by
  induction cs with
  | nil => exact Nat.le_refl 0
  | cons c cs ih =>
    have hc := length_escapeChar_pos c
    rw [List.flatMap_cons, List.length_append, List.length_cons]
    omega

/-- the characters are read one by one, as long as there is fuel for each of them and for the quote -/
theorem stringBody_flatMap (cs : List Char) {fuel : Nat} (h : cs.length < fuel) (acc rest : List Char) :
    stringBody fuel acc (cs.flatMap escapeChar ++ '"' :: rest) = some (String.ofList (acc.reverse ++ cs), rest) := by
  induction cs generalizing fuel acc with
  | nil =>
    obtain ⟨fuel, rfl⟩ : ∃ n, fuel = n + 1 := ⟨fuel - 1, by simp at h; omega⟩
    rw [List.append_nil]
    rfl
  | cons c cs ih =>
    obtain ⟨fuel, rfl⟩ : ∃ n, fuel = n + 1 := ⟨fuel - 1, by simp at h; omega⟩
    have hfuel : cs.length < fuel := by simpa using h
    rw [List.flatMap_cons, List.append_assoc, stringBody_escapeChar, ih hfuel, List.reverse_cons, List.append_assoc]
    rfl

/-- **A written string is read back.** -/
theorem readString_writeString (s : String) (rest : List Char) : readString (writeString s ++ rest) = some (s, rest) := by
  have hfuel : s.toList.length < (s.toList.flatMap escapeChar ++ '"' :: rest).length + 1 := by
    have hle := length_le_flatMap_escapeChar s.toList
    rw [List.length_append]
    omega
  have hbody := stringBody_flatMap s.toList hfuel [] rest
  rw [List.reverse_nil, List.nil_append, String.ofList_toList] at hbody
  simp only [writeString, List.cons_append, List.append_assoc, List.nil_append, readString]
  exact hbody

theorem value_writeString (s : String) (fuel depth : Nat) (rest : List Char) :
    value (fuel + 1) depth (writeString s ++ rest) = some (.string s, rest) := by
  have hread := readString_writeString s rest
  have hskip : ∀ cs, skipBlanks ('"' :: cs) = '"' :: cs := fun _ => rfl
  simp only [writeString, List.cons_append] at hread ⊢
  simp only [value, hskip, hread]
  rfl

/-! ## Arrays of strings -/

/-- the items are read one by one, up to the closing bracket -/
theorem items_writeItems {xs : List String} (hne : xs ≠ []) {fuel : Nat} (h : xs.length < fuel) (depth : Nat)
    (acc : List Json) (rest : List Char) :
    items fuel depth acc (writeItems (xs.map .string) ++ ']' :: rest) = some (acc.reverse ++ xs.map .string, rest) := by
  induction xs generalizing fuel acc with
  | nil => exact absurd rfl hne
  | cons x xs ih =>
    obtain ⟨fuel, rfl⟩ : ∃ n, fuel = n + 2 := ⟨fuel - 2, by simp at h; omega⟩
    match xs with
    | [] =>
      have hvalue := value_writeString x fuel depth (']' :: rest)
      simp only [List.map_cons, List.map_nil, writeItems, write, items, hvalue]
      simp [skipBlanks]
    | y :: ys =>
      have hvalue := value_writeString x fuel depth (',' :: (writeItems ((y :: ys).map .string) ++ ']' :: rest))
      have hfuel : (y :: ys).length < fuel + 1 := by simpa using h
      have htail := ih (by simp) hfuel (.string x :: acc)
      rw [List.reverse_cons, List.append_assoc, List.singleton_append, ← List.map_cons] at htail
      simp only [List.map_cons, writeItems, write, List.append_assoc, List.cons_append] at hvalue htail ⊢
      rw [items]
      simp only [hvalue]
      exact htail

theorem length_le_writeItems (xs : List String) : xs.length ≤ (writeItems (xs.map .string)).length := by
  induction xs with
  | nil => exact Nat.le_refl 0
  | cons x xs ih =>
    match xs with
    | [] => simp [writeItems, write, writeString]
    | y :: ys =>
      simp only [List.map_cons, writeItems, write, writeString, List.length_append, List.length_cons] at ih ⊢
      omega

/-- an array that is not empty starts with a quote after its bracket -/
theorem exists_writeItems_cons (x : String) (xs : List String) :
    ∃ cs, writeItems ((x :: xs).map .string) = '"' :: cs := by
  cases xs with
  | nil => exact ⟨_, rfl⟩
  | cons y ys => exact ⟨_, rfl⟩

/-- **An array of strings is read back.** -/
theorem read_text_strings (xs : List String) :
    Json.read (Json.array (xs.map .string)).text = some (.array (xs.map .string)) := by
  match xs with
  | [] => rfl
  | x :: xs =>
    obtain ⟨cs, hcs⟩ := exists_writeItems_cons x xs
    have htext : (Json.array ((x :: xs).map .string)).text.toList = '[' :: '"' :: (cs ++ [']']) := by
      rw [text, String.toList_ofList, write, hcs]
      rfl
    have hfuel : (x :: xs).length < 2 * ('[' :: '"' :: (cs ++ [']'])).length + 1 := by
      have hle := length_le_writeItems (x :: xs)
      rw [hcs] at hle
      simp only [List.length_cons, List.length_append] at hle ⊢
      omega
    have hitems := items_writeItems (List.cons_ne_nil x xs) hfuel (depthLimit - 1) [] []
    rw [hcs, List.cons_append, List.reverse_nil, List.nil_append] at hitems
    have hvalue : value (2 * ('[' :: '"' :: (cs ++ [']'])).length + 2) depthLimit ('[' :: '"' :: (cs ++ [']'])) =
        some (.array ((x :: xs).map .string), []) := by
      have hopen : skipBlanks ('[' :: '"' :: (cs ++ [']'])) = '[' :: '"' :: (cs ++ [']']) := rfl
      have hquote : skipBlanks ('"' :: (cs ++ [']'])) = '"' :: (cs ++ [']']) := rfl
      have hdepth : ¬depthLimit ≤ 1 := by decide
      simp only [value, hopen, hquote, if_neg hdepth]
      change (items _ _ [] ('"' :: (cs ++ [']']))).map _ = _
      rw [hitems]
      rfl
    rw [Json.read, htext]
    simp only [hvalue]
    rfl

end Json
end ScopedStore
