/-
Text as a list of characters: cutting at a separator, trimming blanks, searching, lines, and digits.

`join_pieces`: cutting a text at a separator loses nothing. `separator_notMem_of_mem_pieces`: no piece holds the
separator.
-/
import ScopedStore.Unicode.Separator

namespace ScopedStore.Text

/-! ## Cutting -/

/-- the pieces between the separators; a text without one is a single piece -/
def pieces (separator : Char) : List Char → List (List Char)
  | [] => [[]]
  | c :: cs =>
    if c = separator then [] :: pieces separator cs
    else
      match pieces separator cs with
      | [] => [[c]]
      | piece :: rest => (c :: piece) :: rest

theorem pieces_ne_nil (separator : Char) (cs : List Char) : pieces separator cs ≠ [] := by
  cases cs with
  | nil => simp [pieces]
  | cons c cs =>
    simp only [pieces]
    split
    · simp
    · split <;> simp

theorem pieces_eq_head_tail (separator c : Char) (cs : List Char) (h : c ≠ separator) :
    ∃ piece rest, pieces separator cs = piece :: rest ∧
      pieces separator (c :: cs) = (c :: piece) :: rest := by
  match hp : pieces separator cs with
  | [] => exact absurd hp (pieces_ne_nil separator cs)
  | piece :: rest => exact ⟨piece, rest, rfl, by simp [pieces, h, hp]⟩

/-- the pieces put together again, the separator between them -/
def join (separator : Char) (ps : List (List Char)) : List Char := List.intercalate [separator] ps

@[simp] theorem join_singleton (separator : Char) (p : List Char) : join separator [p] = p := by
  simp [join, List.intercalate]

theorem join_cons_cons (separator : Char) (p q : List Char) (ps : List (List Char)) :
    join separator (p :: q :: ps) = p ++ separator :: join separator (q :: ps) := by
  simp [join, List.intercalate]

theorem join_pieces (separator : Char) (cs : List Char) : join separator (pieces separator cs) = cs := by
  induction cs with
  | nil => rfl
  | cons c cs ih =>
    by_cases h : c = separator
    · subst h
      have hpieces : pieces c (c :: cs) = [] :: pieces c cs := by simp [pieces]
      obtain ⟨piece, rest, hp⟩ := List.exists_cons_of_ne_nil (pieces_ne_nil c cs)
      rw [hpieces, hp, join_cons_cons, ← hp, ih]
      rfl
    · obtain ⟨piece, rest, hp, hc⟩ := pieces_eq_head_tail separator c cs h
      rw [hc]
      rw [hp] at ih
      cases rest with
      | nil => rw [join_singleton] at ih ⊢; rw [ih]
      | cons p ps => rw [join_cons_cons] at ih ⊢; rw [List.cons_append, ih]

theorem separator_notMem_of_mem_pieces {separator : Char} {cs piece : List Char}
    (h : piece ∈ pieces separator cs) : separator ∉ piece := by
  induction cs generalizing piece with
  | nil => simp [pieces] at h; simp [h]
  | cons c cs ih =>
    by_cases hc : c = separator
    · simp only [pieces, hc, if_true, List.mem_cons] at h
      rcases h with rfl | h
      · simp
      · exact ih h
    · obtain ⟨head, rest, hp, hq⟩ := pieces_eq_head_tail separator c cs hc
      rw [hq] at h
      rcases List.mem_cons.1 h with rfl | h
      · have : separator ∉ head := ih (by simp [hp])
        simp [this, Ne.symm hc]
      · exact ih (by simp [hp, h])

/-- the text before the first `c` and the text after it -/
def cutAt (c : Char) : List Char → Option (List Char × List Char)
  | [] => none
  | x :: xs => if x = c then some ([], xs) else (cutAt c xs).map fun (before, after) => (x :: before, after)

/-- the lines of a text; a line break at the very end opens no further line -/
def lines (cs : List Char) : List (List Char) :=
  match (pieces '\n' cs).reverse with
  | [] :: rest => rest.reverse
  | all => all.reverse

/-! ## Trimming and searching -/

/-- without the blanks at either end -/
def trim (cs : List Char) : List Char :=
  ((cs.dropWhile Unicode.isBlank).reverse.dropWhile Unicode.isBlank).reverse

/-- a text that neither begins nor ends with a blank stays as it is when it is trimmed -/
theorem trim_eq_self {cs : List Char} (first : ∀ c ∈ cs.head?, Unicode.isBlank c = false)
    (last : ∀ c ∈ cs.getLast?, Unicode.isBlank c = false) : trim cs = cs := by
  have hdrop : ∀ l : List Char, (∀ c ∈ l.head?, Unicode.isBlank c = false) → l.dropWhile Unicode.isBlank = l := by
    rintro (_ | ⟨c, l⟩) h
    · rfl
    · exact List.dropWhile_cons_of_neg (by simp [h c rfl])
  rw [trim, hdrop cs first, hdrop cs.reverse (by rwa [List.head?_reverse]), List.reverse_reverse]

/-- `part` stands somewhere in `cs` -/
def contains (part cs : List Char) : Bool :=
  match cs with
  | [] => part.isEmpty
  | c :: rest => part.isPrefixOf (c :: rest) || contains part rest

/-- first occurrences only, in their order -/
def dedupe {α : Type} [DecidableEq α] (items : List α) : List α :=
  items.foldl (fun kept item => if item ∈ kept then kept else kept ++ [item]) []

/-! ## Digits -/

/-- the value of a hexadecimal digit -/
def hexValue? (c : Char) : Option Nat :=
  if c.isDigit then some (c.toNat - '0'.toNat)
  else if 'a' ≤ c ∧ c ≤ 'f' then some (c.toNat - 'a'.toNat + 10)
  else if 'A' ≤ c ∧ c ≤ 'F' then some (c.toNat - 'A'.toNat + 10)
  else none

/-- a non-empty run of decimal digits, read as a number -/
def readNat (cs : List Char) : Option Nat :=
  if !cs.isEmpty && cs.all Char.isDigit then some (Nat.ofDigitChars 10 cs 0) else none

/-- the sign at the front of a numeral, and what follows it -/
def splitSign : List Char → Bool × List Char
  | '-' :: cs => (true, cs)
  | '+' :: cs => (false, cs)
  | cs => (false, cs)

/-- a decimal integer with an optional sign -/
def readInt (cs : List Char) : Option Int :=
  let (negative, digits) := splitSign cs
  (readNat digits).map fun n => if negative then -(n : Int) else (n : Int)

/-- decimal digits of a number -/
def natDigits (n : Nat) : List Char := Nat.toDigits 10 n

/-- decimal text of an integer, with a minus sign when negative -/
def intDigits (i : Int) : List Char :=
  if i < 0 then '-' :: natDigits i.natAbs else natDigits i.natAbs

end ScopedStore.Text
