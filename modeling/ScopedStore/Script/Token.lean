/-
Tokens of the command language.

A script is cut at its semicolons into statements, and each statement is scanned from its first character to its last.
Every token is followed by a blank or by the end of its statement; a statement holds its tokens or the first character
that fits none. Positions count characters from the beginning of the script.
-/
import ScopedStore.Text
import ScopedStore.Unicode.Alphabetic

namespace ScopedStore.Script

/-- the words with a fixed meaning -/
inductive Keyword where
  | set
  | inc
  | dec
  | clear
  | list
  | append
  | to
  deriving DecidableEq

namespace Keyword

def all : List Keyword := [.set, .inc, .dec, .clear, .list, .append, .to]

def spelling : Keyword → String
  | .set => "set"
  | .inc => "inc"
  | .dec => "dec"
  | .clear => "clear"
  | .list => "list"
  | .append => "append"
  | .to => "to"

/-- the keyword with that spelling; case counts -/
def ofWord? (word : String) : Option Keyword := all.find? (·.spelling = word)

end Keyword

/-- what a token is -/
inductive TokenKind where
  | keyword (word : Keyword)
  /-- `scope:name`, not yet held against any rules -/
  | key (text : String)
  | number (text : String)
  /-- a word with no meaning of its own, perhaps an enum token -/
  | ident (text : String)
  /-- the semicolon at the end of a statement -/
  | terminator
  deriving DecidableEq

/-- the token as it was written -/
def TokenKind.text : TokenKind → String
  | .keyword word => word.spelling
  | .key text => text
  | .number text => text
  | .ident text => text
  | .terminator => ";"

/-- a token and where it begins -/
structure Token where
  kind : TokenKind
  position : Nat
  deriving DecidableEq

/-- a character that fits no token -/
structure LexError where
  position : Nat
  character : Char
  deriving DecidableEq

/-- the wording of an error -/
def LexError.message (e : LexError) : String :=
  s!"unexpected character '{e.character}' at position {e.position}"

/-- a statement: its place in the script, its trimmed text, and its tokens or the first fault in them -/
structure Statement where
  index : Nat
  position : Nat
  text : String
  tokens : Except LexError (List Token)

/-! ## Scanning -/

def isWordStart (c : Char) : Bool := Unicode.isAlphabetic c || c = '_'

def isWordChar (c : Char) : Bool := Unicode.isAlphanumeric c || c = '_'

theorem isWordChar_of_isWordStart {c : Char} (h : isWordStart c) : isWordChar c := by
  unfold isWordStart at h
  unfold isWordChar Unicode.isAlphanumeric
  rcases Bool.or_eq_true_iff.1 h with h | h <;> simp [h]

/-- the first place from `i` on whose character is not one of these, or the end -/
def scanWhile (p : Char → Bool) (chars : Array Char) (i : Nat) : Nat :=
  if h : i < chars.size then
    if p chars[i] then scanWhile p chars (i + 1) else i
  else i
termination_by chars.size - i

theorem le_scanWhile (p : Char → Bool) (chars : Array Char) (i : Nat) : i ≤ scanWhile p chars i := by
  fun_induction scanWhile p chars i with
  | case1 i h hp ih => omega
  | case2 i h hp => exact Nat.le_refl i
  | case3 i h => exact Nat.le_refl i

theorem lt_scanWhile {p : Char → Bool} {chars : Array Char} {i : Nat} (h : i < chars.size) (hp : p chars[i]) :
    i < scanWhile p chars i := by
  rw [scanWhile, dif_pos h, if_pos hp]
  exact le_scanWhile p chars (i + 1)

def scanWord : Array Char → Nat → Nat := scanWhile isWordChar

def scanDigits : Array Char → Nat → Nat := scanWhile Char.isDigit

/-- the characters of a stretch as text -/
def stretch (chars : Array Char) (start stop : Nat) : String := String.ofList (chars.extract start stop).toList

/-- the character at place `i` of a statement fits no token; the statement begins at `offset` -/
def errorAt (chars : Array Char) (offset i : Nat) (h : i < chars.size) : LexError := ⟨offset + i, chars[i]⟩

/-- the place behind a point at place `i` and its digits; without a point it is `i` -/
def scanFraction (chars : Array Char) (offset i : Nat) : Except LexError Nat :=
  if h : i < chars.size then
    if chars[i] = '.' then
      let stop := scanDigits chars (i + 1)
      if stop = i + 1 then .error (errorAt chars offset i h) else .ok stop
    else .ok i
  else .ok i

/-- the place behind a number: digits, perhaps with a minus sign in front, perhaps with digits after a point -/
def scanNumber (chars : Array Char) (offset i : Nat) : Except LexError Nat :=
  scanFraction chars offset (scanDigits chars (if chars[i]? = some '-' then i + 1 else i))

/-- the word at place `i`, or the key if a colon follows the word, and the place behind it -/
def scanName (chars : Array Char) (i : Nat) : TokenKind × Nat :=
  let stop := scanWord chars i
  if chars[stop]? = some ':' then
    let stop := scanWord chars (stop + 1)
    (.key (stretch chars i stop), stop)
  else
    let word := stretch chars i stop
    (match Keyword.ofWord? word with
      | some k => .keyword k
      | none => .ident word, stop)

/-- the token at place `i`, and the place behind it -/
def scanToken (chars : Array Char) (offset i : Nat) (h : i < chars.size) : Except LexError (TokenKind × Nat) :=
  if isWordStart chars[i] then .ok (scanName chars i)
  else if chars[i].isDigit || (chars[i] = '-' && chars[i + 1]?.any Char.isDigit) then
    (scanNumber chars offset i).map fun stop => (.number (stretch chars i stop), stop)
  else .error (errorAt chars offset i h)

/-- a blank or the end has to follow a token -/
def ensureSeparated (chars : Array Char) (offset stop : Nat) : Except LexError Unit :=
  if h : stop < chars.size then
    if Unicode.isBlank chars[stop] then .ok () else .error (errorAt chars offset stop h)
  else .ok ()

/-- the token at place `i`, which has to stand alone, and the place behind it -/
def nextToken (chars : Array Char) (offset i : Nat) (h : i < chars.size) : Except LexError (TokenKind × Nat) := do
  let token ← scanToken chars offset i h
  ensureSeparated chars offset token.2
  return token

theorem le_of_scanFraction {chars : Array Char} {offset i stop : Nat} (h : scanFraction chars offset i = .ok stop) :
    i ≤ stop := by
  have hplaces : i + 1 ≤ scanDigits chars (i + 1) := le_scanWhile _ chars (i + 1)
  unfold scanFraction at h
  split at h
  · split at h
    · dsimp only at h
      split at h
      · cases h
      · obtain rfl := Except.ok.inj h
        exact Nat.le_of_succ_le hplaces
    · exact Nat.le_of_eq (Except.ok.inj h)
  · exact Nat.le_of_eq (Except.ok.inj h)

theorem lt_of_scanNumber {chars : Array Char} {offset i stop : Nat} (hi : i < chars.size)
    (hc : chars[i].isDigit || (chars[i] = '-' && chars[i + 1]?.any Char.isDigit))
    (h : scanNumber chars offset i = .ok stop) : i < stop := by
  refine Nat.lt_of_lt_of_le ?_ (le_of_scanFraction h)
  split
  · exact le_scanWhile _ chars (i + 1)
  · rename_i hminus
    rw [Array.getElem?_eq_getElem hi, Option.some.injEq] at hminus
    exact lt_scanWhile hi (by simpa [hminus] using hc)

theorem lt_scanName {chars : Array Char} {i : Nat} (hi : i < chars.size) (hc : isWordStart chars[i]) :
    i < (scanName chars i).2 := by
  have hword : i < scanWord chars i := lt_scanWhile hi (isWordChar_of_isWordStart hc)
  unfold scanName
  dsimp only
  split
  · exact Nat.lt_of_lt_of_le (Nat.lt_succ_of_lt hword) (le_scanWhile _ chars _)
  · exact hword

/-- a token has a character -/
theorem lt_of_scanToken {chars : Array Char} {offset i : Nat} {hi : i < chars.size} {token : TokenKind × Nat}
    (h : scanToken chars offset i hi = .ok token) : i < token.2 := by
  unfold scanToken at h
  split at h
  · rename_i hword
    exact Except.ok.inj h ▸ lt_scanName hi hword
  · split at h
    · rename_i hnumber
      cases hplace : scanNumber chars offset i with
      | error e =>
        rw [hplace] at h
        cases h
      | ok stop =>
        rw [hplace] at h
        exact Except.ok.inj h ▸ lt_of_scanNumber hi hnumber hplace
    · cases h

theorem scanToken_of_nextToken {chars : Array Char} {offset i : Nat} {hi : i < chars.size} {token : TokenKind × Nat}
    (h : nextToken chars offset i hi = .ok token) : scanToken chars offset i hi = .ok token := by
  unfold nextToken at h
  cases hscan : scanToken chars offset i hi with
  | error e =>
    rw [hscan] at h
    cases h
  | ok found =>
    simp only [hscan, bind, Except.bind] at h
    split at h
    · cases h
    · exact h

/-! ## Statements -/

/-- the tokens from place `i` on, after those that were found already -/
def tokensFrom (chars : Array Char) (offset i : Nat) (found : List Token) : Except LexError (List Token) :=
  if h : i < chars.size then
    if Unicode.isBlank chars[i] then tokensFrom chars offset (i + 1) found
    else
      match hnext : nextToken chars offset i h with
      | .error e => .error e
      | .ok token => tokensFrom chars offset token.2 (found ++ [⟨token.1, offset + i⟩])
  else .ok found
termination_by chars.size - i
decreasing_by
  · omega
  · have hstop := lt_of_scanToken (scanToken_of_nextToken hnext)
    omega

/-- the tokens of a statement that begins at `offset`; the semicolon is the last of them -/
def tokenize (chars : Array Char) (offset : Nat) (terminated : Bool) : Except LexError (List Token) := do
  let tokens ← tokensFrom chars offset 0 []
  return if terminated then tokens ++ [⟨.terminator, offset + chars.size⟩] else tokens

/-- the statements that have been cut off, and the place where the next one begins -/
structure Progress where
  start : Nat := 0
  statements : List Statement := []

/-- looks at one place of a script: a statement ends at a semicolon, and at the end; blank ones are left out -/
def Progress.visit (chars : Array Char) (progress : Progress) (i : Nat) : Progress :=
  let atEnd : Bool := i = chars.size
  if !atEnd && chars[i]? ≠ some ';' then progress
  else
    let segment := chars.extract progress.start i
    { start := i + 1
      statements :=
        if segment.toList.any (!Unicode.isBlank ·) then
          progress.statements ++ [⟨progress.statements.length, progress.start,
            String.ofList (Text.trim segment.toList), tokenize segment progress.start !atEnd⟩]
        else progress.statements }

/-- the statements of a script -/
def lex (script : String) : List Statement :=
  let chars := script.toList.toArray
  ((List.range (chars.size + 1)).foldl (Progress.visit chars) {}).statements

end ScopedStore.Script
