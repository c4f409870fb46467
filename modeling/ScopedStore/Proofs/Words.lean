/-
The words of a script.

The lexer scans a script place by place. The same can be said of parts that are cut first and looked at afterwards: a script
falls into segments at its semicolons (`segments`), a segment into words at its blanks (`words`), and a word is one token
or holds the first character that fits none (`classify`). This form is the one that theorems about scripts are derived
from; `Proofs/Scanning` shows that the lexer agrees with it.
-/
import ScopedStore.Script.Token

namespace ScopedStore.Script

/-! ## Words -/

/-- the blank-free words of a text that begins at `position`, with their positions -/
def words (position : Nat) : List Char → List (Nat × List Char)
  | [] => []
  | c :: cs =>
    if Unicode.isBlank c then words (position + 1) cs
    else
      match cs.head?.any (!Unicode.isBlank ·), words (position + 1) cs with
      | true, (_, word) :: rest => (position, c :: word) :: rest
      | _, rest => (position, [c]) :: rest

/-- the first character of `rest`, the end of a word that begins at `position`, fits no token -/
def faultAt (position : Nat) (word rest : List Char) (c : Char) : LexError :=
  ⟨position + (word.length - rest.length), c⟩

/-- a word that begins like a name: a keyword, an identifier, or a key when a colon follows the name -/
def classifyName (position : Nat) (word : List Char) : Except LexError TokenKind :=
  match word.dropWhile isWordChar with
  | [] =>
    let text := String.ofList word
    .ok (match Keyword.ofWord? text with
      | some k => .keyword k
      | none => .ident text)
  | c :: rest =>
    if c = ':' then
      match rest.dropWhile isWordChar with
      | [] => .ok (.key (String.ofList word))
      | d :: more => .error (faultAt position word (d :: more) d)
    else .error (faultAt position word (c :: rest) c)

/-- a word without its minus sign -/
def unsigned : List Char → List Char
  | '-' :: cs => cs
  | cs => cs

/-- a word that begins like a number: digits, perhaps with a minus sign in front, perhaps with places after a point -/
def classifyNumber (position : Nat) (word : List Char) : Except LexError TokenKind :=
  match (unsigned word).dropWhile Char.isDigit with
  | [] => .ok (.number (String.ofList word))
  | c :: rest =>
    if c = '.' && rest.head?.any Char.isDigit then
      match rest.dropWhile Char.isDigit with
      | [] => .ok (.number (String.ofList word))
      | d :: more => .error (faultAt position word (d :: more) d)
    else .error (faultAt position word (c :: rest) c)

/-- the token that a word is -/
def classify (position : Nat) (word : List Char) : Except LexError TokenKind :=
  match word with
  | [] => .ok (.ident "")
  | c :: cs =>
    if isWordStart c then classifyName position word
    else if c.isDigit || (c = '-' && cs.head?.any Char.isDigit) then classifyNumber position word
    else .error ⟨position, c⟩

/-- where a text begins without a blank, the first word goes on to the next blank -/
theorem words_cons_eq {c : Char} (hc : ¬Unicode.isBlank c) (position : Nat) (cs : List Char) :
    ∃ run after, cs = run ++ after ∧ (∀ d ∈ run, ¬Unicode.isBlank d) ∧ (∀ d ∈ after.head?, Unicode.isBlank d) ∧
      words position (c :: cs) = (position, c :: run) :: words (position + (c :: run).length) after := by
  -- a word is put together from its end: the rest of the text is cut first, and `c` goes in front of its first word
  induction cs generalizing c position with
  | nil => exact ⟨[], [], rfl, by simp, by simp, by simp [words, hc]⟩
  | cons d ds ih =>
    by_cases hd : Unicode.isBlank d
    · refine ⟨[], d :: ds, rfl, by simp, by simpa using hd, ?_⟩
      rw [words, if_neg hc]
      simp [hd]
    · obtain ⟨run, after, rfl, hfree, hlongest, hwords⟩ := ih hd (position + 1)
      refine ⟨d :: run, after, rfl, List.forall_mem_cons.2 ⟨hd, hfree⟩, hlongest, ?_⟩
      rw [words, if_neg hc, hwords, List.length_cons (a := c), Nat.add_assoc, Nat.add_comm 1]
      simp [hd]

/-! ## Segments -/

/-- a stretch of the script between semicolons -/
structure Segment where
  position : Nat
  chars : List Char
  terminated : Bool

/-- the pieces of a script as segments; a semicolon follows each of them but the last -/
def segmentsFrom (position : Nat) : List (List Char) → List Segment
  | [] => []
  | [chars] => [⟨position, chars, false⟩]
  | chars :: rest => ⟨position, chars, true⟩ :: segmentsFrom (position + chars.length + 1) rest

/-- the segments that hold more than blanks -/
def segments (script : List Char) : List Segment :=
  (segmentsFrom 0 (Text.pieces ';' script)).filter fun s => s.chars.any (!Unicode.isBlank ·)

/-- the token of a word -/
def Segment.wordToken (w : Nat × List Char) : Except LexError Token :=
  (classify w.1 w.2).map fun kind => ⟨kind, w.1⟩

/-- the tokens of a segment; the semicolon is the last of them -/
def Segment.tokens (s : Segment) : Except LexError (List Token) := do
  let tokens ← (words s.position s.chars).mapM wordToken
  return if s.terminated then tokens ++ [⟨.terminator, s.position + s.chars.length⟩] else tokens

/-- a segment as the statement with that index -/
def Segment.statement (s : Segment) (index : Nat) : Statement :=
  ⟨index, s.position, String.ofList (Text.trim s.chars), s.tokens⟩

theorem Segment.tokens_eq (s : Segment) : s.tokens = ((words s.position s.chars).mapM wordToken).map fun body =>
    if s.terminated then body ++ [⟨.terminator, s.position + s.chars.length⟩] else body := by
  change ((words s.position s.chars).mapM wordToken >>= fun body => pure _) = _
  cases (words s.position s.chars).mapM wordToken <;> rfl

end ScopedStore.Script
