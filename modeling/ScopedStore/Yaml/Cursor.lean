/-
A place in a YAML text: what is left of the text, and where that is.

Lines end with a line feed, a carriage return, both together, or one of the three other line breaks of Unicode. Blanks
are spaces and tabs. `admissible` says which characters may stand in a YAML text at all.
-/
import ScopedStore.Text

namespace ScopedStore.Yaml

/-! ## Characters -/

/-- may stand in a text: everything but control characters and two of the last code points of the basic plane -/
def admissible (c : Char) : Bool :=
  let n := c.toNat
  n = 0x09 || n = 0x0A || n = 0x0D || (0x20 ≤ n && n ≤ 0x7E) || n = 0x85 || (0xA0 ≤ n && n ≤ 0xFFFD) || 0x10000 ≤ n

/-- ends a line -/
def isBreak (c : Char) : Bool := c = '\n' || c = '\r' || c = '\u0085' || c = '\u2028' || c = '\u2029'

/-- a space or a tab -/
def isBlank (c : Char) : Bool := c = ' ' || c = '\t'

/-- a character of the names of anchors, directives and tag handles -/
def isWordChar (c : Char) : Bool := c.isAlphanum || c = '_' || c = '-'

/-- the characters at the front of a text satisfy `p` -/
def frontIs (p : Char → Bool) (cs : List Char) : Bool :=
  match cs with
  | [] => false
  | c :: _ => p c

/-- nothing, a blank or a line break stands at the front -/
def atGap (cs : List Char) : Bool :=
  match cs with
  | [] => true
  | c :: _ => isBlank c || isBreak c

/-- nothing or a line break stands at the front -/
def atLineEnd (cs : List Char) : Bool :=
  match cs with
  | [] => true
  | c :: _ => isBreak c

/-! ## Places -/

/-- what is left of a text, and the place where it starts -/
structure Cursor where
  text : List Char
  /-- octets before this place, in UTF-8 -/
  index : Nat := 0
  line : Nat := 0
  /-- characters before this place in its line -/
  column : Nat := 0

namespace Cursor

/-- how many octets the first `n` characters take -/
def octets (n : Nat) (c : Cursor) : Nat := (c.text.take n).foldl (fun acc x => acc + x.utf8Size) 0

/-- the first character that is left -/
def peek (c : Cursor) : Option Char := c.text.head?

/-- `n` characters further on the same line -/
def advance (n : Nat) (c : Cursor) : Cursor :=
  { c with text := c.text.drop n, index := c.index + c.octets n, column := c.column + n }

/-- after the character `expected`, if it stands here -/
def skip (expected : Char) (c : Cursor) : Cursor := if c.peek = some expected then c.advance 1 else c

/-- the characters that satisfy `p`, and the place after them -/
def takeWhile (p : Char → Bool) (c : Cursor) : List Char × Cursor :=
  let cs := c.text.takeWhile p
  (cs, c.advance cs.length)

/-- after the characters that satisfy `p` -/
def skipWhile (p : Char → Bool) (c : Cursor) : Cursor := (c.takeWhile p).2

/-- `n` characters further, at the start of the next line -/
def enterLine (n : Nat) (c : Cursor) : Cursor :=
  { text := c.text.drop n, index := c.index + c.octets n, line := c.line + 1, column := 0 }

/-- the line break that stands here, as it is kept in a text, and the start of the next line -/
def readBreak (c : Cursor) : List Char × Cursor :=
  match c.text with
  | '\r' :: '\n' :: _ => (['\n'], c.enterLine 2)
  | x :: _ =>
    if x = '\u2028' || x = '\u2029' then ([x], c.enterLine 1)
    else if isBreak x then (['\n'], c.enterLine 1)
    else ([], c)
  | [] => ([], c)

/-- after the line break, if one stands here -/
def skipBreak (c : Cursor) : Cursor := c.readBreak.2

/-- after a comment, if one stands here; the line break is left -/
def skipComment (c : Cursor) : Cursor := if c.peek = some '#' then c.skipWhile (!isBreak ·) else c

/-- after the rest of a line that may hold blanks and a comment, and nothing else -/
def finishLine? (c : Cursor) : Option Cursor :=
  let c := (c.skipWhile isBlank).skipComment
  if atLineEnd c.text then some c.skipBreak else none

/-- a line that starts with `mark` and then a gap -/
def atMark (mark : List Char) (c : Cursor) : Bool := c.column = 0 && mark.isPrefixOf c.text && atGap (c.text.drop 3)

/-- a line that starts a document -/
def atDocumentStart (c : Cursor) : Bool := c.atMark ['-', '-', '-']

/-- a line that ends a document -/
def atDocumentEnd (c : Cursor) : Bool := c.atMark ['.', '.', '.']

/-- a line that starts or ends a document -/
def atDocumentMark (c : Cursor) : Bool := c.atDocumentStart || c.atDocumentEnd

end Cursor
end ScopedStore.Yaml
