/-
The scalars of YAML and their texts.

A scalar is plain, quoted or a block of lines. Inside plain and quoted scalars a gap of blanks and line breaks is
folded (`Gap.text`): blanks within a line stay, a single line break becomes a space, and of several line breaks the
first is dropped. Folded blocks treat the breaks between lines that do not start with a blank in the same way.
-/
import ScopedStore.Yaml.Cursor

namespace ScopedStore.Yaml

/-- how a scalar is written -/
inductive ScalarStyle where
  | plain
  | singleQuoted
  | doubleQuoted
  | literal
  | folded
  deriving DecidableEq

/-! ## Gaps -/

/-- what stands between two words of a scalar -/
inductive Gap where
  /-- blanks in reverse order -/
  | blanks (reversed : List Char)
  /-- the first line break, absent when it was escaped, and the further ones in reverse order -/
  | breaks (first : List Char) (reversed : List Char)
  deriving DecidableEq

namespace Gap

/-- no gap -/
def empty : Gap := .blanks []

/-- the gap goes over the end of a line -/
def hasBreak : Gap → Bool
  | .blanks _ => false
  | .breaks _ _ => true

/-- what the gap contributes to the text -/
def text : Gap → List Char
  | .blanks reversed => reversed.reverse
  | .breaks first reversed =>
    if first = ['\n'] then if reversed.isEmpty then [' '] else reversed.reverse
    else first ++ reversed.reverse

/-- a further blank; blanks next to a line break do not count -/
def addBlank (c : Char) : Gap → Gap
  | .blanks reversed => .blanks (c :: reversed)
  | gap => gap

/-- a further line break -/
def addBreak (cs : List Char) : Gap → Gap
  | .blanks _ => .breaks cs []
  | .breaks first reversed => .breaks first (cs ++ reversed)

/-- the gap at a place, after what was seen of it already; no tab may stand left of column `margin` in a further line -/
def read (margin : Nat) : Nat → Gap → Cursor → Option (Gap × Cursor)
  | 0, gap, c => some (gap, c)
  | fuel + 1, gap, c =>
    match c.text with
    | [] => some (gap, c)
    | x :: _ =>
      if isBlank x then
        if gap.hasBreak && x = '\t' && c.column < margin then none
        else read margin fuel (gap.addBlank x) (c.advance 1)
      else if isBreak x then
        let (kept, next) := c.readBreak
        read margin fuel (gap.addBreak kept) next
      else some (gap, c)

end Gap

/-! ## Plain scalars -/

/-- how many characters the word at the front has; inside brackets a colon must not touch one of them -/
def plainWord? (inFlow : Bool) : List Char → Option Nat
  | [] => some 0
  | c :: cs =>
    if isBlank c || isBreak c then some 0
    else if inFlow && c = ':' && frontIs (",?[]\x7b\x7d".toList.contains ·) cs then none
    else if c = ':' && atGap cs then some 0
    else if inFlow && ",[]\x7b\x7d".toList.contains c then some 0
    else (plainWord? inFlow cs).map (· + 1)

/-- a plain scalar, its further lines starting at column `margin` or later; the gap after it is passed over -/
def plainFrom (inFlow : Bool) (margin : Nat) :
    Nat → List Char → Gap → Cursor → Option (List Char × Gap × Cursor)
  | 0, acc, gap, c => some (acc, gap, c)
  | fuel + 1, acc, gap, c =>
    if c.atDocumentMark || c.peek = some '#' then some (acc, gap, c)
    else
      match plainWord? inFlow c.text with
      | none => none
      | some 0 => some (acc, gap, c)
      | some n =>
        let acc := acc ++ gap.text ++ c.text.take n
        let c := c.advance n
        if c.text.isEmpty || !atGap c.text then some (acc, .empty, c)
        else
          match Gap.read margin (c.text.length + 1) .empty c with
          | none => none
          | some (gap, c) =>
            if !inFlow && c.column < margin then some (acc, gap, c) else plainFrom inFlow margin fuel acc gap c

/-- a plain scalar: its text, whether it was followed by a line break, and the place after the gap that follows it -/
def readPlain (inFlow : Bool) (margin : Nat) (c : Cursor) : Option (String × Bool × Cursor) :=
  (plainFrom inFlow margin (c.text.length + 1) [] .empty c).map fun (cs, gap, c) =>
    (String.ofList cs, gap.hasBreak, c)

/-! ## Quoted scalars -/

/-- the value of `n` hexadecimal digits at the front -/
def hexNumber? (n : Nat) (cs : List Char) : Option Nat :=
  if cs.length < n then none
  else (cs.take n).foldl (fun acc c => do return 16 * (← acc) + (← Text.hexValue? c)) (some 0)

/-- the character with a number; surrogates and numbers beyond the last plane are none -/
def charOf? (n : Nat) : Option Char := if n.isValidChar then some (Char.ofNat n) else none

/-- the characters that a backslash and a letter stand for -/
def escapes : List (Char × Char) :=
  [('0', '\x00'), ('a', '\x07'), ('b', '\x08'), ('t', '\t'), ('\t', '\t'), ('n', '\n'), ('v', '\x0b'), ('f', '\x0c'),
    ('r', '\r'), ('e', '\x1b'), (' ', ' '), ('"', '"'), ('/', '/'), ('\\', '\\'), ('N', '\u0085'), ('_', '\u00a0'),
    ('L', '\u2028'), ('P', '\u2029')]

/-- how many digits follow a backslash and one of these letters -/
def escapeWidths : List (Char × Nat) := [('x', 2), ('u', 4), ('U', 8)]

/-- what stands after a backslash, and how many characters of the text that is -/
def escape? : List Char → Option (Char × Nat)
  | [] => none
  | c :: cs =>
    match escapes.lookup c with
    | some x => some (x, 1)
    | none => do
      let width ← escapeWidths.lookup c
      return (← charOf? (← hexNumber? width cs), width + 1)

/-- the word at a place, in reverse order before `acc`, up to a gap or the closing quote; the result also tells
whether the word ends with an escaped line break, which is passed over -/
def quotedWord (double : Bool) : Nat → List Char → Cursor → Option (List Char × Bool × Cursor)
  | 0, acc, c => some (acc, false, c)
  | fuel + 1, acc, c =>
    match c.text with
    | [] => some (acc, false, c)
    | x :: rest =>
      if isBlank x || isBreak x then some (acc, false, c)
      else if !double && x = '\'' then
        if frontIs (· = '\'') rest then quotedWord double fuel ('\'' :: acc) (c.advance 2) else some (acc, false, c)
      else if double && x = '"' then some (acc, false, c)
      else if double && x = '\\' then
        if frontIs isBreak rest then some (acc, true, (c.advance 1).skipBreak)
        else
          match escape? rest with
          | none => none
          | some (e, n) => quotedWord double fuel (e :: acc) (c.advance (n + 1))
      else quotedWord double fuel (x :: acc) (c.advance 1)

/-- the rest of a quoted scalar; `acc` holds its text so far in reverse order -/
def quotedFrom (double : Bool) : Nat → List Char → Cursor → Option (List Char × Cursor)
  | 0, _, _ => none
  | fuel + 1, acc, c =>
    if c.atDocumentMark || c.text.isEmpty then none
    else
      match quotedWord double (c.text.length + 1) acc c with
      | none => none
      | some (acc, escaped, c) =>
        if c.peek = some (if double then '"' else '\'') then some (acc, c.advance 1)
        else
          match Gap.read 0 (c.text.length + 1) (if escaped then .breaks [] [] else .empty) c with
          | none => none
          | some (gap, c) => quotedFrom double fuel (gap.text.reverse ++ acc) c

/-- a quoted scalar whose opening quote stands at the front -/
def readQuoted (double : Bool) (c : Cursor) : Option (String × Cursor) :=
  (quotedFrom double (c.text.length + 2) [] (c.advance 1)).map fun (acc, c) => (String.ofList acc.reverse, c)

/-! ## Blocks -/

/-- which line breaks at the end of a block belong to it -/
inductive Chomping where
  | strip
  | clip
  | keep
  deriving DecidableEq

/-- the chomping indicator at the front -/
def chomping? (c : Cursor) : Option (Chomping × Cursor) :=
  match c.peek with
  | some '+' => some (.keep, c.advance 1)
  | some '-' => some (.strip, c.advance 1)
  | _ => none

/-- the indentation indicator at the front, a digit other than zero; none in the outer option for a zero -/
def increment? (c : Cursor) : Option (Option Nat × Cursor) :=
  match c.peek with
  | some d =>
    if d = '0' then none
    else if d.isDigit then some (some (d.toNat - '0'.toNat), c.advance 1)
    else some (none, c)
  | none => some (none, c)

/-- the header of a block after its first character: the two indicators in either order -/
def blockHeader? (c : Cursor) : Option (Chomping × Option Nat × Cursor) :=
  match chomping? c with
  | some (chomping, c) => (increment? c).map fun (increment, c) => (chomping, increment, c)
  | none =>
    match increment? c with
    | none => none
    | some (none, c) => some (.clip, none, c)
    | some (some n, c) =>
      match chomping? c with
      | some (chomping, c) => some (chomping, some n, c)
      | none => some (.clip, some n, c)

/-- the empty lines at a place and the indentation of the next line, up to column `indent` when that is known:
the line breaks in reverse order, the deepest column, and the place; a tab must not stand in the indentation -/
def blockBreaks (indent : Option Nat) :
    Nat → List Char → Nat → Cursor → Option (List Char × Nat × Cursor)
  | 0, acc, deepest, c => some (acc, deepest, c)
  | fuel + 1, acc, deepest, c =>
    let spaces := c.text.takeWhile (· = ' ')
    let inside := match indent with
      | none => spaces.length
      | some n => min spaces.length (n - c.column)
    let c := c.advance inside
    let deepest := max deepest c.column
    let unfinished := match indent with
      | none => true
      | some n => c.column < n
    if unfinished && c.peek = some '\t' then none
    else if frontIs isBreak c.text then
      let (kept, next) := c.readBreak
      blockBreaks indent fuel (kept ++ acc) deepest next
    else some (acc, deepest, c)

/-- what is known of a block so far; line breaks and text in reverse order -/
structure BlockLines where
  text : List Char := []
  /-- the break at the end of the last line -/
  lastBreak : List Char := []
  /-- the breaks of the empty lines after it -/
  emptyLines : List Char := []
  /-- the last line starts with a blank -/
  startsBlank : Bool := false

/-- the text up to a further line: between lines that do not start with a blank, a folded block has a space in place
of a single break -/
def BlockLines.joined (lines : BlockLines) (folded nextStartsBlank : Bool) : List Char :=
  if folded && lines.lastBreak = ['\n'] && !lines.startsBlank && !nextStartsBlank then
    if lines.emptyLines.isEmpty then ' ' :: lines.text else lines.emptyLines ++ lines.text
  else lines.emptyLines ++ lines.lastBreak ++ lines.text

/-- the lines of a block that stand at column `indent` -/
def blockLines (folded : Bool) (indent : Nat) : Nat → BlockLines → Cursor → Option (BlockLines × Cursor)
  | 0, lines, c => some (lines, c)
  | fuel + 1, lines, c =>
    if c.column ≠ indent || c.text.isEmpty then some (lines, c)
    else
      let startsBlank := frontIs isBlank c.text
      let (line, c) := c.takeWhile (!isBreak ·)
      let (lastBreak, c) := c.readBreak
      match blockBreaks (some indent) (c.text.length + 1) [] 0 c with
      | none => none
      | some (emptyLines, _, c) =>
        blockLines folded indent fuel
          ⟨line.reverse ++ lines.joined folded startsBlank, lastBreak, emptyLines, startsBlank⟩ c

/-- the text of a block -/
def BlockLines.chomped (lines : BlockLines) : Chomping → List Char
  | .strip => lines.text
  | .clip => lines.lastBreak ++ lines.text
  | .keep => lines.emptyLines ++ lines.lastBreak ++ lines.text

/-- a block whose first character stands at the front, inside a collection that is indented to column `outer - 1` -/
def readBlock (folded : Bool) (outer : Nat) (c : Cursor) : Option (String × Cursor) := do
  let (chomping, increment, c) ← blockHeader? (c.advance 1)
  let c ← c.finishLine?
  let indent := increment.map fun n => if outer = 0 then n else outer - 1 + n
  let (emptyLines, deepest, c) ← blockBreaks indent (c.text.length + 1) [] 0 c
  let indent := indent.getD (max (max deepest outer) 1)
  let (lines, c) ← blockLines folded indent (c.text.length + 1) { emptyLines } c
  return (String.ofList (lines.chomped chomping).reverse, c)

end ScopedStore.Yaml
