/-
What a pattern writes with a backslash, and the settings that decide how it is read.

The extended notation takes blanks and comments for nothing: between elements, and also within an escape, a number or a
name in braces. Every reader here takes the rest of the pattern and gives what it read with the rest after it; there is
no result when the text is not well formed.
-/
import ScopedStore.Pattern.Regex
import ScopedStore.Text

namespace ScopedStore.Pattern

/-- settings that a pattern can change on its way -/
structure Flags where
  ignoreCase : Bool := false
  multiline : Bool := false
  dotAll : Bool := false
  swapGreed : Bool := false
  crlf : Bool := false
  unicode : Bool := true
  extended : Bool := false

/-- the set closed under case, if case does not count -/
def Flags.closed (flags : Flags) (s : CharSet) : CharSet :=
  if !flags.ignoreCase then s else if flags.unicode then s.caseClosure else s.asciiCaseClosure

/-- the set, closed under case if case does not count, and then its complement if asked; without Unicode a set has no
complement -/
def Flags.closedOrCompl (flags : Flags) (negated : Bool) (s : CharSet) : Option CharSet :=
  if negated && !flags.unicode then none else some (.complIf negated (flags.closed s))

/-- what a single primitive stands for -/
inductive Primitive where
  | char (c : Char)
  | set (s : CharSet)
  | look (l : Look)

namespace Read

/-! ## Blanks and numbers -/

/-- blanks and comments passed over; `comment` tells whether one has begun -/
def skipComments (comment : Bool) : List Char → List Char
  | [] => []
  | c :: cs =>
    if comment then skipComments (c ≠ '\n') cs
    else if c = '#' then skipComments true cs
    else if Unicode.isBlank c then skipComments false cs
    else c :: cs

/-- in extended notation, blanks and comments between elements do not count -/
def skipBlanks (extended : Bool) (cs : List Char) : List Char :=
  if extended then skipComments false cs else cs

/-- the longest run of characters of one kind, blanks and comments within it left out in extended notation -/
def run (extended : Bool) (kind : Char → Bool) (comment : Bool) : List Char → List Char × List Char
  | [] => ([], [])
  | c :: cs =>
    if comment then run extended kind (c ≠ '\n') cs
    else if extended && c = '#' then run extended kind true cs
    else if extended && Unicode.isBlank c then run extended kind false cs
    else if kind c then
      let (more, rest) := run extended kind false cs
      (c :: more, rest)
    else ([], c :: cs)

/-- the text up to a closing brace -/
def braced (extended : Bool) (cs : List Char) : Option (List Char × List Char) :=
  match run extended (· ≠ '\x7d') false cs with
  | (name, _ :: rest) => some (name, rest)
  | _ => none

/-- a number below `2 ^ 32`; plain blanks around it are allowed -/
def decimal (extended : Bool) (cs : List Char) : Option (Nat × List Char) :=
  let (digits, rest) := run extended Char.isDigit false (cs.dropWhile Unicode.isBlank)
  let n := Nat.ofDigitChars 10 digits 0
  if digits.isEmpty || n ≥ UInt32.size then none else some (n, rest.dropWhile Unicode.isBlank)

/-- the character with that hexadecimal number -/
def hexChar? (digits : List Char) : Option Char := do
  if digits.isEmpty then none
  let values ← digits.mapM Text.hexValue?
  let n := values.foldl (fun n d => if n > 0x110000 then n else 16 * n + d) 0
  if n.isValidChar then some (Char.ofNat n) else none

/-- exactly so many hexadecimal digits -/
def hexDigits (extended : Bool) : Nat → List Char → Option (List Char × List Char)
  | 0, cs => some ([], cs)
  | _ + 1, [] => none
  | n + 1, c :: cs =>
    if (Text.hexValue? c).isNone then none
    else (hexDigits extended n (skipBlanks extended cs)).map fun (digits, rest) => (c :: digits, rest)

/-- a character by its number: in braces, or with exactly `width` digits. Without Unicode, two digits name an octet, and
no octet beyond ASCII is a character. -/
def hexEscape (flags : Flags) (width : Nat) (cs : List Char) : Option (Char × List Char) :=
  match skipBlanks flags.extended cs with
  | '\x7b' :: cs => do
    let (digits, rest) ← braced flags.extended cs
    return (← hexChar? digits, rest)
  | cs => do
    let (digits, rest) ← hexDigits flags.extended width cs
    let c ← hexChar? digits
    if width = 2 && !flags.unicode && c.toNat ≥ 128 then none else return (c, rest)

/-! ## Classes by property -/

/-- the parts of a text before and after the first `mark` -/
def splitAt? (mark : Char) (text : List Char) : Option (List Char × List Char) :=
  if text.contains mark then some (text.takeWhile (· ≠ mark), (text.dropWhile (· ≠ mark)).drop 1) else none

/-- the parts of a text before and after the first `!=` -/
def splitUnequal? : List Char → Option (List Char × List Char)
  | [] => none
  | '!' :: '=' :: rest => some ([], rest)
  | c :: cs => (splitUnequal? cs).map fun (before, after) => (c :: before, after)

/-- the property that a text in braces names, and whether the text asks for its opposite -/
def property? (text : List Char) : Option (CharSet × Bool) :=
  match splitUnequal? text with
  | some (name, value) => (CharSet.valued? name value).map (·, true)
  | none =>
    match splitAt? ':' text with
    | some (name, value) => (CharSet.valued? name value).map (·, false)
    | none =>
      match splitAt? '=' text with
      | some (name, value) => (CharSet.valued? name value).map (·, false)
      | none => (CharSet.named? text).map (·, false)

/-- a class by property, after `\p` or `\P`: a letter, or a text in braces -/
def propertyEscape (flags : Flags) (negated : Bool) (cs : List Char) : Option (CharSet × List Char) := do
  if !flags.unicode then none
  match skipBlanks flags.extended cs with
  | [] => none
  | '\\' :: _ => none
  | '\x7b' :: cs =>
    let (text, rest) ← braced flags.extended cs
    let (s, opposite) ← property? text
    return (← flags.closedOrCompl (negated != opposite) s, rest)
  | c :: cs =>
    let (s, opposite) ← property? [c]
    return (← flags.closedOrCompl (negated != opposite) s, cs)

/-- `\d`, `\s` and `\w`, and their complements in capitals; they are closed under case as they are -/
def shorthand? (flags : Flags) (c : Char) : Option CharSet :=
  let pick (wide narrow : CharSet) (negated : Bool) : Option CharSet :=
    if flags.unicode then some (.complIf negated wide) else if negated then none else some narrow
  match c with
  | 'd' => pick .digit .asciiDigit false
  | 'D' => pick .digit .asciiDigit true
  | 's' => pick .space .asciiSpace false
  | 'S' => pick .space .asciiSpace true
  | 'w' => pick .word .asciiWord false
  | 'W' => pick .word .asciiWord true
  | _ => none

/-! ## Escapes -/

/-- characters with a meaning of their own in a pattern -/
def isMeta (c : Char) : Bool := "\\.+*?()|[]{}^$#&-~".toList.contains c

/-- characters that a backslash may precede without giving them a meaning -/
def isEscapable (c : Char) : Bool :=
  isMeta c || (c.toNat < 128 && !c.isAlphanum && c ≠ '<' && c ≠ '>')

/-- characters in the name of a word edge -/
def isEdgeChar (c : Char) : Bool := c.isAlpha || c = '-'

/-- the name of a special word edge in braces; braces that begin otherwise count a repetition and are left alone -/
def wordEdge (extended : Bool) (cs : List Char) : Option (WordEdge × List Char) :=
  match cs with
  | '\x7b' :: more =>
    match skipBlanks extended more with
    | [] => none
    | c :: cs' =>
      if !isEdgeChar c then some (.boundary, cs)
      else
        match run extended isEdgeChar false (c :: cs') with
        | (name, '\x7d' :: rest) =>
          match String.ofList name with
          | "start" => some (.start, rest)
          | "end" => some (.finish, rest)
          | "start-half" => some (.startHalf, rest)
          | "end-half" => some (.finishHalf, rest)
          | _ => none
        | _ => none
  | _ => some (.boundary, cs)

/-- what stands after a backslash -/
def escape (flags : Flags) (cs : List Char) : Option (Primitive × List Char) :=
  let word (edge : WordEdge) : Primitive := .look (.word edge (!flags.unicode))
  match cs with
  | [] => none
  | c :: rest =>
    if c.isDigit then none
    else if c = 'x' then (hexEscape flags 2 rest).map fun (c, rest) => (.char c, rest)
    else if c = 'u' then (hexEscape flags 4 rest).map fun (c, rest) => (.char c, rest)
    else if c = 'U' then (hexEscape flags 8 rest).map fun (c, rest) => (.char c, rest)
    else if c = 'p' ∨ c = 'P' then
      (propertyEscape flags (c = 'P') rest).map fun (s, rest) => (.set s, rest)
    else if "dDsSwW".toList.contains c then (shorthand? flags c).map fun s => (.set s, rest)
    else if isEscapable c then some (.char c, rest)
    else
      match c with
      | 'a' => some (.char '\x07', rest)
      | 'f' => some (.char '\x0c', rest)
      | 't' => some (.char '\t', rest)
      | 'n' => some (.char '\n', rest)
      | 'r' => some (.char '\r', rest)
      | 'v' => some (.char '\x0b', rest)
      | 'A' => some (.look .textStart, rest)
      | 'z' => some (.look .textEnd, rest)
      | 'b' => (wordEdge flags.extended rest).map fun (edge, rest) => (word edge, rest)
      | 'B' => some (word .inside, rest)
      | '<' => some (word .start, rest)
      | '>' => some (word .finish, rest)
      | _ => none

end Read
end ScopedStore.Pattern
