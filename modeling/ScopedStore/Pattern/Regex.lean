/-
Regular expressions over characters, with the assertions that look at the place of a match in its text.

`Regex.Matches text r i j` says that `r` can read `text` from place `i` to place `j`, a place being a number of
characters passed. Groups, the marks of greed and the marks of octets do not count for this; they count for the size of
an expression.
-/
import ScopedStore.Pattern.Property

namespace ScopedStore.Pattern

/-- what is asked of the characters on either side of a place -/
inductive WordEdge where
  | boundary | inside | start | finish | startHalf | finishHalf
  deriving DecidableEq

/-- an assertion about a place -/
inductive Look where
  | textStart
  | textEnd
  /-- after a line break; `crlf` takes a carriage return for one as well -/
  | lineStart (crlf : Bool)
  | lineEnd (crlf : Bool)
  | word (edge : WordEdge) (ascii : Bool)
  deriving DecidableEq

/-- a regular expression -/
inductive Regex where
  | empty
  /-- characters one after the other -/
  | literal (cs : List Char)
  /-- one character of a set; `octets` marks a set written where only ASCII characters count -/
  | set (octets : Bool) (s : CharSet)
  | look (l : Look)
  | cat (a b : Regex)
  | alt (a b : Regex)
  /-- at least `low` times, and at most `high` times if there is such a bound -/
  | repeated (a : Regex) (low : Nat) (high : Option Nat) (greedy : Bool)
  /-- an expression in parentheses, with its number if it has one -/
  | group (number : Option Nat) (a : Regex)
  deriving DecidableEq

/-- a character of words -/
def isWordChar (ascii : Bool) (c : Char) : Bool :=
  if ascii then CharSet.asciiWord.contains c else CharSet.word.contains c

/-- the assertion is true between two characters; at the ends of a text there is none on one side -/
def Look.holds (before after : Option Char) : Look → Bool
  | .textStart => before.isNone
  | .textEnd => after.isNone
  | .lineStart crlf =>
    match before with
    | none => true
    | some c => c = '\n' || (c = '\r' && crlf && after != some '\n')
  | .lineEnd crlf =>
    match after with
    | none => true
    | some c => (c = '\r' && crlf) || (c = '\n' && !(crlf && before == some '\r'))
  | .word edge ascii =>
    let left := before.any (isWordChar ascii)
    let right := after.any (isWordChar ascii)
    match edge with
    | .boundary => left != right
    | .inside => left == right
    | .start => !left && right
    | .finish => left && !right
    | .startHalf => !left
    | .finishHalf => !right

namespace Regex

/-- `n` steps of a relation, one after the other -/
inductive Steps {α : Type} (rel : α → α → Prop) : Nat → α → α → Prop where
  | none (x : α) : Steps rel 0 x x
  | more {n : Nat} {x y z : α} (h : rel x y) (hs : Steps rel n y z) : Steps rel (n + 1) x z

/-- the character right before a place -/
def charBefore (text : List Char) : Nat → Option Char
  | 0 => none
  | i + 1 => text[i]?

/-- the expression reads the text from one place to another -/
def Matches (text : List Char) : Regex → Nat → Nat → Prop
  | .empty, i, j => i = j
  | .literal cs, i, j => cs <+: text.drop i ∧ j = i + cs.length
  | .set _ s, i, j => ∃ c, text[i]? = some c ∧ s.contains c = true ∧ j = i + 1
  | .look l, i, j => l.holds (charBefore text i) text[i]? = true ∧ i = j
  | .cat a b, i, k => ∃ j, a.Matches text i j ∧ b.Matches text j k
  | .alt a b, i, j => a.Matches text i j ∨ b.Matches text i j
  | .repeated a low high _, i, j => ∃ n, low ≤ n ∧ (∀ m ∈ high, n ≤ m) ∧ Steps (a.Matches text) n i j
  | .group _ a, i, j => a.Matches text i j

end Regex
end ScopedStore.Pattern
