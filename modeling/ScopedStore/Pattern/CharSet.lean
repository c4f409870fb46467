/-
Sets of characters as ranges of code points.

A set has one form only: its ranges stand in order, and two ranges that overlap or touch are one. So two notations of
the same set give the same value. `union`, `inter`, `diff`, `symmDiff` and `compl` work on the ranges in one pass.
`caseClosure` adds every character that differs from a member only in case.
-/
import ScopedStore.Unicode.Folding

namespace ScopedStore.Pattern

/-- a set of characters: closed ranges of code points, in order, of which no two overlap or touch -/
structure CharSet where
  ranges : List (Nat × Nat)
  deriving DecidableEq

namespace CharSet

/-- membership -/
def contains (s : CharSet) (c : Char) : Bool := Unicode.inRanges s.ranges c.toNat

/-! ## Lists of ranges -/

/-- the last code point -/
def top : Nat := 0x10FFFF

/-- the next code point that a character has -/
def next (n : Nat) : Nat := if n = 0xD7FF then 0xE000 else n + 1

/-- the code point before that a character has -/
def previous (n : Nat) : Nat := if n = 0xE000 then 0xD7FF else n - 1

/-- ranges by their lower ends, with those joined that overlap or touch; the range from `low` to `high` comes first -/
def joinFrom (low high : Nat) : List (Nat × Nat) → List (Nat × Nat)
  | [] => [(low, high)]
  | (a, b) :: rows =>
    if a ≤ high + 1 then joinFrom low (max high b) rows else (low, high) :: joinFrom a b rows

/-- ranges by their lower ends, with those joined that overlap or touch -/
def join : List (Nat × Nat) → List (Nat × Nat)
  | [] => []
  | (low, high) :: rows => joinFrom low high rows

/-- two lists of ranges as one, by their lower ends -/
def merge : List (Nat × Nat) → List (Nat × Nat) → List (Nat × Nat)
  | [], ys => ys
  | x :: xs, ys => ys.takeWhile (·.1 ≤ x.1) ++ x :: merge xs (ys.dropWhile (·.1 ≤ x.1))

/-- what two lists of ranges have in common -/
def overlap : List (Nat × Nat) → List (Nat × Nat) → List (Nat × Nat)
  | [], _ => []
  | x :: xs, ys =>
    let ys := ys.dropWhile (·.2 < x.1)
    (ys.takeWhile (·.1 ≤ x.2)).map (fun y => (max x.1 y.1, min x.2 y.2)) ++ overlap xs ys

/-- the stretches between the ranges and after them, `high` being the end of the range before. Between the last code
point below the surrogates and the first one above there is nothing, which shows as a stretch that ends before it
begins. -/
def gapsAfter (high : Nat) : List (Nat × Nat) → List (Nat × Nat)
  | [] => if high < top then [(next high, top)] else []
  | (a, b) :: rows => (next high, previous a) :: gapsAfter b rows

/-- the stretches before, between and after the ranges -/
def gaps : List (Nat × Nat) → List (Nat × Nat)
  | [] => [(0, top)]
  | (a, b) :: rows => (if 0 < a then [(0, previous a)] else []) ++ gapsAfter b rows

/-! ## Sets -/

/-- no character -/
def none : CharSet := ⟨[]⟩

/-- the characters from one to another -/
def range (low high : Char) : CharSet := ⟨[(low.toNat, high.toNat)]⟩

/-- the set of a single character -/
def single (c : Char) : CharSet := range c c

/-- the set of a table whose rows stand in order -/
def ofTable (rows : List (Nat × Nat)) : CharSet := ⟨join rows⟩

/-- the set of ranges in any order -/
def ofRanges (rows : List (Nat × Nat)) : CharSet := ⟨join (rows.mergeSort fun a b => a.1 ≤ b.1)⟩

def union (a b : CharSet) : CharSet := ⟨join (merge a.ranges b.ranges)⟩

def inter (a b : CharSet) : CharSet := ⟨overlap a.ranges b.ranges⟩

def diff (a b : CharSet) : CharSet := ⟨overlap a.ranges ((gaps b.ranges).filter fun r => r.1 ≤ r.2)⟩

def symmDiff (a b : CharSet) : CharSet := (a.union b).diff (a.inter b)

/-- the characters outside the set. The empty stretch at the surrogates is read backwards, as the two code points on
either side: a set that names both of these, and no third one beside either, keeps them in its complement. -/
def compl (a : CharSet) : CharSet := ⟨(gaps a.ranges).map fun r => (min r.1 r.2, max r.1 r.2)⟩

/-- the set or its complement -/
def complIf (negated : Bool) (a : CharSet) : CharSet := if negated then a.compl else a

/-- with every character that folds like a member -/
def caseClosure (a : CharSet) : CharSet :=
  let images := Unicode.foldPairs.filterMap fun (source, image) =>
    if Unicode.inRanges a.ranges source then some (image, image) else Option.none
  let folded := a.union (ofRanges images)
  let sources := Unicode.foldPairs.filterMap fun (source, image) =>
    if Unicode.inRanges folded.ranges image then some (source, source) else Option.none
  folded.union (ofTable sources)

/-- with every ASCII letter in the other case -/
def asciiCaseClosure (a : CharSet) : CharSet :=
  let lower := (a.inter (range 'A' 'Z')).ranges.map fun r => (r.1 + 32, r.2 + 32)
  let upper := (a.inter (range 'a' 'z')).ranges.map fun r => (r.1 - 32, r.2 - 32)
  (a.union ⟨lower⟩).union ⟨upper⟩

/-- every member is an ASCII character -/
def isAscii (a : CharSet) : Bool := a.ranges.all (·.2 < 128)

/-- the only member, if there is just one -/
def only? (a : CharSet) : Option Char :=
  match a.ranges with
  | [(low, high)] => if low = high then some (Char.ofNat low) else Option.none
  | _ => Option.none

/-! ## Classes with a name -/

def asciiDigit : CharSet := range '0' '9'
def asciiWord : CharSet := ⟨[(0x30, 0x39), (0x41, 0x5A), (0x5F, 0x5F), (0x61, 0x7A)]⟩
def asciiSpace : CharSet := ⟨[(0x09, 0x0D), (0x20, 0x20)]⟩

/-- the classes that have a name between brackets and colons -/
def asciiClasses : List (String × CharSet) :=
  [
    ("alnum", ⟨[(0x30, 0x39), (0x41, 0x5A), (0x61, 0x7A)]⟩),
    ("alpha", ⟨[(0x41, 0x5A), (0x61, 0x7A)]⟩),
    ("ascii", ⟨[(0x00, 0x7F)]⟩),
    ("blank", ⟨[(0x09, 0x09), (0x20, 0x20)]⟩),
    ("cntrl", ⟨[(0x00, 0x1F), (0x7F, 0x7F)]⟩),
    ("digit", asciiDigit),
    ("graph", ⟨[(0x21, 0x7E)]⟩),
    ("lower", ⟨[(0x61, 0x7A)]⟩),
    ("print", ⟨[(0x20, 0x7E)]⟩),
    ("punct", ⟨[(0x21, 0x2F), (0x3A, 0x40), (0x5B, 0x60), (0x7B, 0x7E)]⟩),
    ("space", asciiSpace),
    ("upper", ⟨[(0x41, 0x5A)]⟩),
    ("word", asciiWord),
    ("xdigit", ⟨[(0x30, 0x39), (0x41, 0x46), (0x61, 0x66)]⟩)]

end CharSet
end ScopedStore.Pattern
